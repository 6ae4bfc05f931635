import NavState.History
import NavState.PageId

namespace NavState

/-!
# Hosts

A cache reads one thing from its host: the page the host shows now.  A browsing
host moves through a session history; a directed host shows whatever page it was
last told to show.
-/

/-- What shows pages to caches. -/
inductive Host where
  | browsing (history : History)
  | directed (page : PageId)
  deriving DecidableEq

/-- The page a host shows now. -/
def Host.shown : Host → PageId
  | .browsing history => .number history.current
  | .directed page => page

end NavState
