namespace NavState

/-!
# Departures

Every store that leaves a cache leaves it for one of four reasons, and the
listener of the cache is told which.
-/

/-- Why a store left. -/
inductive Reason where
  /-- The table exceeded its capacity. -/
  | evict
  /-- A newer store was committed for the same page. -/
  | replace
  /-- The cache was cleared. -/
  | clear
  /-- The store was pending and its transition did not commit it. -/
  | discard
  deriving Repr, DecidableEq

/-- One store that left, under the page it is announced for. -/
structure Departure (ι : Type) where
  reason : Reason
  page : ι
  deriving Repr, DecidableEq

namespace Reason

/-- The name under which a reason is announced. -/
def label : Reason → String
  | evict => "Evict"
  | replace => "Replace"
  | clear => "Clear"
  | discard => "Discard"

end Reason

end NavState
