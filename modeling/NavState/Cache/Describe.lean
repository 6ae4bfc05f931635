import NavState.Cache.Basic
import NavState.Text.Quoted
import NavState.Text.Record

namespace NavState.Cache

/-!
# Diagnostic texts of caches and stores
-/

/-- The diagnostic text of a cache, given the text of a page. -/
def describe
    {ι κ ν : Type}
    (describePage : ι → String)
    (name : String)
    (cache : Cache ι κ ν) :
    String :=
  Text.record "NavigationCache" [
    ("name", Text.quote name),
    ("current", describePage cache.current),
    ("entries", Text.sequence (cache.table.pages.map describePage)),
    ("capacity", toString cache.table.capacity),
    ("transitioning", Text.truth cache.isTransitioning)]

end NavState.Cache

namespace NavState.Store

/-- The diagnostic text of a store: its keys and its flag. -/
def describe (store : Store String String) : String :=
  Text.record "EntryStore" [
    ("keys",
      Text.sequence ((Assoc.keys store.bindings).map Text.quote)),
    ("historic", Text.truth store.historic)]

end NavState.Store
