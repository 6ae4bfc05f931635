import NavState.Cache.Report

namespace NavState.Cache

/-!
# Operations of the cache

Each operation runs on the cache alone, without interruption, and gives a turn.
Whatever may call back, the listener of the cache and the attempt that is asked
to settle, comes after the turn.  What the operation reads from the host, the
page the history shows, is an argument.
-/

variable {ι κ ν : Type} [DecidableEq ι] [DecidableEq κ]

/-- Read the value of `key`. -/
def get (key : κ) (cache : Cache ι κ ν) : Turn ι κ ν (Option ν) :=
  let value := cache.lookup? key
  { result := value
    cache := cache
    reports := [.count (if value.isSome then .hit else .miss)]
    departures := [] }

/--
Bind `key` to `value`.  Without a transition in flight the store of the current
page is created first, if it is not retained.
-/
def set
    (key : κ)
    (value : ν)
    (cache : Cache ι κ ν) :
    Turn ι κ ν ν :=
  match cache.pending with
  | some pending =>
      { result := value
        cache :=
          { cache with
            pending :=
              some { pending with store := pending.store.insert key value } }
        reports := [.size cache.table.size, .count .set]
        departures := [] }
  | none =>
      let (ensured, departures) := cache.table.ensure cache.current
      let table := ensured.adjust cache.current (Store.insert key value)
      { result := value
        cache := { cache with table := table }
        reports :=
          evictionNotes departures ++ [.size table.size, .count .set]
        departures := departures }

/-- Remove the binding of `key`, giving the value it had. -/
def delete (key : κ) (cache : Cache ι κ ν) : Turn ι κ ν (Option ν) :=
  { result := cache.lookup? key
    cache := cache.adjustTarget (Store.erase key)
    reports := [.count .delete]
    departures := [] }

/-- The store a transition starts from, given the page the history shows. -/
def prepare
    (observed : ι)
    (cache : Cache ι κ ν) :
    Movement × Store κ ν :=
  if observed = cache.current then
    (.forward, Store.markHistoric true {})
  else
    (.traversal,
      Store.markHistoric true ((cache.table.get? observed).getD {}))

/-- The departure of the pending store, if there is one. -/
def abandoned (cache : Cache ι κ ν) : List (Departure ι) :=
  match cache.pending with
  | none => []
  | some _ => [Departure.mk .discard cache.current]

/-- The reports on a pending store that a newer transition takes the place of. -/
def supersededReports (cache : Cache ι κ ν) : List (Report ι) :=
  match cache.pending with
  | none => []
  | some pending =>
      [.note (.superseded pending.generation), .count .discard]

/-- The reports on a pending store that is cleared away. -/
def clearedReports (cache : Cache ι κ ν) : List (Report ι) :=
  match cache.pending with
  | none => []
  | some _ => [.count .discard]

/--
Announce a transition.  The result is the generation under which it will be
settled, or nothing if the attempt is remembered as handled.  A pending store
that is still there is superseded.
-/
def announce
    (attempt : UInt64)
    (observed : ι)
    (cache : Cache ι κ ν) :
    Turn ι κ ν (Option Nat) :=
  match cache.remember? attempt with
  | none =>
      { result := none
        cache := cache
        reports := [.note (.ignored attempt), .count .duplicate]
        departures := [] }
  | some remembered =>
      let (movement, store) := cache.prepare observed
      let generation := cache.generation + 1
      { result := some generation
        cache :=
          { remembered with
            generation := generation
            pending := some ⟨generation, movement, store⟩ }
        reports :=
          [.note
            (.started attempt generation movement cache.current observed)] ++
            cache.supersededReports ++
            [.count .transition]
        departures := cache.abandoned }

/-- A settlement that finds no pending store of its generation. -/
def settleStale
    (generation : Nat)
    (outcome : Outcome)
    (cache : Cache ι κ ν) :
    Turn ι κ ν Unit :=
  { result := ()
    cache := cache
    reports := [.note (.stale generation outcome), .count .stale]
    departures := [] }

/--
Commit a pending store for the page the history shows now.  A forward
transition lowers the flag of the store.
-/
def commit
    (pending : Pending κ ν)
    (observed : ι)
    (cache : Cache ι κ ν) :
    Turn ι κ ν Unit :=
  let store :=
    match pending.movement with
    | .forward => pending.store.markHistoric false
    | .traversal => pending.store
  let (table, departures) := cache.table.commit observed store
  { result := ()
    cache := { cache with table := table, current := observed, pending := none }
    reports :=
      [.note (.committed pending.generation pending.movement observed)] ++
        evictionNotes departures ++
        [.count .commit, .size table.size]
    departures := departures }

/-- Drop a pending store whose transition did not succeed. -/
def discard
    (generation : Nat)
    (outcome : Outcome)
    (cache : Cache ι κ ν) :
    Turn ι κ ν Unit :=
  { result := ()
    cache := { cache with pending := none }
    reports := [.note (.unsuccessful generation outcome), .count .discard]
    departures := [Departure.mk .discard cache.current] }

/--
Settle the transition of a generation.  Only the pending store of that very
generation is committed or discarded; any other settlement is stale.
-/
def settle
    (generation : Nat)
    (outcome : Outcome)
    (observed : ι)
    (cache : Cache ι κ ν) :
    Turn ι κ ν Unit :=
  match cache.pending with
  | none => cache.settleStale generation outcome
  | some pending =>
      if pending.generation = generation then
        if outcome.isSuccess then
          cache.commit pending observed
        else
          cache.discard generation outcome
      else
        cache.settleStale generation outcome

/--
Drop every store, committed or pending, and follow the history again.  Handled
attempts stay handled, and generations go on from where they are.
-/
def clear (observed : ι) (cache : Cache ι κ ν) : Turn ι κ ν Unit :=
  let (table, cleared) := cache.table.clear
  { result := ()
    cache := { cache with table := table, current := observed, pending := none }
    reports := cache.clearedReports ++ [.size 0]
    departures := cleared ++ cache.abandoned }

end NavState.Cache
