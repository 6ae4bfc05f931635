import NavState.Table
import NavState.Attempt

namespace NavState

/-!
# The navigation cache

A cache keeps the committed stores of the pages of one history and, while a
transition is in flight, the store being prepared for the page it leads to.
Reads and writes go to the pending store if there is one, and to the committed
store of the current page otherwise.

Every accepted transition gets a generation of its own.  The pending store
carries the generation that prepared it, so a settlement recognizes whether the
store it was meant for is still there.
-/

/-- How a transition moves through the history, told when it is announced. -/
inductive Movement where
  /-- The history still showed the current page: a link or a call. -/
  | forward
  /-- The history already showed another page: back or forward. -/
  | traversal
  deriving Repr, DecidableEq

/-- The name of a movement. -/
def Movement.label : Movement → String
  | .forward => "Forward"
  | .traversal => "Traversal"

/-- The store under construction while a transition is in flight. -/
structure Pending (κ ν : Type) where
  generation : Nat
  movement : Movement
  store : Store κ ν
  deriving Repr, DecidableEq

/-- Committed stores, the current page, and what is in flight. -/
structure Cache (ι κ ν : Type) where
  table : Table ι κ ν
  /-- The page of the last commit, or the page seen at construction or clearing. -/
  current : ι
  pending : Option (Pending κ ν)
  /-- The generation of the transition accepted last. -/
  generation : Nat
  /-- Attempts accepted lately, oldest first. -/
  handled : List UInt64
  deriving DecidableEq

namespace Cache

variable {ι κ ν : Type}

/-- How many accepted attempts a cache remembers. -/
def handledLimit : Nat := 64

/-- A cache on the page `current`; there is none for the capacity zero. -/
def empty? (capacity : Nat) (current : ι) : Option (Cache ι κ ν) :=
  (Table.empty? capacity).map fun table =>
    { table := table
      current := current
      pending := none
      generation := 0
      handled := [] }

/-- Whether a transition is in flight. -/
def isTransitioning (cache : Cache ι κ ν) : Bool :=
  cache.pending.isSome

/--
Remember `attempt` as handled, forgetting the oldest ones beyond the limit.
Nothing if it is remembered already.
-/
def remember?
    (attempt : UInt64)
    (cache : Cache ι κ ν) :
    Option (Cache ι κ ν) :=
  if attempt ∈ cache.handled then
    none
  else
    let handled := cache.handled ++ [attempt]
    some { cache with handled := handled.drop (handled.length - handledLimit) }

variable [DecidableEq ι]

/-- The store that reads and writes go to, if it exists. -/
def target? (cache : Cache ι κ ν) : Option (Store κ ν) :=
  match cache.pending with
  | some pending => some pending.store
  | none => cache.table.get? cache.current

/-- Edit the store that reads and writes go to, if it exists. -/
def adjustTarget
    (change : Store κ ν → Store κ ν)
    (cache : Cache ι κ ν) :
    Cache ι κ ν :=
  match cache.pending with
  | some pending =>
      { cache with
        pending := some { pending with store := change pending.store } }
  | none =>
      { cache with table := cache.table.adjust cache.current change }

/--
Whether the page was reached by a traversal.  In flight this is the flag of the
pending store, which is up for every transition.
-/
def isHistoric (cache : Cache ι κ ν) : Bool :=
  match cache.target? with
  | some store => store.historic
  | none => false

/-- A copy of the committed store of `page`, if retained. -/
def entry? (page : ι) (cache : Cache ι κ ν) : Option (Store κ ν) :=
  cache.table.get? page

/-- Whether a committed store of `page` is retained. -/
def retains (page : ι) (cache : Cache ι κ ν) : Bool :=
  cache.table.contains page

variable [DecidableEq κ]

/-- The value bound to `key` for the page read from. -/
def lookup? (key : κ) (cache : Cache ι κ ν) : Option ν :=
  match cache.target? with
  | some store => store.get? key
  | none => none

/-- Whether `key` is bound for the page read from. -/
def binds (key : κ) (cache : Cache ι κ ν) : Bool :=
  (cache.lookup? key).isSome

end Cache

end NavState
