import NavState.Cache.Basic

namespace NavState

/-!
# What a cache reports

An operation reports what it did in three ways: it counts events, it publishes
the number of retained pages, and it leaves notes for a trace.  The reports of
one operation form a list in the order in which they are made.
-/

/-- The events a cache counts. -/
inductive Tally where
  | hit
  | miss
  | set
  | delete
  | transition
  | duplicate
  | commit
  | discard
  | stale
  | evict
  deriving Repr, DecidableEq

namespace Tally

/-- Every tally, in the order in which a cache sets its counters up. -/
def all : List Tally :=
  [hit, miss, set, delete, transition, duplicate, commit, discard, stale, evict]

/-- The name of a tally. -/
def label : Tally → String
  | hit => "hit"
  | miss => "miss"
  | set => "set"
  | delete => "delete"
  | transition => "transition"
  | duplicate => "duplicate"
  | commit => "commit"
  | discard => "discard"
  | stale => "stale"
  | evict => "evict"

end Tally

/-- A note on one decision of a cache. -/
inductive Note (ι : Type) where
  | ignored (attempt : UInt64)
  | started
      (attempt : UInt64)
      (generation : Nat)
      (movement : Movement)
      (current observed : ι)
  | superseded (generation : Nat)
  | stale (generation : Nat) (outcome : Outcome)
  | committed (generation : Nat) (movement : Movement) (page : ι)
  | unsuccessful (generation : Nat) (outcome : Outcome)
  | evicted (page : ι)
  deriving Repr, DecidableEq

/-- One report of an operation. -/
inductive Report (ι : Type) where
  /-- One more event of this tally. -/
  | count (tally : Tally)
  /-- The number of retained pages now. -/
  | size (pages : Nat)
  | note (note : Note ι)
  deriving Repr, DecidableEq

/--
One uninterrupted operation: its result, the cache after it, its reports in
order, and the departures that are announced once the cache is released.
-/
structure Turn (ι κ ν ρ : Type) where
  result : ρ
  cache : Cache ι κ ν
  reports : List (Report ι)
  departures : List (Departure ι)
  deriving DecidableEq

/-- Notes on the evictions among some departures. -/
def evictionNotes {ι : Type} (departures : List (Departure ι)) :
    List (Report ι) :=
  departures.filterMap fun departure =>
    match departure.reason with
    | .evict => some (.note (.evicted departure.page))
    | .replace => none
    | .clear => none
    | .discard => none

end NavState
