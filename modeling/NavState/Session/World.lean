import NavState.Cache.Turns
import NavState.Session.Command
import NavState.Session.Log
import NavState.Metric.Standard
import NavState.Runtime

namespace NavState.Session

/-!
# The world of a session

The world holds all objects of a session and its log.  Clones of a cache are
indices of the same cell, and a callback is data: the settlement of a generation
of a cell, or a script with a label.
-/

/-- A registry that metrics are asked of. -/
inductive Registry where
  /-- Metrics that lead nowhere. -/
  | silent
  /-- Metrics that log every call. -/
  | recording
  /-- Metrics of a catalogue of the depot. -/
  | exporting (catalogue : Nat)
  deriving Repr, DecidableEq

/-- One metric that was asked of a registry. -/
inductive Meter where
  | silent
  | recorded (name : String) (values : List String)
  | stored (vector : Nat) (address : Nat)
  deriving Repr, DecidableEq

/-- The metrics of one cache. -/
structure Meters where
  tallies : Assoc Tally Meter
  pages : Meter
  deriving Repr, DecidableEq

/-- The metric of a tally. -/
def Meters.tally (meters : Meters) (tally : Tally) : Meter :=
  (Assoc.find? tally meters.tallies).getD .silent

/-- A listener announces departures under the index of its cache. -/
structure Listener where
  cache : Nat
  scripts : Scripts Step

/-- A cache with its name and everything it is connected to. -/
structure Cell where
  name : String
  host : Nat
  cache : Cache PageId String String
  listener : Option Listener
  meters : Meters

/-- What runs when an attempt settles. -/
inductive Callback where
  | settlement (cell generation : Nat)
  | script (label : String) (steps : Script)

/-- A pending store that a cell put in place for an attempt. -/
structure Installation where
  cache : Nat
  generation : Nat
  attempt : Nat
  deriving Repr, DecidableEq

/-- A callback that was registered with an attempt. -/
structure Registration where
  attempt : Nat
  callback : Callback

/-- A callback of an attempt that began to run with an outcome. -/
structure Beginning extends Registration where
  outcome : Outcome

/--
What happened to attempts so far, in order, whoever asked for it.  Nothing is
decided by it.
-/
structure Journal where
  installed : List Installation := []
  /-- The cells and generations of pending stores for attempts of the host itself. -/
  hosted : List (Nat × Nat) := []
  registered : List Registration := []
  begun : List Beginning := []
  /-- What client code noted down for itself. -/
  remarks : List String := []

namespace Journal

/-- A cell put a pending store in place, for an attempt or for one of the host. -/
def install
    (cell generation : Nat)
    (attempt : Option Nat)
    (journal : Journal) :
    Journal :=
  match attempt with
  | some attempt =>
      { journal with
        installed := journal.installed ++ [⟨cell, generation, attempt⟩] }
  | none => { journal with hosted := journal.hosted ++ [(cell, generation)] }

/-- A callback was registered with an attempt. -/
def register (attempt : Nat) (callback : Callback) (journal : Journal) : Journal :=
  { journal with registered := journal.registered ++ [⟨attempt, callback⟩] }

/-- A callback of an attempt began to run. -/
def begin
    (attempt : Nat)
    (callback : Callback)
    (outcome : Outcome)
    (journal : Journal) :
    Journal :=
  { journal with begun := journal.begun ++ [⟨⟨attempt, callback⟩, outcome⟩] }

end Journal

/-- An attempt with its resolver, while that is still at hand. -/
structure Slot where
  attempt : Attempt Callback
  resolver : Option Resolver

/-- All objects of a session, and the log of the command that runs. -/
structure World where
  /-- Whether trace events are logged. -/
  tracing : Bool
  hosts : List Host := []
  cells : List Cell := []
  /-- The cell of each cache. -/
  caches : List Nat := []
  slots : List Slot := []
  sequencer : UInt64 := 1
  tasks : List Task := []
  /-- The task of each handle. -/
  handles : List Nat := []
  schedule : Schedule := {}
  runtime : Runtime := .standard
  registries : List Registry := []
  depot : Metric.Depot := { library := .standard }
  counters : List Meter := []
  gauges : List Meter := []
  journal : Journal := {}
  log : List LogEntry := []

/-- Code of the client, which runs the script it is given. -/
abbrev Client := Script → World → World

namespace World

/-- Append an entry to the log. -/
def record (entry : LogEntry) (world : World) : World :=
  { world with log := world.log ++ [entry] }

/-- Make an entry in the journal. -/
def note (entry : Journal → Journal) (world : World) : World :=
  { world with journal := entry world.journal }

/-- Log a trace event, if traces are logged. -/
def trace (event : TraceEvent) (world : World) : World :=
  if world.tracing then
    world.record (.trace event)
  else
    world

/-- Change one metric. -/
def change
    (meter : Meter)
    (change : Metric.Change)
    (world : World) :
    World :=
  match meter with
  | .silent => world
  | .recorded name values => world.record (.metric (.change name values change))
  | .stored vector address =>
      { world with depot := world.depot.update vector address change }

/-- Pass one report of a cache on to its metrics or to the trace. -/
def file
    (meters : Meters)
    (world : World)
    (report : Report PageId) :
    World :=
  match report with
  | .count tally => world.change (meters.tally tally) (.increase 1)
  | .size pages => world.change meters.pages (.absolute (UInt64.ofNat pages))
  | .note note => world.trace (.noted note)

/-- The page that the host of a cell shows. -/
def observed (cell : Cell) (world : World) : PageId :=
  match world.hosts[cell.host]? with
  | some host => host.shown
  | none => cell.cache.current

/-- Put a cache into a cell. -/
def putCache
    (index : Nat)
    (cache : Cache PageId String String)
    (world : World) :
    World :=
  { world with
    cells := world.cells.modify index fun cell => { cell with cache := cache } }

/-- Put an attempt into a slot. -/
def putAttempt
    (index : Nat)
    (attempt : Attempt Callback)
    (world : World) :
    World :=
  { world with
    slots := world.slots.modify index fun slot => { slot with attempt := attempt } }

/-- Take the resolver of an attempt away. -/
def takeResolver (index : Nat) (world : World) : Option (Resolver × World) := do
  let slot ← world.slots[index]?
  let resolver ← slot.resolver
  return (resolver,
    { world with slots := world.slots.set index { slot with resolver := none } })

end World

end NavState.Session
