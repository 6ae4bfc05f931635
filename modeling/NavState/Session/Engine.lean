import NavState.Session.World

namespace NavState.Session.World

/-!
# Callbacks

A turn of a cache runs to its end before anything is called back.  Then its
departures are delivered to the listener one by one, and an announced attempt is
asked last to settle its generation, so whatever the listener does comes in
between.

Client code enters as an argument: the functions below call it wherever the
client takes over, and they call each other without recursion.
-/

/-- Take the outcome of a turn over: its reports in order, and the new cache. -/
def enact
    {ρ : Type}
    (index : Nat)
    (cell : Cell)
    (turn : Turn PageId String String ρ)
    (world : World) :
    World :=
  turn.reports.foldl (file cell.meters) (world.putCache index turn.cache)

/-- Deliver one departure: evictions are counted, then the listener is called. -/
def deliverOne
    (client : Client)
    (cell : Cell)
    (world : World)
    (departure : Departure PageId) :
    World :=
  let counted :=
    if departure.reason = .evict then
      world.change (cell.meters.tally .evict) (.increase 1)
    else
      world
  match cell.listener with
  | none => counted
  | some listener =>
      client (listener.scripts.on departure.reason)
        (counted.record (.departed departure listener.cache))

/-- Deliver departures in order. -/
def deliver
    (client : Client)
    (cell : Cell)
    (departures : List (Departure PageId))
    (world : World) :
    World :=
  departures.foldl (deliverOne client cell) world

/-- Let a turn take place and deliver its departures. -/
def takeTurn
    {ρ : Type}
    (client : Client)
    (index : Nat)
    (cell : Cell)
    (turn : Turn PageId String String ρ)
    (world : World) :
    World :=
  (world.enact index cell turn).deliver client cell turn.departures

/-- Settle a generation of a cell. -/
def settleGeneration
    (client : Client)
    (index generation : Nat)
    (outcome : Outcome)
    (world : World) :
    World :=
  match world.cells[index]? with
  | none => world
  | some cell =>
      let turn := cell.cache.settle generation outcome (world.observed cell)
      world.takeTurn client index cell turn

/-- Run a callback of an attempt with the outcome it waited for. -/
def runCallback
    (client : Client)
    (attempt : Nat)
    (outcome : Outcome)
    (world : World)
    (callback : Callback) :
    World :=
  let begun := world.note (.begin attempt callback outcome)
  match callback with
  | .settlement cell generation =>
      begun.settleGeneration client cell generation outcome
  | .script label steps =>
      client steps (begun.record (.settled label outcome))

/-- Register a callback with an attempt, which may run it at once. -/
def onSettle
    (client : Client)
    (index : Nat)
    (callback : Callback)
    (world : World) :
    World :=
  match world.slots[index]? with
  | none => world
  | some slot =>
      let (attempt, due) := slot.attempt.onSettle callback
      let registered := world.note (.register index callback)
      match due with
      | none => registered.putAttempt index attempt
      | some outcome => registered.runCallback client index outcome callback

/-- Let go of a resolver, which aborts its attempt unless it was used before. -/
def dropResolver
    (client : Client)
    (index : Nat)
    (resolver : Resolver)
    (world : World) :
    World :=
  match world.slots[index]? with
  | none => world
  | some slot =>
      let (_, attempt, callbacks) := resolver.drop slot.attempt
      callbacks.foldl (runCallback client index .aborted)
        (world.putAttempt index attempt)

/--
Settle an attempt and run the callbacks that waited for it, in order.  Then the
resolver is let go of.
-/
def settleAttempt
    (client : Client)
    (index : Nat)
    (resolver : Resolver)
    (outcome : Outcome)
    (world : World) :
    World :=
  match world.slots[index]? with
  | none => world
  | some slot =>
      let (used, attempt, callbacks) := resolver.settle outcome slot.attempt
      let settled :=
        callbacks.foldl (runCallback client index outcome)
          (world.putAttempt index attempt)
      settled.dropResolver client index used

/-- Make an entry about what a cell put in place for an attempt that it accepted. -/
def noteAccepted
    (index : Nat)
    (attempt : Option Nat)
    (accepted : Option Nat)
    (world : World) :
    World :=
  match accepted with
  | none => world
  | some generation => world.note (.install index generation attempt)

/--
Announce an attempt to a cell under an id, giving the generation to settle if it
is accepted.
-/
def accept
    (client : Client)
    (index : Nat)
    (cell : Cell)
    (attempt : Option Nat)
    (id : UInt64)
    (world : World) :
    Option Nat × World :=
  let turn := cell.cache.announce id (world.observed cell)
  (turn.result,
    (world.noteAccepted index attempt turn.result).takeTurn client index cell
      turn)

/-- Announce an attempt to a cell and register the settlement with it. -/
def announceAttempt
    (client : Client)
    (index : Nat)
    (cell : Cell)
    (attempt : Nat)
    (id : UInt64)
    (world : World) :
    World :=
  match world.accept client index cell (some attempt) id with
  | (none, world) => world
  | (some generation, world) =>
      world.onSettle client attempt (.settlement index generation)

/--
Announce an attempt of the host.  On registration it runs a script, and then it
settles at once, or lets the callback go.
-/
def announceHosted
    (client : Client)
    (index : Nat)
    (cell : Cell)
    (id : UInt64)
    (outcome : Option Outcome)
    (script : Script)
    (world : World) :
    World :=
  match world.accept client index cell none id with
  | (none, world) => world
  | (some generation, world) =>
      let registered := client script (world.record (.registering id))
      match outcome with
      | none => registered
      | some outcome =>
          registered.settleGeneration client index generation outcome

end NavState.Session.World
