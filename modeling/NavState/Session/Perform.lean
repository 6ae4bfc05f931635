import NavState.Session.Caches
import NavState.Session.Hosts
import NavState.Session.Metrics
import NavState.Session.Tasks

namespace NavState.Session

/-!
# Performing commands

Every command has a reply.  A command that names nothing that exists, or that
does not apply to what it names, changes nothing.
-/

/-- Perform a command; the client runs the scripts of its callbacks. -/
def perform (client : Client) (command : Command) : Act Reply := do
  match command with
  | .unreadable => throw .inapplicable
  | .openHost page =>
      let world ← get
      let host :=
        match page with
        | some page => Host.directed page
        | none => Host.browsing History.initial
      set { world with hosts := world.hosts ++ [host] }
      return .number world.hosts.length
  | .host host command => performHost host command
  | .build host request => build host request
  | .describeBuilder request => describeBuilder request
  | .cloneCache cache =>
      let (index, _) ← cellOf cache
      let world ← get
      set { world with caches := world.caches ++ [index] }
      return .number world.caches.length
  | .cache cache command => performCache client cache command
  | .announce cache attempt =>
      let (index, cell) ← cellOf cache
      let slot ← slotOf attempt
      modify (World.announceAttempt client index cell attempt slot.attempt.id)
      return .nothing
  | .announceHosted cache id outcome script =>
      let (index, cell) ← cellOf cache
      modify (World.announceHosted client index cell id outcome script)
      return .nothing
  | .openAttempt id => openAttempt id
  | .beginAttempt =>
      let id := (← get).sequencer
      modify fun world => { world with sequencer := id + 1 }
      openAttempt id
  | .resetSequencer =>
      modify fun world => { world with sequencer := 1 }
      return .nothing
  | .describeSequencer =>
      return .text (Text.record "TransitionSequencer" [
        ("next", toString (← get).sequencer)])
  | .attempt attempt command => performAttempt client attempt command
  | .onSettle attempt label script =>
      let _ ← slotOf attempt
      modify (World.onSettle client attempt (.script label script))
      return .nothing
  | .spawn attempt future pushes outside =>
      spawn client attempt future pushes outside
  | .drain => drain client
  | .task task command => performTask task command
  | .metric command => performMetric command

end NavState.Session
