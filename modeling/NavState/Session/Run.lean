import NavState.Session.Perform

namespace NavState.Session

/-!
# Running sessions

A script that is called back runs its steps like commands of the session and
logs the reply of each after whatever the step logged itself.  Scripts nest to a
depth that is set for the session; a script beyond it does not run.
-/

/-- How deep scripts nest, unless something else is asked for. -/
def scriptDepth : Nat := 3

/-- Run a script below which scripts nest to a given depth. -/
def runScript : Nat → Client
  | 0, _, world => world
  | depth + 1, script, world =>
      script.foldl
        (fun world step =>
          let (reply, world) := (perform (runScript depth) step.2).reply world
          world.record (.performed step.1 reply))
        world

/-- Perform a command of the session itself. -/
def performTop
    (depth : Nat)
    (command : Command)
    (world : World) :
    Reply × World :=
  (perform (runScript depth) command).reply world

/-- What can be seen of a cache after a command: its text, and its flag. -/
abbrev Status := String × Bool

/-- The answer to one command of a session. -/
structure Answer where
  reply : Reply
  log : List LogEntry
  /-- The status of the watched cache, when it is news. -/
  status : Option Status
  deriving Repr, DecidableEq

/-- A command of the session itself, with the cache that is watched meanwhile. -/
structure Watched where
  command : Command
  cache : Nat

/-- The status of the cache at an index. -/
def World.status? (cache : Nat) (world : World) : Option Status := do
  let cell ← world.cells[← world.caches[cache]?]?
  return (cell.describe, cell.cache.isHistoric)

/--
The status of a watched cache if it differs from the one given last, and all
statuses given last.
-/
def reportStatus
    (cache : Nat)
    (world : World)
    (last : Assoc Nat Status) :
    Option Status × Assoc Nat Status :=
  match world.status? cache with
  | none => (none, last)
  | some status =>
      if Assoc.find? cache last = some status then
        (none, last)
      else
        (some status, Assoc.bind cache status last)

/-- Answer commands one by one. -/
def answers
    (depth : Nat)
    (world : World)
    (last : Assoc Nat Status) :
    List Watched →
    List Answer
  | [] => []
  | watched :: rest =>
      let (reply, after) := performTop depth watched.command { world with log := [] }
      let (status, last) := reportStatus watched.cache after last
      ⟨reply, after.log, status⟩ :: answers depth after last rest

/-- Run a session, with or without a trace. -/
def run
    (depth : Nat)
    (tracing : Bool)
    (commands : List Watched) :
    List Answer :=
  answers depth { tracing := tracing } [] commands

end NavState.Session
