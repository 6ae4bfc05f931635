import NavState.Schedule
import NavState.Task

namespace NavState

/-!
# Runtimes

Tasks run on a runtime that is none of ours.  It is free to poll the tasks that
are due in any order.  What it is relied on for is little: whatever it gives up
it drops, with everything that this owns, and an ending is final.
-/

/-- What runs the tasks. -/
structure Runtime where
  /-- The task that is polled next, which counts if it is due. -/
  next? : Schedule → Option Nat
  /-- How many ticks a round lasts at most. -/
  roundLength : Nat
  /-- Whether a future that is refused is dropped, with everything that it owns. -/
  dropsRefused : Bool
  /-- Whether a task that is lost is dropped, with everything that it owns. -/
  dropsLost : Loss → Bool
  /-- What a request to cancel a task makes of the ending that it has. -/
  cancelEnded : Ending → Ending

namespace Runtime

/-- What is assumed of a runtime. -/
structure Reliable (runtime : Runtime) : Prop where
  dropsRefused : runtime.dropsRefused = true
  dropsLost : ∀ loss, runtime.dropsLost loss = true
  cancelEnded : ∀ ending, runtime.cancelEnded ending = ending

/-- Take the task that is polled next, if there is one. -/
def take? (schedule : Schedule) (runtime : Runtime) : Option (Nat × Schedule) := do
  let task ← runtime.next? schedule
  return (task, ← schedule.take? task)

/-- Arrivals come first whenever this many ticks have passed. -/
def arrivalInterval : Nat := 31

/--
The runtime that is at hand.  Tasks scheduled while tasks run come first, and so
that arrivals do not starve, every so many ticks these come first instead.
-/
def standard : Runtime where
  next? := fun schedule =>
    if schedule.ticks % arrivalInterval = 0 then
      schedule.arrivals.head?.or schedule.queue.head?
    else
      schedule.queue.head?.or schedule.arrivals.head?
  roundLength := 61
  dropsRefused := true
  dropsLost := fun _ => true
  cancelEnded := fun ending => ending

theorem reliable_standard : standard.Reliable :=
  ⟨rfl, fun _ => rfl, fun _ => rfl⟩

end Runtime

/-- Ask for a task to be cancelled, which the runtime sees to when it polls next. -/
def Task.abort (runtime : Runtime) (task : Task) : Bool × Task :=
  let asked := { task with cancelling := true }
  match task.stage with
  | .ended ending => (false, asked.finish (runtime.cancelEnded ending))
  | _ => asked.wake

end NavState
