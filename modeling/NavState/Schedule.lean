namespace NavState

/-!
# Schedules of tasks

Tasks that are due wait in two queues: those scheduled from outside of tasks
arrive in one, those scheduled while tasks run stand in the other.  A task that
gives way waits for the end of the round, when all that gave way become due
again, the latest first.

Tasks run in rounds.  A round ends when no task is polled or when its ticks are
used up, and looking in vain for a task takes a tick as well.
-/

/-- What the runner of tasks is doing. -/
inductive Runner where
  /-- It is at hand. -/
  | idle
  /-- A caller outside of it asks for it in vain, and meanwhile nobody has it at hand. -/
  | barred
  /-- It runs tasks. -/
  | running
  deriving Repr, DecidableEq

/-- Which tasks are due, in what order, and how many ticks have passed. -/
structure Schedule where
  /-- Tasks scheduled from outside of tasks, in order. -/
  arrivals : List Nat := []
  /-- Tasks scheduled while tasks run, in order. -/
  queue : List Nat := []
  /-- Tasks that gave way in this round, the latest first. -/
  yielded : List Nat := []
  ticks : Nat := 0
  runner : Runner := .idle
  deriving Repr, DecidableEq

namespace Schedule

/-- How many rounds tasks run for when they are drained. -/
def drainRounds : Nat := 32

/-- Schedule a task. -/
def add (task : Nat) (schedule : Schedule) : Schedule :=
  match schedule.runner with
  | .running => { schedule with queue := schedule.queue ++ [task] }
  | .idle => { schedule with arrivals := schedule.arrivals ++ [task] }
  | .barred => { schedule with arrivals := schedule.arrivals ++ [task] }

/-- Let a task wait for the end of the round. -/
def giveWay (task : Nat) (schedule : Schedule) : Schedule :=
  { schedule with yielded := task :: schedule.yielded }

/-- Let a tick pass. -/
def tick (schedule : Schedule) : Schedule :=
  { schedule with ticks := schedule.ticks + 1 }

/-- Take a task, if it is due. -/
def take? (task : Nat) (schedule : Schedule) : Option Schedule :=
  if task ∈ schedule.queue then
    some { schedule with queue := schedule.queue.erase task }
  else if task ∈ schedule.arrivals then
    some { schedule with arrivals := schedule.arrivals.erase task }
  else
    none

end Schedule

end NavState
