import NavState.Session.Attempts
import NavState.Session.Scheduler

namespace NavState.Session

/-!
# Commands on tasks

Spawning a task takes the resolver of its attempt away and hands it to the task,
which runs when tasks are drained.  Where no task can be spawned, the resolver
goes with the future that is refused.
-/

/-- The task of a handle with its index. -/
def World.task? (handle : Nat) (world : World) : Option (Nat × Task) := do
  let index ← world.handles[handle]?
  return (index, ← world.tasks[index]?)

/-- Add a task that is due, giving its index. -/
def addTask (task : Task) : Act Nat := do
  let world ← get
  let index := world.tasks.length
  set
    { world with
      tasks := world.tasks ++ [task]
      schedule := world.schedule.add index }
  return index

/-- Make a handle for a task. -/
def addHandle (task : Nat) : Act Reply := do
  let world ← get
  set { world with handles := world.handles ++ [task] }
  return .number world.handles.length

/-- The history that a task pushes, if that host has one. -/
def pushedHistory (pushes : Option Nat) (world : World) : Option Nat :=
  pushes.filter fun host =>
    match world.hosts[host]? with
    | some (.browsing _) => true
    | _ => false

/-- The runtime refuses a future that owns a resolver, and drops it with that. -/
def World.refuse
    (client : Client)
    (attempt : Nat)
    (resolver : Resolver)
    (world : World) :
    World :=
  if world.runtime.dropsRefused then
    world.dropResolver client attempt resolver
  else
    world

/-- Do away with the resolver of an attempt while the runner of tasks does something. -/
def discard
    (attempt : Nat)
    (runner : Runner)
    (lose : Resolver → World → World) :
    Act Unit := do
  match (← get).takeResolver attempt with
  | none => return ()
  | some (resolver, world) => set (world.withRunner runner (lose resolver))

/--
Spawn a task that settles an attempt.  A caller that has the idle runner of
tasks at hand spawns one with a handle.  A caller outside of the runner spawns
one only while tasks run, and that has neither handle nor sender.  A caller who
is without any runner is refused.  The resolver is let go of where nothing can
be spawned, and also when the future cannot be made out.
-/
def spawn
    (client : Client)
    (attempt : Nat)
    (future : Option Future)
    (pushes : Option Nat)
    (outside : Bool) :
    Act Reply := do
  let runner := (← get).schedule.runner
  match future with
  | none =>
      discard attempt runner (World.dropResolver client attempt)
      throw .inapplicable
  | some future =>
      let (resolver, world) ←
        Act.require .noResolver ((← get).takeResolver attempt)
      let task : Task :=
        { attempt := attempt
          resolver := some resolver
          future := future
          pushes := pushedHistory pushes world }
      match outside, runner with
      | false, .idle =>
          set world
          addHandle (← addTask task)
      | false, .barred =>
          discard attempt .barred (World.refuse client attempt)
          throw .noRunner
      | false, .running =>
          discard attempt .running (World.dropResolver client attempt)
          throw .inapplicable
      | true, .running =>
          set world
          let _ ← addTask { task with mailbox := .hungUp }
          return .nothing
      | true, _ =>
          discard attempt .barred (World.refuse client attempt)
          throw .noRunner

/-- Ask for the runner of tasks to be at hand. -/
def requireRunner : Act Unit := do
  if (← get).schedule.runner ≠ .idle then
    throw .noRunner

/-- Run the tasks that are scheduled. -/
def drain (client : Client) : Act Reply := do
  requireRunner
  modify (World.drain client)
  return .nothing

/--
Collect the ending of a task.  Where the runner of tasks is not at hand, the
ending is lost, and only that there is none yet can be told.
-/
def join (index : Nat) (task : Task) : Act Reply := do
  match task.stage with
  | .ended ending =>
      modify (World.putTask index { task with joined := true })
      requireRunner
      match ending with
      | .resolved outcome => return .outcome outcome
      | .lost .cancelled => throw .taskCancelled
      | .lost .faulted => throw .taskFaulted
  | _ => return .stillRunning

/-- Perform a command on the task of a handle. -/
def performTask (handle : Nat) (command : TaskCommand) : Act Reply := do
  let found := (← get).task? handle
  match command with
  | .send outcome =>
      let (index, task) ← Act.require .noSender found
      if task.hasSender then
        modify (World.putWoken index (task.receive (.sent outcome)))
        return .flag task.isListening
      else
        throw .noSender
  | .hangUp =>
      match found with
      | none => return .flag false
      | some (index, task) =>
          if task.hasSender then
            modify (World.putWoken index (task.receive .hungUp))
          return .flag task.hasSender
  | .abort =>
      let (index, task) ← Act.require .inapplicable found
      if task.joined then
        throw .inapplicable
      else
        modify fun world =>
          world.putWoken index (task.abort world.runtime)
        return .nothing
  | .join =>
      let (index, task) ← Act.require .inapplicable found
      if task.joined then
        throw .inapplicable
      else
        join index task

end NavState.Session
