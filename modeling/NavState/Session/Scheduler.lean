import NavState.Session.Engine

namespace NavState.Session.World

/-!
# Running tasks

Tasks run one at a time, in the order that the runtime chooses.  A task whose
future has an outcome goes on to settle its attempt with it, and a task that is
lost leaves that to its resolver, if the runtime drops it.  Only then the runtime
keeps its ending, for whoever collects it.
-/

/-- Replace a task. -/
def putTask (index : Nat) (task : Task) (world : World) : World :=
  { world with tasks := world.tasks.set index task }

/-- Store a task that something happened to, scheduling it if it was parked. -/
def putWoken (index : Nat) (woken : Bool × Task) (world : World) : World :=
  let stored := world.putTask index woken.2
  if woken.1 then
    { stored with schedule := stored.schedule.add index }
  else
    stored

/-- Push the history of a task that is about to succeed. -/
def pushFor (task : Task) (outcome : Outcome) (world : World) : World :=
  match task.pushes with
  | none => world
  | some index =>
      if outcome.isSuccess then
        { world with
          hosts := world.hosts.modify index fun host =>
            match host with
            | .browsing history => .browsing history.push
            | .directed page => .directed page }
      else
        world

/-- A task does something with its resolver, which it owns no longer. -/
def spend
    (index : Nat)
    (task : Task)
    (use : Resolver → World → World)
    (world : World) :
    World :=
  let spent := world.putTask index task.spend
  match task.resolver with
  | none => spent
  | some resolver => use resolver spent

/-- A task goes on with the outcome that it waited for: it settles its attempt. -/
def resolveTask
    (client : Client)
    (index : Nat)
    (task : Task)
    (outcome : Outcome)
    (world : World) :
    World :=
  ((world.pushFor task outcome).trace (.resolved outcome)).spend index task
    fun resolver => settleAttempt client task.attempt resolver outcome

/-- A task is lost: the runtime drops it, and its resolver with it. -/
def loseTask
    (client : Client)
    (index : Nat)
    (task : Task)
    (loss : Loss)
    (world : World) :
    World :=
  if world.runtime.dropsLost loss then
    world.spend index task (dropResolver client task.attempt)
  else
    world

/-- The runtime keeps the ending of a task. -/
def keepEnding (index : Nat) (ending : Ending) (world : World) : World :=
  { world with tasks := world.tasks.modify index (Task.finish ending) }

/-- Poll one task, or give it up if it is to be cancelled. -/
def pollTask (client : Client) (index : Nat) (world : World) : World :=
  match world.tasks[index]? with
  | none => world
  | some task =>
      if task.cancelling then
        (world.loseTask client index task .cancelled).keepEnding index
          (.lost .cancelled)
      else
        let shown := task.look
        match shown.poll with
        | .pending givesWay =>
            let parked := world.putTask index shown.park
            if givesWay then
              { parked with schedule := parked.schedule.giveWay index }
            else
              parked
        | .ready outcome =>
            (world.resolveTask client index shown outcome).keepEnding index
              (.resolved outcome)
        | .fault =>
            (world.loseTask client index shown .faulted).keepEnding index
              (.lost .faulted)

/-- Poll the tasks that are due, for as many ticks as are given. -/
def pollDue (client : Client) : Nat → World → World
  | 0, world => world
  | ticks + 1, world =>
      let schedule := world.schedule.tick
      match world.runtime.take? schedule with
      | none => { world with schedule := schedule }
      | some (index, schedule) =>
          pollDue client ticks
            (pollTask client index { world with schedule := schedule })

/-- Let a task that gave way be due again, unless it was scheduled meanwhile. -/
def readmit (world : World) (index : Nat) : World :=
  match world.tasks[index]? with
  | none => world
  | some task => world.putWoken index task.wake

/-- Run one round, after which the tasks that gave way in it are due again. -/
def runRound (client : Client) (world : World) : World :=
  let polled := pollDue client world.runtime.roundLength world
  polled.schedule.yielded.foldl readmit
    { polled with schedule := { polled.schedule with yielded := [] } }

/-- Let something take place while the runner of tasks does something. -/
def withRunner
    (runner : Runner)
    (act : World → World)
    (world : World) :
    World :=
  let before := world.schedule.runner
  let after := act { world with schedule := { world.schedule with runner := runner } }
  { after with schedule := { after.schedule with runner := before } }

/-- Run tasks for the rounds of a drain. -/
def drain (client : Client) (world : World) : World :=
  world.withRunner .running
    (Nat.repeat (runRound client) Schedule.drainRounds)

end NavState.Session.World
