import NavState.Attempt

namespace NavState

/-!
# Settling tasks

A task waits for an outcome and settles its attempt with it.  It owns the
resolver of the attempt: it uses the resolver when it has the outcome, and who
lets go of the task lets go of the resolver as well, which aborts the attempt.

What a task waits for is a future, which is polled until it has an outcome.  All
that a future is shown is the mailbox of its task.

A poll is due only while the task is scheduled: once when it is spawned, and
again when something arrives in the mailbox, when the round in which it gave way
is over, or when it is to be cancelled.
-/

/-- The sending side of a channel. -/
inductive Mailbox where
  | empty
  | sent (outcome : Outcome)
  | hungUp
  deriving Repr, DecidableEq

/-- What a future comes to when it is polled. -/
inductive Poll where
  /-- There is no outcome yet; the future may ask for another poll itself. -/
  | pending (givesWay : Bool)
  | ready (outcome : Outcome)
  | fault
  deriving Repr, DecidableEq

/-- What a task waits for. -/
structure Future where
  /-- Whether somebody holds the sending side of a channel to it. -/
  listens : Bool := false
  /-- What a poll comes to, given what it and the polls before it were shown. -/
  poll : List Mailbox → Poll

namespace Future

/-- An outcome known from the start. -/
def ready (outcome : Outcome) : Future where
  poll := fun _ => .ready outcome

/-- An outcome known at the second poll. -/
def yielding (outcome : Outcome) : Future where
  poll := fun shown =>
    if shown.length = 1 then
      .pending true
    else
      .ready outcome

/-- A fault at the first poll. -/
def faulty : Future where
  poll := fun _ => .fault

/-- Nothing that ever happens. -/
def never : Future where
  poll := fun _ => .pending false

/-- A message with the outcome, or the loss of its sender. -/
def channel : Future where
  listens := true
  poll := fun shown =>
    match shown.getLast? with
    | some (.sent outcome) => .ready outcome
    | some .hungUp => .ready .aborted
    | some .empty => .pending false
    | none => .pending false

end Future

/-- Why a task is lost without an outcome. -/
inductive Loss where
  | faulted
  | cancelled
  deriving Repr, DecidableEq

/-- How a task ended, for whoever collects its ending. -/
inductive Ending where
  | resolved (outcome : Outcome)
  | lost (loss : Loss)
  deriving Repr, DecidableEq

/-- Where a task stands. -/
inductive Stage where
  /-- Due to be polled. -/
  | scheduled
  /-- Polled before and waiting. -/
  | parked
  /-- Using its resolver, or letting go of it. -/
  | running
  | ended (ending : Ending)
  deriving Repr, DecidableEq

/-- A task with the attempt it settles. -/
structure Task where
  attempt : Nat
  /-- The resolver of the attempt, as long as the task owns it. -/
  resolver : Option Resolver
  future : Future
  /-- The history that is pushed just before a success, if any. -/
  pushes : Option Nat
  mailbox : Mailbox := .empty
  /-- What the future was shown so far, the first first. -/
  shown : List Mailbox := []
  stage : Stage := .scheduled
  /-- Whether somebody asked for the task to be cancelled. -/
  cancelling : Bool := false
  /-- Whether its ending has been collected. -/
  joined : Bool := false

namespace Task

/-- Whether the task can still receive a message. -/
def isListening (task : Task) : Bool :=
  match task.stage with
  | .scheduled => true
  | .parked => true
  | .running => false
  | .ended _ => false

/-- Whether the sending side of the channel is still held. -/
def hasSender (task : Task) : Bool :=
  task.future.listens && task.mailbox = .empty

/-- Show the mailbox to the future. -/
def look (task : Task) : Task :=
  { task with shown := task.shown ++ [task.mailbox] }

/-- What the future comes to by what it was shown. -/
def poll (task : Task) : Poll :=
  task.future.poll task.shown

/-- The task waits after a poll. -/
def park (task : Task) : Task :=
  { task with stage := .parked }

/-- The task gives its resolver away for good. -/
def spend (task : Task) : Task :=
  { task with resolver := none, stage := .running }

/-- Schedule a parked task; the result says whether it was parked. -/
def wake (task : Task) : Bool × Task :=
  match task.stage with
  | .parked => (true, { task with stage := .scheduled })
  | .scheduled => (false, task)
  | .running => (false, task)
  | .ended _ => (false, task)

/-- Let something arrive from the sending side. -/
def receive (mailbox : Mailbox) (task : Task) : Bool × Task :=
  { task with mailbox := mailbox }.wake

/-- The task has ended. -/
def finish (ending : Ending) (task : Task) : Task :=
  { task with stage := .ended ending }

end Task

end NavState
