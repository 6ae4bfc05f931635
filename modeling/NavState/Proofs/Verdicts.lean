import NavState.Proofs.Tending
import Mathlib.Data.List.Induction

namespace NavState

namespace Session.Dispatch

/-!
# How tasks end

What a task comes to is a matter of what happened to it: what arrived for it, when
it was polled, and whether a request to cancel it took hold.  Its future ends it
at the poll at which all that it was shown so far first makes for an ending.
-/

/-! ## The history of a task -/

/-- What happened to a task. -/
structure Tidings where
  mailbox : Mailbox := .empty
  /-- What its future was shown. -/
  shown : List Mailbox := []
  /-- Whether anybody asked for its cancellation. -/
  aborted : Bool := false

/-- What its future is shown when it is polled next. -/
def Tidings.next (tidings : Tidings) : List Mailbox :=
  tidings.shown ++ [tidings.mailbox]

/-- What happened to a task after one more event. -/
def Tidings.after (task : Nat) (tidings : Tidings) (event : Event) : Tidings :=
  match event with
  | .receives index mailbox =>
      if index = task then { tidings with mailbox := mailbox } else tidings
  | .polls index =>
      if index = task then { tidings with shown := tidings.next } else tidings
  | .aborts index =>
      if index = task then { tidings with aborted := true } else tidings
  | _ => tidings

/-- What happened to a task. -/
def tidings (task : Nat) (events : List Event) : Tidings :=
  events.foldl (Tidings.after task) {}

/-- What a task that is spawned waits for. -/
def Event.future? : Event → Option Future
  | spawns _ future _ => some future
  | _ => none

/-- What the tasks wait for, in the order in which they are spawned. -/
def futures (events : List Event) : List Future :=
  events.filterMap Event.future?

theorem tidings_concat
    (task : Nat)
    (events : List Event)
    (event : Event) :
    tidings task (events ++ [event]) = (tidings task events).after task event := by
  simp [tidings]

theorem futures_concat (events : List Event) (event : Event) :
    futures (events ++ [event]) = futures events ++ event.future?.toList := by
  cases isFuture : event.future? <;> simp [futures, isFuture]

end Session.Dispatch

namespace Task

open Session.Dispatch

/-- What a task tells of its history. -/
def tidings (task : Task) : Tidings where
  mailbox := task.mailbox
  shown := task.shown
  aborted := task.cancelling

/-- Waking a task is not told. -/
theorem wake_told (task : Task) :
    task.wake.2.tidings = task.tidings ∧ task.wake.2.future = task.future := by
  simp only [wake]
  split <;> exact ⟨rfl, rfl⟩

end Task

namespace Session.Dispatch

/-- The history of a task tells the task. -/
structure Tells (events : List Event) (index : Nat) (task : Task) : Prop where
  tidings : task.tidings = tidings index events
  future : (futures events)[index]? = some task.future

/-- What happened tells all tasks, and nothing about tasks that are not there. -/
structure Told (events : List Event) (state : Dispatch) : Prop where
  length : (futures events).length = state.tasks.length
  tells :
    ∀ (index : Nat) (task : Task),
      state.tasks[index]? = some task →
      Tells events index task
  untold : ∀ index, state.tasks.length ≤ index → tidings index events = {}

theorem told_empty (runtime : Runtime) : Told [] { runtime := runtime } where
  length := rfl
  tells := by
    intro index task found
    simp at found
  untold := fun _ _ => rfl

/-- An event that has nothing to do with a task. -/
def Event.Spares (event : Event) (task : Nat) : Prop :=
  ∀ tidings : Tidings, tidings.after task event = tidings

section Steps

variable
  {events : List Event}
  {event : Event}
  {index : Nat}

/-- What happens to a task that was there is told of it. -/
theorem Tells.concat
    {task after : Task}
    (tells : Tells events index task)
    (future : after.future = task.future)
    (tidings : after.tidings = task.tidings.after index event) :
    Tells (events ++ [event]) index after where
  tidings := by
    rw [tidings_concat, tidings, tells.tidings]
  future := by
    rw [futures_concat, List.getElem?_append_left, tells.future, future]
    exact (List.getElem?_eq_some_iff.mp tells.future).1

/-- What happens to the tasks that are there is told of them. -/
theorem Told.of_each
    {before ended : Dispatch}
    (told : Told events before)
    (spawnsNothing : event.future? = none)
    (length : ended.tasks.length = before.tasks.length)
    (each :
      ∀ (index : Nat) (after : Task),
        ended.tasks[index]? = some after →
        ∃ task,
          before.tasks[index]? = some task ∧
            after.future = task.future ∧
            after.tidings = task.tidings.after index event)
    (spares : ∀ index, before.tasks.length ≤ index → event.Spares index) :
    Told (events ++ [event]) ended where
  length := by
    rw [futures_concat, spawnsNothing, Option.toList_none, List.append_nil, length]
    exact told.length
  tells := by
    intro index after found
    obtain ⟨task, foundTask, future, tidings⟩ := each index after found
    exact (told.tells index task foundTask).concat future tidings
  untold := by
    intro index beyond
    rw [length] at beyond
    rw [tidings_concat, spares index beyond]
    exact told.untold index beyond

/-- Only the tasks are told. -/
theorem Told.congr
    {before ended : Dispatch}
    (told : Told events before)
    (tasks : ended.tasks = before.tasks) :
    Told events ended where
  length := by
    rw [tasks]
    exact told.length
  tells := by
    rw [tasks]
    exact told.tells
  untold := by
    rw [tasks]
    exact told.untold

/-- What has nothing to do with tasks is told of none. -/
theorem Told.of_tasks
    {before ended : Dispatch}
    (told : Told events before)
    (tasks : ended.tasks = before.tasks)
    (spawnsNothing : event.future? = none)
    (spares : ∀ index, event.Spares index) :
    Told (events ++ [event]) ended := by
  refine told.of_each spawnsNothing (by rw [tasks]) ?_ fun index _ => spares index
  intro index after found
  rw [tasks] at found
  exact ⟨after, found, rfl, (spares index after.tidings).symm⟩

/-- What happens to one task is told of it. -/
theorem Told.putTask
    {state : Dispatch}
    (told : Told events state)
    {task after : Task}
    (found : state.tasks[index]? = some task)
    (spawnsNothing : event.future? = none)
    (spares : ∀ other, index ≠ other → event.Spares other)
    (future : after.future = task.future)
    (tidings : after.tidings = task.tidings.after index event) :
    Told (events ++ [event]) (state.putTask index after) := by
  have inside := (List.getElem?_eq_some_iff.mp found).1
  refine told.of_each spawnsNothing (by simp [Dispatch.putTask]) ?_ ?_
  · intro other another foundOther
    rw [getElem?_putTask found] at foundOther
    split at foundOther
    · next same =>
        subst same
        cases foundOther
        exact ⟨task, found, future, tidings⟩
    · next different =>
        exact ⟨another, foundOther, rfl,
          (spares other different another.tidings).symm⟩
  · intro other beyond
    exact spares other (Nat.ne_of_lt (Nat.lt_of_lt_of_le inside beyond))

/-- How a task ends is not told, as it is not yet part of its history. -/
theorem Told.spend
    {state : Dispatch}
    (told : Told events state)
    {task later : Task}
    (found : state.tasks[index]? = some task)
    (spawnsNothing : event.future? = none)
    (spares : ∀ other, index ≠ other → event.Spares other)
    (future : later.future = task.future)
    (tidings : later.tidings = task.tidings.after index event)
    (ending : Ending)
    (outcome : Outcome) :
    Told (events ++ [event]) (state.spend index later ending outcome) := by
  have stored :
      Told (events ++ [event]) (state.putTask index later.spend) :=
    told.putTask found spawnsNothing spares future tidings
  exact stored.congr (tasks_spend index later ending outcome state)

/-- A poll is told of the task that is polled. -/
theorem Told.poll
    {state : Dispatch}
    (told : Told events state)
    (sound : state.Sound)
    {task : Task}
    (found : state.tasks[index]? = some task) :
    Told (events ++ [.polls index]) (state.poll index task) := by
  have spares (other : Nat) (different : index ≠ other) :
      Event.Spares (.polls index) other :=
    fun _ => if_neg different
  have shows :
      task.look.tidings = task.tidings.after index (.polls index) :=
    (if_pos rfl).symm
  rw [sound.poll_eq]
  split
  · exact told.putTask found rfl spares rfl shows
  · next ending _ =>
      refine told.spend found rfl spares ?_ shows ending _
      rfl

theorem Told.addTask
    {state : Dispatch}
    (told : Told events state)
    (attempt : Nat)
    (resolver : Resolver)
    (future : Future)
    (pushes : Option Nat) :
    Told (events ++ [.spawns attempt future pushes])
      (state.addTask
        { attempt := attempt
          resolver := some resolver
          future := future
          pushes := pushes }) where
  length := by
    rw [futures_concat]
    simp [Event.future?, Dispatch.addTask, told.length]
  tells := by
    intro index task found
    rw [getElem?_addTask] at found
    split at found
    · next isNew =>
        cases found
        refine ⟨?_, ?_⟩
        · rw [tidings_concat, told.untold index (Nat.le_of_eq isNew.symm)]
          rfl
        · rw [futures_concat, isNew, ← told.length]
          simp [Event.future?]
    · exact (told.tells index task found).concat rfl rfl
  untold := by
    intro index beyond
    simp only [Dispatch.addTask, List.length_append] at beyond
    rw [tidings_concat,
      told.untold index (Nat.le_trans (Nat.le_add_right _ _) beyond)]
    rfl

end Steps

theorem tasks_settle
    (index : Nat)
    (resolver : Resolver)
    (outcome : Outcome)
    (state : Dispatch) :
    (state.settle index resolver outcome).tasks = state.tasks := by
  simp only [settle]
  split <;> rfl

theorem tasks_register
    (index : Nat)
    (callback : Callback)
    (slot : Slot)
    (state : Dispatch) :
    (state.register index callback slot).tasks = state.tasks := by
  simp only [register]
  split <;> rfl

theorem tasks_refuse
    (index : Nat)
    (resolver : Resolver)
    (state : Dispatch) :
    (state.refuse index resolver).tasks = state.tasks := by
  simp only [refuse]
  split
  · exact tasks_settle index resolver .aborted state
  · rfl

theorem endings_settle
    (index : Nat)
    (resolver : Resolver)
    (outcome : Outcome)
    (state : Dispatch) :
    (state.settle index resolver outcome).endings = state.endings := by
  simp only [settle]
  split <;> rfl

theorem endings_register
    (index : Nat)
    (callback : Callback)
    (slot : Slot)
    (state : Dispatch) :
    (state.register index callback slot).endings = state.endings := by
  simp only [register]
  split <;> rfl

theorem endings_refuse
    (index : Nat)
    (resolver : Resolver)
    (state : Dispatch) :
    (state.refuse index resolver).endings = state.endings := by
  simp only [refuse]
  split
  · exact endings_settle index resolver .aborted state
  · rfl

theorem Told.proceed?
    {events : List Event}
    {before ended : Dispatch}
    (told : Told events before)
    (proceeded : before.proceed? = some ended) :
    Told (events ++ [.proceeds]) ended := by
  simp only [Dispatch.proceed?] at proceeded
  split at proceeded
  · cases proceeded
  · cases proceeded
    exact told.of_tasks rfl rfl fun _ _ => rfl
  · cases proceeded
    exact told.of_tasks rfl rfl fun _ _ => rfl
  · next index ending outer _ =>
      cases proceeded
      refine told.of_each rfl (by simp [finish]) ?_ fun _ _ _ => rfl
      intro other after found
      simp only [finish, List.getElem?_modify] at found
      obtain ⟨task, foundTask, shape⟩ := Option.map_eq_some_iff.mp found
      refine ⟨task, foundTask, ?_⟩
      split at shape <;> cases shape <;> exact ⟨rfl, rfl⟩

/-- Whatever happens is told of the tasks. -/
theorem Told.step?
    {events : List Event}
    {before ended : Dispatch}
    (told : Told events before)
    (sound : before.Sound)
    {event : Event}
    (stepped : before.step? event = some ended) :
    Told (events ++ [event]) ended := by
  cases event with
  | opens id =>
      cases stepped
      exact told.of_tasks rfl rfl fun _ _ => rfl
  | registers index callback =>
      obtain ⟨slot, _, rfl⟩ := Option.map_eq_some_iff.mp stepped
      exact told.of_tasks (tasks_register index callback slot before) rfl
        fun _ _ => rfl
  | settles index outcome =>
      obtain ⟨⟨resolver, rest⟩, taken, rfl⟩ := Option.map_eq_some_iff.mp stepped
      obtain ⟨attempt, _, rfl⟩ := takeResolver?_eq_some taken
      exact told.of_tasks (tasks_settle index resolver outcome _) rfl
        fun _ _ => rfl
  | refuses index =>
      obtain ⟨⟨resolver, rest⟩, taken, rfl⟩ := Option.map_eq_some_iff.mp stepped
      obtain ⟨attempt, _, rfl⟩ := takeResolver?_eq_some taken
      exact told.of_tasks (tasks_refuse index resolver _) rfl fun _ _ => rfl
  | spawns index future pushes =>
      obtain ⟨⟨resolver, rest⟩, taken, rfl⟩ := Option.map_eq_some_iff.mp stepped
      obtain ⟨attempt, _, rfl⟩ := takeResolver?_eq_some taken
      have released : Told events (before.release index attempt) :=
        told.congr rfl
      exact released.addTask index resolver future pushes
  | receives index mailbox =>
      obtain ⟨task, accepted, rfl⟩ := Option.map_eq_some_iff.mp stepped
      have found := (Option.filter_eq_some_iff.mp accepted).1
      have woken := Task.wake_told { task with mailbox := mailbox }
      refine told.putTask found rfl (fun _ different _ => if_neg different) woken.2 ?_
      exact woken.1.trans (if_pos rfl).symm
  | aborts index =>
      obtain ⟨task, found, rfl⟩ := Option.map_eq_some_iff.mp stepped
      have woken := Task.wake_told { task with cancelling := true }
      rw [Task.abort_eq sound.reliable]
      refine told.putTask found rfl (fun _ different _ => if_neg different) woken.2 ?_
      exact woken.1.trans (if_pos rfl).symm
  | wakes index =>
      obtain ⟨task, found, rfl⟩ := Option.map_eq_some_iff.mp stepped
      have woken := task.wake_told
      exact told.putTask found rfl (fun _ _ _ => rfl) woken.2 woken.1
  | polls index =>
      obtain ⟨task, accepted, rfl⟩ := Option.map_eq_some_iff.mp stepped
      exact told.poll sound (Option.filter_eq_some_iff.mp accepted).1
  | cancels index =>
      obtain ⟨task, accepted, rfl⟩ := Option.map_eq_some_iff.mp stepped
      have found := (Option.filter_eq_some_iff.mp accepted).1
      rw [sound.lose_eq]
      exact told.spend found rfl (fun _ _ _ => rfl) rfl rfl _ _
  | joins index =>
      obtain ⟨task, found, rfl⟩ := Option.map_eq_some_iff.mp stepped
      exact told.putTask found rfl (fun _ _ _ => rfl) rfl rfl
  | proceeds =>
      exact told.proceed? stepped

/-! ## Endings -/

/-- A task has ended, or it has and its attempt still settles. -/
def EndsWith (state : Dispatch) (index : Nat) (ending : Ending) : Prop :=
  (∃ task, state.tasks[index]? = some task ∧ task.stage = .ended ending) ∨
    (index, ending) ∈ state.endings

section Endings

variable
  {before ended : Dispatch}
  {index : Nat}
  {ending : Ending}

theorem endsWith_of_eq
    (tasks : ended.tasks = before.tasks)
    (endings : ended.endings = before.endings) :
    ended.EndsWith index ending ↔ before.EndsWith index ending := by
  rw [EndsWith, EndsWith, tasks, endings]

@[simp] theorem endsWith_openAttempt (id : UInt64) :
    (before.openAttempt id).EndsWith index ending ↔
      before.EndsWith index ending :=
  Iff.rfl

@[simp] theorem endsWith_release
    (here : Nat)
    (attempt : Attempt Callback) :
    (before.release here attempt).EndsWith index ending ↔
      before.EndsWith index ending :=
  Iff.rfl

/-- A task that goes on neither ends nor begins to. -/
theorem endsWith_putTask
    {here : Nat}
    {task after : Task}
    (found : before.tasks[here]? = some task)
    (goes : task.Goes after) :
    (before.putTask here after).EndsWith index ending ↔
      before.EndsWith index ending := by
  refine or_congr ?_ Iff.rfl
  rw [getElem?_putTask found]
  split
  · next same =>
      subst same
      simp [found, goes.ended_iff]
  · rfl

/-- A task that is added has not ended. -/
theorem endsWith_addTask
    {task : Task}
    (fresh : task.stage = .scheduled) :
    (before.addTask task).EndsWith index ending ↔
      before.EndsWith index ending := by
  refine or_congr ?_ Iff.rfl
  rw [getElem?_addTask]
  split
  · next isNew =>
      simp [isNew, fresh]
  · rfl

/-- A task that ends is one more that has ended. -/
theorem endsWith_spend
    {here : Nat}
    {task later : Task}
    (found : before.tasks[here]? = some task)
    (listening : task.isListening = true)
    (now : Ending)
    (outcome : Outcome) :
    (before.spend here later now outcome).EndsWith index ending ↔
      before.EndsWith index ending ∨ here = index ∧ now = ending := by
  have shown := getElem?_putTask found later.spend index
  rw [EndsWith, EndsWith, tasks_spend, endings_spend, List.mem_cons,
    Prod.mk.injEq]
  change
    (∃ task,
        (before.putTask here later.spend).tasks[index]? = some task ∧ _) ∨ _ ↔ _
  rw [shown]
  by_cases same : here = index
  · subst same
    have listens : task.stage ≠ .ended ending := by
      intro hasEnded
      rw [Task.isListening_of_ended hasEnded] at listening
      cases listening
    simp [found, listens, Task.spend, or_comm, eq_comm]
  · have different : index ≠ here := Ne.symm same
    simp [same, different]

theorem endsWith_proceed?
    (sound : before.Sound)
    (proceeded : before.proceed? = some ended) :
    ended.EndsWith index ending ↔ before.EndsWith index ending := by
  simp only [proceed?] at proceeded
  split at proceeded
  · cases proceeded
  · next _ outcome callback rest outer frames =>
      cases proceeded
      refine endsWith_of_eq rfl ?_
      rw [endings, endings, frames]
      rfl
  · next _ outcome outer frames =>
      cases proceeded
      refine endsWith_of_eq rfl ?_
      rw [endings, endings, frames]
      rfl
  · next here now outer frames =>
      cases proceeded
      have endings :
          before.endings = (here, now) :: (before.finish here now outer).endings := by
        rw [Dispatch.endings, frames]
        rfl
      have first : (here, now) ∈ before.endings := by
        rw [endings]
        exact List.mem_cons_self
      obtain ⟨task, found, running, _⟩ := sound.exists_of_mem_endings first
      rw [EndsWith, EndsWith, endings, List.mem_cons, Prod.mk.injEq]
      simp only [finish, List.getElem?_modify]
      by_cases same : here = index
      · subst same
        simp [found, running, Task.finish, eq_comm]
      · have different : index ≠ here := Ne.symm same
        simp [same, different]

/-- The ending to which an event brings a task with this future and history. -/
def Event.ending?
    (index : Nat)
    (future : Future)
    (tidings : Tidings)
    (event : Event) :
    Option Ending :=
  match event with
  | polls task =>
      if task = index then (future.poll tidings.next).ending? else none
  | cancels task =>
      if task = index then some (.lost .cancelled) else none
  | _ => none

/-- Only a task that listens comes to an ending. -/
theorem isListening_of_ending?
    {event : Event}
    {state next : Dispatch}
    (stepped : state.step? event = some next)
    {task : Task}
    (found : state.tasks[index]? = some task)
    {future : Future}
    {tidings : Tidings}
    (ends : event.ending? index future tidings = some ending) :
    task.isListening = true := by
  cases event with
  | polls here =>
      simp only [Event.ending?] at ends
      split at ends
      · next same =>
          subst same
          obtain ⟨another, accepted, _⟩ := Option.map_eq_some_iff.mp stepped
          obtain ⟨foundOther, listening⟩ := Option.filter_eq_some_iff.mp accepted
          cases found.symm.trans foundOther
          exact listening
      · cases ends
  | cancels here =>
      simp only [Event.ending?] at ends
      split at ends
      · next same =>
          subst same
          obtain ⟨another, accepted, _⟩ := Option.map_eq_some_iff.mp stepped
          obtain ⟨foundOther, listening⟩ := Option.filter_eq_some_iff.mp accepted
          cases found.symm.trans foundOther
          exact (Bool.and_eq_true_iff.mp listening).1
      · cases ends
  | _ =>
      cases ends

/-- By what concerns one task, no other one comes to an ending. -/
theorem exists_ending_iff
    {here : Nat}
    {task : Task}
    (found : before.tasks[here]? = some task)
    (verdict : Task → Option Ending) :
    (∃ other,
        before.tasks[index]? = some other ∧
          (if here = index then verdict other else none) = some ending) ↔
      here = index ∧ verdict task = some ending := by
  constructor
  · rintro ⟨other, foundOther, ends⟩
    split at ends
    · next same =>
        subst same
        cases found.symm.trans foundOther
        exact ⟨rfl, ends⟩
    · cases ends
  · rintro ⟨rfl, ends⟩
    exact ⟨task, found, (if_pos rfl).trans ends⟩

/-- A poll ends the task that is polled if its future has come to an end. -/
theorem endsWith_polls
    (sound : before.Sound)
    {here : Nat}
    (polled : before.step? (.polls here) = some ended) :
    ended.EndsWith index ending ↔
      before.EndsWith index ending ∨
        ∃ task,
          before.tasks[index]? = some task ∧
            (Event.polls here).ending? index task.future task.tidings =
              some ending := by
  obtain ⟨task, accepted, rfl⟩ := Option.map_eq_some_iff.mp polled
  obtain ⟨found, listening⟩ := Option.filter_eq_some_iff.mp accepted
  have verdict :
      (∃ other,
          before.tasks[index]? = some other ∧
            (Event.polls here).ending? index other.future other.tidings =
              some ending) ↔
        here = index ∧ task.look.poll.ending? = some ending :=
    exists_ending_iff found fun other => other.look.poll.ending?
  rw [verdict, sound.poll_eq]
  cases task.look.poll.ending? with
  | none =>
      simpa using endsWith_putTask found (Task.goes_park listening)
  | some now =>
      simpa using endsWith_spend found listening now now.outcome

/-- A cancellation that takes hold ends its task. -/
theorem endsWith_cancels
    (sound : before.Sound)
    {here : Nat}
    (cancelled : before.step? (.cancels here) = some ended) :
    ended.EndsWith index ending ↔
      before.EndsWith index ending ∨
        ∃ task,
          before.tasks[index]? = some task ∧
            (Event.cancels here).ending? index task.future task.tidings =
              some ending := by
  obtain ⟨task, accepted, rfl⟩ := Option.map_eq_some_iff.mp cancelled
  obtain ⟨found, holds⟩ := Option.filter_eq_some_iff.mp accepted
  have listening := (Bool.and_eq_true_iff.mp holds).1
  have verdict :
      (∃ other,
          before.tasks[index]? = some other ∧
            (Event.cancels here).ending? index other.future other.tidings =
              some ending) ↔
        here = index ∧ some (.lost .cancelled) = some ending :=
    exists_ending_iff found fun _ => some (.lost .cancelled)
  rw [verdict, sound.lose_eq, endsWith_spend found listening, Option.some.injEq]

/-- A task ends when an event brings it to an ending, and in no other way. -/
theorem endsWith_step?
    (sound : before.Sound)
    {event : Event}
    (stepped : before.step? event = some ended) :
    ended.EndsWith index ending ↔
      before.EndsWith index ending ∨
        ∃ task,
          before.tasks[index]? = some task ∧
            event.ending? index task.future task.tidings = some ending := by
  cases event with
  | polls here =>
      exact endsWith_polls sound stepped
  | cancels here =>
      exact endsWith_cancels sound stepped
  | opens id =>
      cases stepped
      simp [Event.ending?]
  | registers here callback =>
      obtain ⟨slot, _, rfl⟩ := Option.map_eq_some_iff.mp stepped
      rw [endsWith_of_eq (tasks_register here callback slot before)
        (endings_register here callback slot before)]
      simp [Event.ending?]
  | settles here outcome =>
      obtain ⟨⟨resolver, rest⟩, taken, rfl⟩ := Option.map_eq_some_iff.mp stepped
      obtain ⟨attempt, _, rfl⟩ := takeResolver?_eq_some taken
      rw [endsWith_of_eq (tasks_settle here resolver outcome _)
        (endings_settle here resolver outcome _)]
      simp [Event.ending?]
  | refuses here =>
      obtain ⟨⟨resolver, rest⟩, taken, rfl⟩ := Option.map_eq_some_iff.mp stepped
      obtain ⟨attempt, _, rfl⟩ := takeResolver?_eq_some taken
      rw [endsWith_of_eq (tasks_refuse here resolver _)
        (endings_refuse here resolver _)]
      simp [Event.ending?]
  | spawns here future pushes =>
      obtain ⟨⟨resolver, rest⟩, taken, rfl⟩ := Option.map_eq_some_iff.mp stepped
      obtain ⟨attempt, _, rfl⟩ := takeResolver?_eq_some taken
      rw [endsWith_addTask rfl]
      simp [Event.ending?]
  | receives here mailbox =>
      obtain ⟨task, accepted, rfl⟩ := Option.map_eq_some_iff.mp stepped
      have found := (Option.filter_eq_some_iff.mp accepted).1
      simpa [Event.ending?] using
        endsWith_putTask found (Task.goes_receive mailbox task)
  | aborts here =>
      obtain ⟨task, found, rfl⟩ := Option.map_eq_some_iff.mp stepped
      simpa [Event.ending?] using
        endsWith_putTask found (Task.goes_abort sound.reliable task)
  | wakes here =>
      obtain ⟨task, found, rfl⟩ := Option.map_eq_some_iff.mp stepped
      simpa [Event.ending?] using endsWith_putTask found (Task.goes_wake task)
  | joins here =>
      obtain ⟨task, found, rfl⟩ := Option.map_eq_some_iff.mp stepped
      simpa [Event.ending?] using endsWith_putTask found (Task.goes_joined task)
  | proceeds =>
      simpa [Event.ending?] using endsWith_proceed? sound stepped

end Endings

/-- A split of a longer list is one of the shorter list, or it is at the end. -/
theorem exists_split_concat
    {α : Type}
    {items : List α}
    {last : α}
    {property : List α → α → Prop} :
    (∃ earlier item later,
        items ++ [last] = earlier ++ item :: later ∧ property earlier item) ↔
      (∃ earlier item later,
          items = earlier ++ item :: later ∧ property earlier item) ∨
        property items last := by
  constructor
  · rintro ⟨earlier, item, later, shape, holds⟩
    rcases later.eq_nil_or_concat with rfl | ⟨before, final, rfl⟩
    · obtain ⟨rfl, same⟩ := List.append_inj' shape rfl
      cases same
      exact .inr holds
    · rw [List.concat_eq_append, ← List.cons_append, ← List.append_assoc] at shape
      obtain ⟨rfl, _⟩ := List.append_inj' shape rfl
      exact .inl ⟨earlier, item, before, rfl, holds⟩
  · rintro (⟨earlier, item, later, rfl, holds⟩ | holds)
    · exact ⟨earlier, item, later ++ [last], by simp, holds⟩
    · exact ⟨items, last, [], rfl, holds⟩

/-- After some events, one more brings a task to an ending. -/
def Closes
    (index : Nat)
    (ending : Ending)
    (earlier : List Event)
    (event : Event) :
    Prop :=
  ∃ future,
    (futures earlier)[index]? = some future ∧
      event.ending? index future (tidings index earlier) = some ending

/-- The history of a task says whether an event brings it to an ending. -/
theorem Told.closes_iff
    {events : List Event}
    {state : Dispatch}
    (told : Told events state)
    (index : Nat)
    (ending : Ending)
    (event : Event) :
    Closes index ending events event ↔
      ∃ task,
        state.tasks[index]? = some task ∧
          event.ending? index task.future task.tidings = some ending := by
  constructor
  · rintro ⟨future, isFuture, ends⟩
    have inside := (List.getElem?_eq_some_iff.mp isFuture).1
    rw [told.length] at inside
    have found := List.getElem?_eq_getElem inside
    have tells := told.tells index _ found
    refine ⟨_, found, ?_⟩
    cases isFuture.symm.trans tells.future
    rw [tells.tidings]
    exact ends
  · rintro ⟨task, found, ends⟩
    have tells := told.tells index task found
    refine ⟨task.future, tells.future, ?_⟩
    rw [← tells.tidings]
    exact ends

section Histories

variable
  {runtime : Runtime}
  (reliable : runtime.Reliable)
  {events : List Event}
  {state : Dispatch}
  (happened : ({ runtime := runtime } : Dispatch).after? events = some state)

include reliable happened

/-- Whatever happened before is told of the tasks. -/
theorem told_of_after? : Told events state := by
  induction events using List.reverseRecOn generalizing state with
  | nil =>
      cases happened
      exact told_empty runtime
  | append_singleton events event inductionHypothesis =>
      obtain ⟨between, earlier, stepped⟩ := after?_concat.mp happened
      have sound := ((sound_empty reliable).after? earlier).1
      exact (inductionHypothesis earlier).step? sound stepped

/-- A task has ended in some way if and only if an event brought it to that. -/
theorem endsWith_iff (index : Nat) (ending : Ending) :
    state.EndsWith index ending ↔
      ∃ earlier event later,
        events = earlier ++ event :: later ∧
          Closes index ending earlier event := by
  induction events using List.reverseRecOn generalizing state with
  | nil =>
      cases happened
      simp [EndsWith, endings]
  | append_singleton events event inductionHypothesis =>
      obtain ⟨between, earlier, stepped⟩ := after?_concat.mp happened
      have sound := ((sound_empty reliable).after? earlier).1
      have told := told_of_after? reliable earlier
      rw [exists_split_concat, ← inductionHypothesis earlier,
        endsWith_step? sound stepped, told.closes_iff]

end Histories

end Session.Dispatch

end NavState
