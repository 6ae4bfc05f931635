import NavState.Session.World
import Mathlib.Data.List.Perm.Basic
import Mathlib.Data.List.Nodup

namespace NavState.Session

/-!
# Tasks and the attempts that they settle

A task takes the resolver of its attempt along.  It uses the resolver when it has
the outcome that it waited for, and is dropped together with it when it faults or
is cancelled.  Either way the callbacks of the attempt run before the task counts
as ended, and these may do anything in turn, to other tasks and to the same one.

A dispatch is any number of attempts and tasks, with a stack of what has begun
and not come to its end.  Tasks are polled in any order and as often as anybody
likes, and a request to cancel one may take hold at any time after it was made.
A dispatch keeps an account of what was registered and of what began to run.
-/

namespace Journal

/-- The callbacks that were registered with an attempt, in order. -/
def registeredAt (index : Nat) (journal : Journal) : List Callback :=
  (journal.registered.filter fun entry => entry.attempt = index).map
    Registration.callback

/-- The callbacks of an attempt that began to run, in order. -/
def begunAt (index : Nat) (journal : Journal) : List Callback :=
  (journal.begun.filter fun entry => entry.attempt = index).map
    fun entry => entry.callback

/--
A callback of an attempt begins to run only with the outcome that there is, and
once there is one each of them has begun to run exactly once.
-/
structure RunsOnce
    (index : Nat)
    (outcome? : Option Outcome)
    (journal : Journal) :
    Prop where
  only :
    ∀ entry ∈ journal.begun,
      entry.attempt = index →
      outcome? = some entry.outcome
  once :
    outcome?.isSome = true →
    (journal.begunAt index).Perm (journal.registeredAt index)

end Journal

/-- Something that has begun and not come to its end. -/
inductive Activity where
  /-- Callbacks run with the outcome of an attempt. -/
  | settling (attempt : Nat) (outcome : Outcome) (callbacks : List Callback)
  /-- A task has ended, which counts once its attempt has settled. -/
  | finishing (task : Nat) (ending : Ending)

namespace Activity

/-- The callbacks of an attempt that are about to run. -/
def dueFor (index : Nat) : Activity → List Callback
  | settling attempt _ callbacks => if attempt = index then callbacks else []
  | finishing _ _ => []

/-- The task that has ended, with its ending. -/
def finishing? : Activity → Option (Nat × Ending)
  | settling _ _ _ => none
  | finishing task ending => some (task, ending)

end Activity

/-- What happens next. -/
inductive Dispatch.Event where
  | opens (id : UInt64)
  | registers (attempt : Nat) (callback : Callback)
  /-- The resolver at hand is used or let go of. -/
  | settles (attempt : Nat) (outcome : Outcome)
  /-- A future that owns the resolver at hand is refused. -/
  | refuses (attempt : Nat)
  /-- A task takes the resolver at hand along. -/
  | spawns (attempt : Nat) (future : Future) (pushes : Option Nat)
  /-- Something arrives from the sending side of a task. -/
  | receives (task : Nat) (mailbox : Mailbox)
  /-- Somebody asks for a task to be cancelled. -/
  | aborts (task : Nat)
  | wakes (task : Nat)
  | polls (task : Nat)
  /-- A request to cancel a task takes hold. -/
  | cancels (task : Nat)
  /-- The ending of a task is collected. -/
  | joins (task : Nat)
  /-- What began last goes on, or comes to its end. -/
  | proceeds

/-- Attempts and tasks, what is going on with them, and the account of callbacks. -/
structure Dispatch where
  slots : List Slot := []
  tasks : List Task := []
  /-- What has begun and not come to its end, the last first. -/
  frames : List Activity := []
  registered : List Registration := []
  begun : List Beginning := []
  runtime : Runtime := .standard

namespace Dispatch

/-! ## What can happen -/

/-- Open an attempt. -/
def openAttempt (id : UInt64) (state : Dispatch) : Dispatch :=
  { state with slots := state.slots ++ [⟨Attempt.start id, some {}⟩] }

/-- Put an attempt into a slot. -/
def putAttempt
    (index : Nat)
    (attempt : Attempt Callback)
    (state : Dispatch) :
    Dispatch :=
  { state with
    slots := state.slots.modify index fun slot => { slot with attempt := attempt } }

/-- Replace a task. -/
def putTask (index : Nat) (task : Task) (state : Dispatch) : Dispatch :=
  { state with tasks := state.tasks.set index task }

/-- Add a task. -/
def addTask (task : Task) (state : Dispatch) : Dispatch :=
  { state with tasks := state.tasks ++ [task] }

/-- Something begins. -/
def push (frame : Activity) (state : Dispatch) : Dispatch :=
  { state with frames := frame :: state.frames }

/-- Enter a callback into the account. -/
def note (index : Nat) (callback : Callback) (state : Dispatch) : Dispatch :=
  { state with registered := state.registered ++ [⟨index, callback⟩] }

/-- Register a callback with an attempt, which has it run if it has settled. -/
def register
    (index : Nat)
    (callback : Callback)
    (slot : Slot)
    (state : Dispatch) :
    Dispatch :=
  let (attempt, due) := slot.attempt.onSettle callback
  match due with
  | none => (state.putAttempt index attempt).note index callback
  | some outcome =>
      (state.push (.settling index outcome [callback])).note index callback

/-- Settle an attempt, which has its callbacks run. -/
def settle
    (index : Nat)
    (resolver : Resolver)
    (outcome : Outcome)
    (state : Dispatch) :
    Dispatch :=
  match state.slots[index]? with
  | none => state
  | some slot =>
      let (_, attempt, callbacks) := resolver.settle outcome slot.attempt
      (state.putAttempt index attempt).push (.settling index outcome callbacks)

/-- Put an attempt into a slot that has no resolver at hand any more. -/
def release
    (index : Nat)
    (attempt : Attempt Callback)
    (state : Dispatch) :
    Dispatch :=
  { state with slots := state.slots.set index ⟨attempt, none⟩ }

/-- Take the resolver of an attempt away. -/
def takeResolver? (index : Nat) (state : Dispatch) : Option (Resolver × Dispatch) := do
  let slot ← state.slots[index]?
  let resolver ← slot.resolver
  return (resolver, state.release index slot.attempt)

/-- A future is refused, and dropped with the resolver that it owns. -/
def refuse (index : Nat) (resolver : Resolver) (state : Dispatch) : Dispatch :=
  if state.runtime.dropsRefused then
    state.settle index resolver .aborted
  else
    state

/-- A task comes to its ending, which has its resolver used with an outcome. -/
def spend
    (index : Nat)
    (task : Task)
    (ending : Ending)
    (outcome : Outcome)
    (state : Dispatch) :
    Dispatch :=
  let spent := (state.putTask index task.spend).push (.finishing index ending)
  match task.resolver with
  | none => spent
  | some resolver => spent.settle task.attempt resolver outcome

/-- A task is lost, and dropped with the resolver that it owns. -/
def lose
    (index : Nat)
    (task : Task)
    (loss : Loss)
    (state : Dispatch) :
    Dispatch :=
  if state.runtime.dropsLost loss then
    state.spend index task (.lost loss) .aborted
  else
    state.putTask index (task.finish (.lost loss))

/-- Poll a task. -/
def poll (index : Nat) (task : Task) (state : Dispatch) : Dispatch :=
  let shown := task.look
  match shown.poll with
  | .pending _ => state.putTask index shown.park
  | .ready outcome => state.spend index shown (.resolved outcome) outcome
  | .fault => state.lose index shown .faulted

/-- A task counts as ended when the callbacks of its attempt have run. -/
def finish
    (index : Nat)
    (ending : Ending)
    (outer : List Activity)
    (state : Dispatch) :
    Dispatch :=
  { state with
    frames := outer
    tasks := state.tasks.modify index (Task.finish ending) }

/-- What began last goes on. -/
def proceed? (state : Dispatch) : Option Dispatch :=
  match state.frames with
  | [] => none
  | .settling index outcome (callback :: rest) :: outer =>
      some
        { state with
          frames := .settling index outcome rest :: outer
          begun := state.begun ++ [⟨⟨index, callback⟩, outcome⟩] }
  | .settling _ _ [] :: outer => some { state with frames := outer }
  | .finishing index ending :: outer => some (state.finish index ending outer)

/--
What comes of one event, if it can happen.  A task that has not ended may be
polled at any time, and be given up at any time after somebody asked for that;
its sender is used at most once.
-/
def step? (event : Event) (state : Dispatch) : Option Dispatch :=
  match event with
  | .opens id => some (state.openAttempt id)
  | .registers index callback =>
      state.slots[index]?.map fun slot => state.register index callback slot
  | .settles index outcome =>
      (state.takeResolver? index).map fun (resolver, rest) =>
        rest.settle index resolver outcome
  | .refuses index =>
      (state.takeResolver? index).map fun (resolver, rest) =>
        rest.refuse index resolver
  | .spawns index future pushes =>
      (state.takeResolver? index).map fun (resolver, rest) =>
        rest.addTask
          { attempt := index
            resolver := some resolver
            future := future
            pushes := pushes }
  | .receives index mailbox =>
      (state.tasks[index]?.filter fun task => task.mailbox = .empty).map
        fun task => state.putTask index (task.receive mailbox).2
  | .aborts index =>
      state.tasks[index]?.map fun task =>
        state.putTask index (task.abort state.runtime).2
  | .wakes index =>
      state.tasks[index]?.map fun task => state.putTask index task.wake.2
  | .polls index =>
      (state.tasks[index]?.filter Task.isListening).map fun task =>
        state.poll index task
  | .cancels index =>
      (state.tasks[index]?.filter fun task =>
            task.isListening && task.cancelling).map
        fun task => state.lose index task .cancelled
  | .joins index =>
      state.tasks[index]?.map fun task =>
        state.putTask index { task with joined := true }
  | .proceeds => state.proceed?

/-- What comes of some events in order, if they can happen. -/
def after? (events : List Event) (state : Dispatch) : Option Dispatch :=
  events.foldlM (fun state event => state.step? event) state

/-- Something that can happen makes one state of the other. -/
def Leads (before ended : Dispatch) : Prop :=
  ∃ events, before.after? events = some ended

theorem after?_append
    (earlier later : List Event)
    (state : Dispatch) :
    state.after? (earlier ++ later) =
      (state.after? earlier).bind fun next => next.after? later :=
  List.foldlM_append

theorem after?_concat
    {events : List Event}
    {event : Event}
    {before ended : Dispatch} :
    before.after? (events ++ [event]) = some ended ↔
      ∃ between,
        before.after? events = some between ∧
          between.step? event = some ended := by
  simp [after?, Option.bind_eq_some_iff]

theorem Leads.refl (state : Dispatch) : state.Leads state :=
  ⟨[], rfl⟩

theorem Leads.trans
    {before between ended : Dispatch}
    (first : before.Leads between)
    (second : between.Leads ended) :
    before.Leads ended := by
  obtain ⟨earlier, reached⟩ := first
  obtain ⟨later, continued⟩ := second
  refine ⟨earlier ++ later, ?_⟩
  rw [after?_append, reached]
  exact continued

theorem Leads.of_step?
    {before ended : Dispatch}
    {event : Event}
    (stepped : before.step? event = some ended) :
    before.Leads ended :=
  ⟨[event], by simp [after?, stepped]⟩

/-! ## Outcomes and callbacks of an attempt -/

/-- The outcome of an attempt, if there is one. -/
def outcomeAt (index : Nat) (state : Dispatch) : Option Outcome :=
  state.slots[index]?.bind fun slot => slot.attempt.outcome?

/-- The callbacks that wait for an attempt. -/
def waitingAt (index : Nat) (state : Dispatch) : List Callback :=
  (state.slots[index]?.map fun slot => slot.attempt.callbacks).getD []

/-- The callbacks of an attempt that are about to run. -/
def dueAt (index : Nat) (state : Dispatch) : List Callback :=
  state.frames.flatMap (Activity.dueFor index)

/-- The account of a dispatch, as a journal has it. -/
def account (state : Dispatch) : Journal where
  registered := state.registered
  begun := state.begun

/-- The callbacks that were registered with an attempt, in order. -/
def registeredAt (index : Nat) (state : Dispatch) : List Callback :=
  state.account.registeredAt index

/-- The callbacks of an attempt that began to run, in order. -/
def begunAt (index : Nat) (state : Dispatch) : List Callback :=
  state.account.begunAt index

theorem outcomeAt_of_slot
    {state : Dispatch}
    {index : Nat}
    {slot : Slot}
    (found : state.slots[index]? = some slot) :
    state.outcomeAt index = slot.attempt.outcome? := by
  simp [outcomeAt, found]

theorem waitingAt_of_slot
    {state : Dispatch}
    {index : Nat}
    {slot : Slot}
    (found : state.slots[index]? = some slot) :
    state.waitingAt index = slot.attempt.callbacks := by
  simp [waitingAt, found]

/-- What is seen of a slot after another attempt was put into it. -/
theorem getElem?_putAttempt
    {state : Dispatch}
    {index : Nat}
    {slot : Slot}
    (found : state.slots[index]? = some slot)
    (attempt : Attempt Callback)
    (other : Nat) :
    (state.putAttempt index attempt).slots[other]? =
      if index = other then
        some { slot with attempt := attempt }
      else
        state.slots[other]? := by
  simp only [putAttempt, List.getElem?_modify]
  split
  · next same =>
      subst same
      simp [found]
  · simp

theorem outcomeAt_putAttempt
    {state : Dispatch}
    {index : Nat}
    {slot : Slot}
    (found : state.slots[index]? = some slot)
    (attempt : Attempt Callback)
    (other : Nat) :
    (state.putAttempt index attempt).outcomeAt other =
      if index = other then attempt.outcome? else state.outcomeAt other := by
  simp only [outcomeAt, getElem?_putAttempt found]
  split <;> rfl

theorem waitingAt_putAttempt
    {state : Dispatch}
    {index : Nat}
    {slot : Slot}
    (found : state.slots[index]? = some slot)
    (attempt : Attempt Callback)
    (other : Nat) :
    (state.putAttempt index attempt).waitingAt other =
      if index = other then attempt.callbacks else state.waitingAt other := by
  simp only [waitingAt, getElem?_putAttempt found]
  split <;> rfl

/-! Tasks and what is going on have no part in the outcomes, and so on. -/

section Updates

variable (index other : Nat) (callback : Callback) (frame : Activity)
  (attempt : Attempt Callback) (state : Dispatch)

@[simp] theorem outcomeAt_note :
    (state.note index callback).outcomeAt other = state.outcomeAt other :=
  rfl

@[simp] theorem outcomeAt_push :
    (state.push frame).outcomeAt other = state.outcomeAt other :=
  rfl

@[simp] theorem waitingAt_note :
    (state.note index callback).waitingAt other = state.waitingAt other :=
  rfl

@[simp] theorem waitingAt_push :
    (state.push frame).waitingAt other = state.waitingAt other :=
  rfl

@[simp] theorem dueAt_note :
    (state.note index callback).dueAt other = state.dueAt other :=
  rfl

@[simp] theorem dueAt_push :
    (state.push frame).dueAt other = frame.dueFor other ++ state.dueAt other := by
  simp [dueAt, push]

@[simp] theorem dueAt_putAttempt :
    (state.putAttempt index attempt).dueAt other = state.dueAt other :=
  rfl

@[simp] theorem registeredAt_note :
    (state.note index callback).registeredAt other =
      state.registeredAt other ++ if index = other then [callback] else [] := by
  simp only [registeredAt, Journal.registeredAt, account, note, List.filter_append,
    List.map_append]
  congr 1
  by_cases same : index = other <;> simp [same]

@[simp] theorem registeredAt_push :
    (state.push frame).registeredAt other = state.registeredAt other :=
  rfl

@[simp] theorem registeredAt_putAttempt :
    (state.putAttempt index attempt).registeredAt other =
      state.registeredAt other :=
  rfl

@[simp] theorem begunAt_note :
    (state.note index callback).begunAt other = state.begunAt other :=
  rfl

@[simp] theorem begunAt_push :
    (state.push frame).begunAt other = state.begunAt other :=
  rfl

@[simp] theorem begunAt_putAttempt :
    (state.putAttempt index attempt).begunAt other = state.begunAt other :=
  rfl

end Updates

/-! ## The account of callbacks -/

/--
Every callback that was registered is in one place: it began to run, or is about
to, or waits.  Whatever began to run or is about to does so with the outcome that
its attempt has, and a resolver at hand belongs to an attempt that has none.
-/
structure Accounted (state : Dispatch) : Prop where
  places :
    ∀ index,
      (state.registeredAt index).Perm
        (state.begunAt index ++ (state.dueAt index ++ state.waitingAt index))
  ran :
    ∀ entry ∈ state.begun,
      state.outcomeAt entry.attempt = some entry.outcome
  due :
    ∀ index outcome callbacks,
      .settling index outcome callbacks ∈ state.frames →
      state.outcomeAt index = some outcome
  atHand :
    ∀ (index : Nat) (attempt : Attempt Callback) (resolver : Resolver),
      state.slots[index]? = some ⟨attempt, some resolver⟩ →
      resolver = {} ∧ attempt.outcome? = none

/-- No outcome that was there is another one later. -/
def Keeps (before ended : Dispatch) : Prop :=
  ∀ index outcome,
    before.outcomeAt index = some outcome →
    ended.outcomeAt index = some outcome

/-- The attempts of two states have the same outcomes. -/
theorem keeps_of_eq
    {before ended : Dispatch}
    (same : ∀ index, ended.outcomeAt index = before.outcomeAt index) :
    before.Keeps ended := by
  intro index outcome settled
  rw [same]
  exact settled

/-! ### An attempt is opened -/

/-- What is added to the end of a list stands behind everything else. -/
theorem getElem?_append_one
    {α : Type}
    (items : List α)
    (item : α)
    (index : Nat) :
    (items ++ [item])[index]? =
      if index = items.length then some item else items[index]? := by
  rcases Nat.lt_trichotomy index items.length with below | same | above
  · rw [List.getElem?_append_left below, if_neg (Nat.ne_of_lt below)]
  · simp [same]
  · have beyond : (items ++ [item]).length ≤ index := by
      rw [List.length_append]
      exact above
    rw [if_neg (Nat.ne_of_gt above), List.getElem?_eq_none beyond,
      List.getElem?_eq_none (Nat.le_of_lt above)]

theorem getElem?_openAttempt
    (state : Dispatch)
    (id : UInt64)
    (index : Nat) :
    (state.openAttempt id).slots[index]? =
      if index = state.slots.length then
        some ⟨Attempt.start id, some {}⟩
      else
        state.slots[index]? :=
  getElem?_append_one state.slots _ index

@[simp] theorem outcomeAt_openAttempt
    (index : Nat)
    (id : UInt64)
    (state : Dispatch) :
    (state.openAttempt id).outcomeAt index = state.outcomeAt index := by
  simp only [outcomeAt, getElem?_openAttempt]
  split
  · next same =>
      simp [same]
  · rfl

theorem waitingAt_openAttempt
    (index : Nat)
    (id : UInt64)
    (state : Dispatch) :
    (state.openAttempt id).waitingAt index = state.waitingAt index := by
  simp only [waitingAt, getElem?_openAttempt]
  split
  · next same =>
      simp [same, Attempt.start, Attempt.callbacks]
  · rfl

theorem Accounted.openAttempt
    {state : Dispatch}
    (accounted : state.Accounted)
    (id : UInt64) :
    (state.openAttempt id).Accounted where
  places := by
    intro index
    rw [waitingAt_openAttempt]
    exact accounted.places index
  ran := by
    intro entry member
    rw [outcomeAt_openAttempt]
    exact accounted.ran entry member
  due := by
    intro index outcome callbacks member
    rw [outcomeAt_openAttempt]
    exact accounted.due index outcome callbacks member
  atHand := by
    intro index attempt resolver found
    rw [getElem?_openAttempt] at found
    split at found
    · cases found
      exact ⟨rfl, rfl⟩
    · exact accounted.atHand index attempt resolver found

/-! ### A callback is registered -/

section Registering

variable
  {state : Dispatch}
  {index : Nat}
  {slot : Slot}

theorem register_of_waiting
    (unsettled : slot.attempt.outcome? = none)
    (callback : Callback) :
    state.register index callback slot =
      (state.putAttempt index (slot.attempt.onSettle callback).1).note index
        callback := by
  simp only [register, Attempt.onSettle_due, unsettled]

theorem register_of_settled
    {outcome : Outcome}
    (settled : slot.attempt.outcome? = some outcome)
    (callback : Callback) :
    state.register index callback slot =
      (state.push (.settling index outcome [callback])).note index
        callback := by
  simp only [register, Attempt.onSettle_due, settled]

variable (found : state.slots[index]? = some slot)

include found

theorem outcomeAt_register
    (callback : Callback)
    (other : Nat) :
    (state.register index callback slot).outcomeAt other =
      state.outcomeAt other := by
  cases settled : slot.attempt.outcome? with
  | none =>
      rw [register_of_waiting settled, outcomeAt_note, outcomeAt_putAttempt found]
      split
      · next same =>
          subst same
          rw [Attempt.outcome?_onSettle, outcomeAt_of_slot found]
      · rfl
  | some outcome =>
      rw [register_of_settled settled, outcomeAt_note, outcomeAt_push]

theorem Accounted.register
    (accounted : state.Accounted)
    (callback : Callback) :
    (state.register index callback slot).Accounted := by
  have sameOutcome := outcomeAt_register found callback
  cases settled : slot.attempt.outcome? with
  | none =>
      rw [register_of_waiting settled] at sameOutcome ⊢
      refine ⟨fun other => ?_, ?_, ?_, ?_⟩
      · have places := accounted.places other
        simp only [registeredAt_note, registeredAt_putAttempt, begunAt_note,
          begunAt_putAttempt, dueAt_note, dueAt_putAttempt, waitingAt_note,
          waitingAt_putAttempt found]
        split
        · next same =>
            subst same
            rw [Attempt.callbacks_onSettle settled, ← waitingAt_of_slot found]
            simpa using places.append_right [callback]
        · simpa using places
      · intro entry member
        rw [sameOutcome]
        exact accounted.ran entry member
      · intro other outcome callbacks member
        rw [sameOutcome]
        exact accounted.due other outcome callbacks member
      · intro other attempt resolver isThere
        have isThere :
            (if index = other then
                some { slot with attempt := (slot.attempt.onSettle callback).1 }
              else
                state.slots[other]?) =
              some ⟨attempt, some resolver⟩ :=
          getElem?_putAttempt found _ other ▸ isThere
        split at isThere
        · obtain ⟨rfl, hasResolver⟩ := Slot.mk.inj (Option.some.inj isThere)
          have before := accounted.atHand index slot.attempt resolver
            (by rw [found, ← hasResolver])
          exact ⟨before.1, by rw [Attempt.outcome?_onSettle, before.2]⟩
        · exact accounted.atHand other attempt resolver isThere
  | some outcome =>
      rw [register_of_settled settled] at sameOutcome ⊢
      refine ⟨fun other => ?_, ?_, ?_, accounted.atHand⟩
      · have places := accounted.places other
        simp only [registeredAt_note, registeredAt_push, begunAt_note,
          begunAt_push, dueAt_note, dueAt_push, waitingAt_note, waitingAt_push,
          Activity.dueFor]
        split
        · have more := places.append_right [callback]
          refine more.trans ?_
          rw [List.append_assoc]
          exact (List.perm_append_comm.trans (by simp)).append_left _
        · simpa using places
      · intro entry member
        rw [sameOutcome]
        exact accounted.ran entry member
      · intro other now callbacks member
        rw [sameOutcome]
        rcases List.mem_cons.mp member with isNew | earlier
        · cases isNew
          rw [outcomeAt_of_slot found, settled]
        · exact accounted.due other now callbacks earlier

end Registering

/-! ### An attempt settles -/

section Settling

variable
  {state : Dispatch}
  {index : Nat}
  {attempt : Attempt Callback}
  (found : state.slots[index]? = some ⟨attempt, none⟩)

include found

/-- Whoever settles an attempt has every callback run that waited. -/
theorem settle_eq (outcome : Outcome) :
    state.settle index {} outcome =
      (state.putAttempt index ⟨attempt.id, .settled outcome⟩).push
        (.settling index outcome attempt.callbacks) := by
  simp [settle, found, Resolver.settle]

theorem outcomeAt_settle (outcome : Outcome) (other : Nat) :
    (state.settle index {} outcome).outcomeAt other =
      if index = other then some outcome else state.outcomeAt other := by
  rw [settle_eq found, outcomeAt_push, outcomeAt_putAttempt found]
  rfl

variable (unsettled : attempt.outcome? = none)

include unsettled

theorem keeps_settle (outcome : Outcome) :
    state.Keeps (state.settle index {} outcome) := by
  intro other before isThere
  rw [outcomeAt_settle found]
  split
  · next same =>
      subst same
      rw [outcomeAt_of_slot found, unsettled] at isThere
      cases isThere
  · exact isThere

theorem Accounted.settle
    (accounted : state.Accounted)
    (outcome : Outcome) :
    (state.settle index {} outcome).Accounted := by
  have keeps := keeps_settle found unsettled outcome
  have settled := outcomeAt_settle found outcome index
  rw [settle_eq found] at keeps settled ⊢
  refine ⟨fun other => ?_, ?_, ?_, ?_⟩
  · have places := accounted.places other
    simp only [registeredAt_push, registeredAt_putAttempt, begunAt_push,
      begunAt_putAttempt, dueAt_push, dueAt_putAttempt, waitingAt_push,
      waitingAt_putAttempt found, Activity.dueFor]
    split
    · next same =>
        subst same
        rw [waitingAt_of_slot found] at places
        refine places.trans (List.Perm.append_left _ ?_)
        simpa [Attempt.callbacks] using List.perm_append_comm
    · simpa using places
  · intro entry member
    exact keeps _ _ (accounted.ran entry member)
  · intro other now callbacks member
    rcases List.mem_cons.mp member with isNew | earlier
    · cases isNew
      simpa using settled
    · exact keeps _ _ (accounted.due other now callbacks earlier)
  · intro other shown resolver isThere
    have isThere :
        (if index = other then some ⟨⟨attempt.id, .settled outcome⟩, none⟩
          else state.slots[other]?) =
          some ⟨shown, some resolver⟩ :=
      getElem?_putAttempt found _ other ▸ isThere
    split at isThere
    · cases isThere
    · exact accounted.atHand other shown resolver isThere

end Settling

/-! ### A resolver is taken away -/

theorem takeResolver?_eq_some
    {state rest : Dispatch}
    {index : Nat}
    {resolver : Resolver}
    (taken : state.takeResolver? index = some (resolver, rest)) :
    ∃ attempt,
      state.slots[index]? = some ⟨attempt, some resolver⟩ ∧
        rest = state.release index attempt := by
  simp only [takeResolver?, Option.bind_eq_bind, Option.bind_eq_some_iff,
    Option.pure_def, Option.some.injEq, Prod.mk.injEq] at taken
  obtain ⟨⟨attempt, _⟩, found, _, rfl, rfl, rfl⟩ := taken
  exact ⟨attempt, found, rfl⟩

section Releasing

variable
  {state : Dispatch}
  {index : Nat}
  {attempt : Attempt Callback}
  {resolver : Option Resolver}
  (found : state.slots[index]? = some ⟨attempt, resolver⟩)

include found

theorem getElem?_release (other : Nat) :
    (state.release index attempt).slots[other]? =
      if index = other then some ⟨attempt, none⟩ else state.slots[other]? := by
  have inside := (List.getElem?_eq_some_iff.mp found).1
  simp only [release, List.getElem?_set, inside, if_true]

theorem outcomeAt_release (other : Nat) :
    (state.release index attempt).outcomeAt other = state.outcomeAt other := by
  simp only [outcomeAt, getElem?_release found]
  split
  · next same =>
      subst same
      rw [found]
      rfl
  · rfl

theorem waitingAt_release (other : Nat) :
    (state.release index attempt).waitingAt other = state.waitingAt other := by
  simp only [waitingAt, getElem?_release found]
  split
  · next same =>
      subst same
      rw [found]
      rfl
  · rfl

theorem Accounted.release (accounted : state.Accounted) :
    (state.release index attempt).Accounted where
  places := by
    intro other
    rw [waitingAt_release found]
    exact accounted.places other
  ran := by
    intro entry member
    rw [outcomeAt_release found]
    exact accounted.ran entry member
  due := by
    intro other outcome callbacks member
    rw [outcomeAt_release found]
    exact accounted.due other outcome callbacks member
  atHand := by
    intro other shown atHand isThere
    rw [getElem?_release found] at isThere
    split at isThere
    · cases isThere
    · exact accounted.atHand other shown atHand isThere

end Releasing

/-! ### What has begun goes on -/

/-- A task that is replaced leaves the attempts and their callbacks alone. -/
theorem Accounted.putTask
    {state : Dispatch}
    (accounted : state.Accounted)
    (index : Nat)
    (task : Task) :
    (state.putTask index task).Accounted :=
  ⟨accounted.places, accounted.ran, accounted.due, accounted.atHand⟩

/-- The end of a task has no callbacks of its own. -/
theorem Accounted.pushFinishing
    {state : Dispatch}
    (accounted : state.Accounted)
    (index : Nat)
    (ending : Ending) :
    (state.push (.finishing index ending)).Accounted where
  places := by
    intro other
    simpa [Activity.dueFor] using accounted.places other
  ran := accounted.ran
  due := by
    intro other outcome callbacks member
    rcases List.mem_cons.mp member with isNew | earlier
    · cases isNew
    · exact accounted.due other outcome callbacks earlier
  atHand := accounted.atHand

/-- A frame that is left and has nothing due any more is not missed. -/
theorem Accounted.leave
    {before ended : Dispatch}
    (accounted : before.Accounted)
    {frame : Activity}
    (frames : before.frames = frame :: ended.frames)
    (idle : ∀ index, frame.dueFor index = [])
    (slots : ended.slots = before.slots)
    (registered : ended.registered = before.registered)
    (begun : ended.begun = before.begun) :
    ended.Accounted where
  places := by
    intro index
    have places := accounted.places index
    simp only [registeredAt, begunAt, Journal.registeredAt, Journal.begunAt,
      account, dueAt, waitingAt, frames, List.flatMap_cons,
      idle, List.nil_append] at places ⊢
    rw [registered, begun, slots]
    exact places
  ran := by
    intro entry member
    rw [begun] at member
    simp only [outcomeAt, slots]
    exact accounted.ran entry member
  due := by
    intro index outcome callbacks member
    simp only [outcomeAt, slots]
    refine accounted.due index outcome callbacks ?_
    rw [frames]
    exact List.mem_cons_of_mem _ member
  atHand := by
    rw [slots]
    exact accounted.atHand

/-- The callback that is due first begins to run. -/
theorem Accounted.begins
    {state : Dispatch}
    (accounted : state.Accounted)
    {index : Nat}
    {outcome : Outcome}
    {callback : Callback}
    {rest : List Callback}
    {outer : List Activity}
    (frames : state.frames = .settling index outcome (callback :: rest) :: outer) :
    Accounted
      { state with
        frames := .settling index outcome rest :: outer
        begun := state.begun ++ [⟨⟨index, callback⟩, outcome⟩] } where
  places := by
    intro other
    have places := accounted.places other
    simp only [registeredAt, begunAt, Journal.registeredAt, Journal.begunAt,
      account, dueAt, waitingAt, frames, List.flatMap_cons,
      Activity.dueFor, List.filter_append, List.map_append] at places ⊢
    by_cases same : index = other
    · simpa [same] using places
    · simpa [same] using places
  ran := by
    intro entry member
    rcases List.mem_append.mp member with earlier | isNew
    · exact accounted.ran entry earlier
    · rw [List.mem_singleton.mp isNew]
      refine accounted.due index outcome (callback :: rest) ?_
      rw [frames]
      exact List.mem_cons_self
  due := by
    intro other now callbacks member
    have running := accounted.due other now
    rw [frames] at running
    rcases List.mem_cons.mp member with isFirst | earlier
    · cases isFirst
      exact running _ List.mem_cons_self
    · exact running _ (List.mem_cons_of_mem _ earlier)
  atHand := accounted.atHand

end Dispatch

end NavState.Session
