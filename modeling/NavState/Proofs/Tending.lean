import NavState.Proofs.Dispatch

namespace NavState

/-- The outcome of an attempt whose task has ended in this way. -/
def Ending.outcome : Ending → Outcome
  | resolved outcome => outcome
  | lost _ => .aborted

/-- How a poll ends a task, if it does. -/
def Poll.ending? : Poll → Option Ending
  | pending _ => none
  | ready outcome => some (.resolved outcome)
  | fault => some (.lost .faulted)

namespace Task

/-! ## How a task goes on -/

theorem isListening_of_running
    {task : Task}
    (runs : task.stage = .running) :
    task.isListening = false := by
  simp [isListening, runs]

theorem isListening_of_ended
    {task : Task}
    {ending : Ending}
    (ended : task.stage = .ended ending) :
    task.isListening = false := by
  simp [isListening, ended]

/-- The task still settles the same attempt, and is as far as it was. -/
structure Goes (before after : Task) : Prop where
  attempt : after.attempt = before.attempt
  resolver : after.resolver = before.resolver
  stage :
    after.stage = before.stage ∨
      before.isListening = true ∧ after.isListening = true

theorem Goes.isListening
    {before after : Task}
    (goes : before.Goes after) :
    after.isListening = before.isListening := by
  rcases goes.stage with same | ⟨earlier, later⟩
  · simp only [Task.isListening, same]
  · rw [earlier, later]

/-- A task that is no longer listening is where it was. -/
theorem Goes.stage_eq
    {before after : Task}
    (goes : before.Goes after)
    (deaf : after.isListening = false) :
    before.stage = after.stage := by
  rcases goes.stage with same | ⟨_, later⟩
  · exact same.symm
  · rw [deaf] at later
    cases later

/-- A task that has ended stays so, and no other one becomes so. -/
theorem Goes.ended_iff
    {before after : Task}
    (goes : before.Goes after)
    (ending : Ending) :
    after.stage = .ended ending ↔ before.stage = .ended ending := by
  constructor
  · intro ended
    exact (goes.stage_eq (isListening_of_ended ended)).trans ended
  · intro ended
    have deaf := goes.isListening.trans (isListening_of_ended ended)
    exact (goes.stage_eq deaf).symm.trans ended

theorem goes_wake (task : Task) : task.Goes task.wake.2 := by
  cases stage : task.stage with
  | parked =>
      refine ⟨?_, ?_, .inr ⟨?_, ?_⟩⟩ <;> simp [wake, stage, isListening]
  | _ =>
      refine ⟨?_, ?_, .inl ?_⟩ <;> simp [wake, stage]

/-- A task that differs in neither goes on in the same way. -/
theorem Goes.of_eq
    {before middle after : Task}
    (goes : middle.Goes after)
    (attempt : middle.attempt = before.attempt)
    (resolver : middle.resolver = before.resolver)
    (stage : middle.stage = before.stage) :
    before.Goes after where
  attempt := goes.attempt.trans attempt
  resolver := goes.resolver.trans resolver
  stage := by
    have alike : middle.isListening = before.isListening := by
      simp only [Task.isListening, stage]
    rw [← alike, ← stage]
    exact goes.stage

theorem goes_receive (mailbox : Mailbox) (task : Task) :
    task.Goes (task.receive mailbox).2 :=
  (goes_wake { task with mailbox := mailbox }).of_eq rfl rfl rfl

/-- A request for cancellation, which an ended task ignores, is kept in mind. -/
theorem abort_eq
    {runtime : Runtime}
    (reliable : runtime.Reliable)
    (task : Task) :
    task.abort runtime = { task with cancelling := true }.wake := by
  cases stage : task.stage with
  | ended ending =>
      simp only [abort, stage, finish, wake, reliable.cancelEnded]
  | _ =>
      simp only [abort, stage]

theorem goes_abort
    {runtime : Runtime}
    (reliable : runtime.Reliable)
    (task : Task) :
    task.Goes (task.abort runtime).2 := by
  rw [abort_eq reliable]
  exact (goes_wake { task with cancelling := true }).of_eq rfl rfl rfl

theorem goes_joined (task : Task) : task.Goes { task with joined := true } :=
  ⟨rfl, rfl, .inl rfl⟩

/-- A task that is polled and waits listens on. -/
theorem goes_park
    {task : Task}
    (listens : task.isListening = true) :
    task.Goes task.look.park :=
  ⟨rfl, rfl, .inr ⟨listens, rfl⟩⟩

end Task

namespace Session.Dispatch

/-!
# What tasks do to their attempts

A task owns its attempt: nobody else has the resolver.  So the attempt has no
outcome as long as the task listens, and from the moment the task has ended it has
the outcome that goes with the ending.
-/

/-- The tasks that have ended while their attempts still settle. -/
def endings (state : Dispatch) : List (Nat × Ending) :=
  state.frames.filterMap Activity.finishing?

/-- A task owns its attempt, whose outcome tells where the task stands. -/
structure Tends (index : Nat) (task : Task) (state : Dispatch) : Prop where
  owns : ∃ attempt, state.slots[task.attempt]? = some ⟨attempt, none⟩
  holds : task.isListening = true → task.resolver = some {}
  listens : task.isListening = true → state.outcomeAt task.attempt = none
  ended :
    ∀ ending,
      task.stage = .ended ending →
      state.outcomeAt task.attempt = some ending.outcome
  finishes :
    ∀ ending,
      (index, ending) ∈ state.endings →
      task.stage = .running ∧
        state.outcomeAt task.attempt = some ending.outcome
  runs : task.stage = .running → ∃ ending, (index, ending) ∈ state.endings

/-- Every task tends an attempt of its own, and each ends once. -/
structure Tended (state : Dispatch) : Prop where
  tends :
    ∀ (index : Nat) (task : Task),
      state.tasks[index]? = some task →
      state.Tends index task
  apart : (state.tasks.map Task.attempt).Nodup
  present :
    ∀ index ending,
      (index, ending) ∈ state.endings →
      ∃ task, state.tasks[index]? = some task
  once : (state.endings.map Prod.fst).Nodup

/-- What happens elsewhere leaves a task with what it owns. -/
theorem Tends.of_owned
    {before ended : Dispatch}
    {index : Nat}
    {task : Task}
    (tends : before.Tends index task)
    (owned :
      ∀ attempt,
        before.slots[task.attempt]? = some ⟨attempt, none⟩ →
        ∃ later,
          ended.slots[task.attempt]? = some ⟨later, none⟩ ∧
            later.outcome? = attempt.outcome?)
    (endings :
      ∀ ending,
        (index, ending) ∈ ended.endings ↔ (index, ending) ∈ before.endings) :
    ended.Tends index task := by
  obtain ⟨attempt, isThere⟩ := tends.owns
  obtain ⟨later, isLater, sameOutcome⟩ := owned attempt isThere
  have outcome :
      ended.outcomeAt task.attempt = before.outcomeAt task.attempt := by
    rw [outcomeAt_of_slot isThere, outcomeAt_of_slot isLater]
    exact sameOutcome
  refine ⟨⟨later, isLater⟩, tends.holds, ?_, ?_, ?_, ?_⟩
  · rw [outcome]
    exact tends.listens
  · rw [outcome]
    exact tends.ended
  · intro ending member
    rw [outcome]
    exact tends.finishes ending ((endings ending).mp member)
  · intro running
    obtain ⟨ending, member⟩ := tends.runs running
    exact ⟨ending, (endings ending).mpr member⟩

/-- A task that goes on goes on tending its attempt. -/
theorem Tends.of_goes
    {state : Dispatch}
    {index : Nat}
    {before after : Task}
    (tends : state.Tends index before)
    (goes : before.Goes after) :
    state.Tends index after := by
  refine ⟨?_, ?_, ?_, ?_, ?_, ?_⟩
  · rw [goes.attempt]
    exact tends.owns
  · rw [goes.resolver, goes.isListening]
    exact tends.holds
  · rw [goes.attempt, goes.isListening]
    exact tends.listens
  · intro ending hasEnded
    rw [goes.attempt]
    exact tends.ended ending ((goes.ended_iff ending).mp hasEnded)
  · intro ending member
    obtain ⟨running, settled⟩ := tends.finishes ending member
    have deaf : after.isListening = false := by
      rw [goes.isListening]
      exact Task.isListening_of_running running
    rw [goes.attempt]
    exact ⟨(goes.stage_eq deaf).symm.trans running, settled⟩
  · intro running
    have deaf := Task.isListening_of_running running
    exact tends.runs ((goes.stage_eq deaf).trans running)

/-- Two tasks with one attempt are the same task. -/
theorem Tended.index_eq
    {state : Dispatch}
    (tended : state.Tended)
    {index other : Nat}
    {task another : Task}
    (found : state.tasks[index]? = some task)
    (foundOther : state.tasks[other]? = some another)
    (same : task.attempt = another.attempt) :
    index = other := by
  have inside := (List.getElem?_eq_some_iff.mp found).1
  have seen : (state.tasks.map Task.attempt)[index]? = some task.attempt := by
    simp [found]
  have seenOther :
      (state.tasks.map Task.attempt)[other]? = some task.attempt := by
    simp [foundOther, same]
  exact (List.getElem?_inj (by simpa using inside) tended.apart).mp
    (seen.trans seenOther.symm)

/-- A task that ends is there, and its attempt has settled with its ending. -/
theorem Tended.exists_of_mem_endings
    {state : Dispatch}
    (tended : state.Tended)
    {index : Nat}
    {ending : Ending}
    (member : (index, ending) ∈ state.endings) :
    ∃ task,
      state.tasks[index]? = some task ∧
        task.stage = .running ∧
        state.outcomeAt task.attempt = some ending.outcome := by
  obtain ⟨task, found⟩ := tended.present index ending member
  exact ⟨task, found, (tended.tends index task found).finishes ending member⟩

/-- What happens elsewhere leaves the tasks with what they own. -/
theorem Tended.of_owned
    {before ended : Dispatch}
    (tended : before.Tended)
    (tasks : ended.tasks = before.tasks)
    (endings : ended.endings = before.endings)
    (owned :
      ∀ (index : Nat) (task : Task) attempt,
        before.tasks[index]? = some task →
        before.slots[task.attempt]? = some ⟨attempt, none⟩ →
        ∃ later,
          ended.slots[task.attempt]? = some ⟨later, none⟩ ∧
            later.outcome? = attempt.outcome?) :
    ended.Tended := by
  refine ⟨?_, ?_, ?_, ?_⟩
  · intro index task found
    rw [tasks] at found
    refine (tended.tends index task found).of_owned
      (fun attempt => owned index task attempt found) fun ending => ?_
    rw [endings]
  · rw [tasks]
    exact tended.apart
  · rw [tasks, endings]
    exact tended.present
  · rw [endings]
    exact tended.once

/-- An attempt with its resolver at hand is nobody's. -/
theorem Tended.not_owned
    {state : Dispatch}
    (tended : state.Tended)
    {index : Nat}
    {task : Task}
    (found : state.tasks[index]? = some task)
    {other : Nat}
    {attempt : Attempt Callback}
    {resolver : Resolver}
    (atHand : state.slots[other]? = some ⟨attempt, some resolver⟩) :
    other ≠ task.attempt := by
  rintro rfl
  obtain ⟨owned, isThere⟩ := (tended.tends index task found).owns
  rw [isThere] at atHand
  cases atHand

theorem Tended.openAttempt
    {state : Dispatch}
    (tended : state.Tended)
    (id : UInt64) :
    (state.openAttempt id).Tended := by
  refine tended.of_owned rfl rfl ?_
  intro index task attempt found isThere
  refine ⟨attempt, ?_, rfl⟩
  rw [getElem?_openAttempt, if_neg, isThere]
  exact Nat.ne_of_lt (List.getElem?_eq_some_iff.mp isThere).1

theorem Tended.register
    {state : Dispatch}
    (tended : state.Tended)
    {index : Nat}
    {slot : Slot}
    (found : state.slots[index]? = some slot)
    (callback : Callback) :
    (state.register index callback slot).Tended := by
  cases settled : slot.attempt.outcome? with
  | none =>
      rw [register_of_waiting settled]
      refine tended.of_owned rfl rfl ?_
      intro other task attempt _ isThere
      have shown :=
        getElem?_putAttempt found (slot.attempt.onSettle callback).1 task.attempt
      by_cases same : index = task.attempt
      · subst same
        rw [found] at isThere
        cases isThere
        rw [if_pos rfl] at shown
        exact ⟨_, shown, Attempt.outcome?_onSettle callback _⟩
      · rw [if_neg same, isThere] at shown
        exact ⟨attempt, shown, rfl⟩
  | some outcome =>
      rw [register_of_settled settled]
      exact tended.of_owned rfl rfl fun _ _ attempt _ isThere =>
        ⟨attempt, isThere, rfl⟩

/-- A resolver at hand is taken away without any task noticing. -/
theorem Tended.release
    {state : Dispatch}
    (tended : state.Tended)
    {index : Nat}
    {attempt : Attempt Callback}
    {resolver : Resolver}
    (atHand : state.slots[index]? = some ⟨attempt, some resolver⟩) :
    (state.release index attempt).Tended := by
  refine tended.of_owned rfl rfl ?_
  intro other task owned found isThere
  refine ⟨owned, ?_, rfl⟩
  rw [getElem?_release atHand, if_neg (tended.not_owned found atHand), isThere]

/-- What settles an attempt of nobody is not noticed by the tasks. -/
theorem Tended.settle
    {state : Dispatch}
    (tended : state.Tended)
    {index : Nat}
    {attempt : Attempt Callback}
    (found : state.slots[index]? = some ⟨attempt, none⟩)
    (nobodys :
      ∀ (other : Nat) (task : Task),
        state.tasks[other]? = some task →
        index ≠ task.attempt)
    (outcome : Outcome) :
    (state.settle index {} outcome).Tended := by
  rw [settle_eq found]
  refine tended.of_owned rfl rfl ?_
  intro other task owned foundTask isThere
  have shown :=
    getElem?_putAttempt found ⟨attempt.id, .settled outcome⟩ task.attempt
  rw [if_neg (nobodys other task foundTask), isThere] at shown
  exact ⟨owned, shown, rfl⟩

/-! ## What is done to a task -/

theorem getElem?_addTask
    (state : Dispatch)
    (task : Task)
    (index : Nat) :
    (state.addTask task).tasks[index]? =
      if index = state.tasks.length then some task else state.tasks[index]? :=
  getElem?_append_one state.tasks task index

/-- A task that takes the resolver of a waiting attempt along tends it. -/
theorem Tended.addTask
    {state : Dispatch}
    (tended : state.Tended)
    {task : Task}
    (fresh : task.stage = .scheduled)
    (holds : task.resolver = some {})
    {attempt : Attempt Callback}
    (owned : state.slots[task.attempt]? = some ⟨attempt, none⟩)
    (unsettled : attempt.outcome? = none)
    (nobodys :
      ∀ (index : Nat) (other : Task),
        state.tasks[index]? = some other →
        task.attempt ≠ other.attempt) :
    (state.addTask task).Tended where
  tends := by
    intro index other found
    rw [getElem?_addTask] at found
    split at found
    · next isLast =>
        cases found
        refine ⟨⟨attempt, owned⟩, fun _ => holds, ?_, ?_, ?_, ?_⟩
        · exact fun _ => (outcomeAt_of_slot owned).trans unsettled
        · intro ending hasEnded
          rw [fresh] at hasEnded
          cases hasEnded
        · intro ending member
          obtain ⟨another, isThere⟩ := tended.present index ending member
          have inside := (List.getElem?_eq_some_iff.mp isThere).1
          exact absurd isLast (Nat.ne_of_lt inside)
        · intro running
          rw [fresh] at running
          cases running
    · exact (tended.tends index other found).of_owned
        (fun owned isThere => ⟨owned, isThere, rfl⟩) fun _ => Iff.rfl
  apart := by
    simp only [Dispatch.addTask, List.map_append, List.map_cons, List.map_nil]
    rw [List.nodup_append_comm, List.singleton_append, List.nodup_cons]
    refine ⟨?_, tended.apart⟩
    intro member
    obtain ⟨other, isThere, same⟩ := List.mem_map.mp member
    obtain ⟨index, found⟩ := List.getElem?_of_mem isThere
    exact nobodys index other found same.symm
  present := by
    intro index ending member
    obtain ⟨other, found⟩ := tended.present index ending member
    refine ⟨other, ?_⟩
    rw [getElem?_addTask, if_neg, found]
    exact Nat.ne_of_lt (List.getElem?_eq_some_iff.mp found).1
  once := tended.once

section Replacing

variable
  {state : Dispatch}
  {index : Nat}
  {task : Task}
  (found : state.tasks[index]? = some task)

include found

theorem getElem?_putTask (after : Task) (other : Nat) :
    (state.putTask index after).tasks[other]? =
      if index = other then some after else state.tasks[other]? := by
  have inside := (List.getElem?_eq_some_iff.mp found).1
  simp only [putTask, List.getElem?_set, inside, if_true]

theorem attempts_putTask
    {after : Task}
    (same : after.attempt = task.attempt) :
    (state.putTask index after).tasks.map Task.attempt =
      state.tasks.map Task.attempt := by
  refine List.ext_getElem? fun other => ?_
  simp only [List.getElem?_map, getElem?_putTask found]
  split
  · next here =>
      subst here
      simp [found, same]
  · rfl

/-- Where one task comes to stand elsewhere, the others stay where they were. -/
theorem Tended.replaced
    (tended : state.Tended)
    {ended : Dispatch}
    {after : Task}
    (tasks : ended.tasks = state.tasks.set index after)
    (same : after.attempt = task.attempt)
    (tends : ended.Tends index after)
    (elsewhere :
      ∀ attempt,
        attempt ≠ task.attempt →
        ended.slots[attempt]? = state.slots[attempt]?)
    (endings :
      ∀ other ending,
        index ≠ other →
        ((other, ending) ∈ ended.endings ↔ (other, ending) ∈ state.endings))
    (once : (ended.endings.map Prod.fst).Nodup) :
    ended.Tended := by
  have shown (other : Nat) :
      ended.tasks[other]? =
        if index = other then some after else state.tasks[other]? := by
    rw [tasks]
    exact getElem?_putTask found after other
  refine ⟨?_, ?_, ?_, once⟩
  · intro other another foundOther
    rw [shown] at foundOther
    split at foundOther
    · next here =>
        cases foundOther
        exact here ▸ tends
    · next different =>
        -- Nobody else owns the attempt of the task.
        have apart : another.attempt ≠ task.attempt := fun shared =>
          different (tended.index_eq found foundOther shared.symm)
        refine (tended.tends other another foundOther).of_owned ?_
          fun ending => endings other ending different
        intro attempt isThere
        exact ⟨attempt, (elsewhere _ apart).trans isThere, rfl⟩
  · have attempts := attempts_putTask found same
    rw [tasks]
    exact attempts ▸ tended.apart
  · intro other ending member
    rw [shown]
    split
    · exact ⟨after, rfl⟩
    · next different =>
        exact tended.present other ending
          ((endings other ending different).mp member)

theorem Tended.putTask
    (tended : state.Tended)
    {after : Task}
    (goes : task.Goes after) :
    (state.putTask index after).Tended := by
  have tends : (state.putTask index after).Tends index after :=
    ((tended.tends index task found).of_goes goes).of_owned
      (fun attempt isThere => ⟨attempt, isThere, rfl⟩) fun _ => Iff.rfl
  exact tended.replaced found rfl goes.attempt tends (fun _ _ => rfl)
    (fun _ _ _ => Iff.rfl) tended.once

end Replacing

/-! ## A task ends -/

section Ending

variable
  {state : Dispatch}
  {index : Nat}
  {task : Task}
  {attempt : Attempt Callback}
  (owned : state.slots[task.attempt]? = some ⟨attempt, none⟩)
  (holds : task.resolver = some {})

include owned holds

/-- A task that ends stops listening, and its resolver settles its attempt. -/
theorem spend_eq (ending : Ending) (outcome : Outcome) :
    state.spend index task ending outcome =
      ((((state.putTask index task.spend).push
            (.finishing index ending)).putAttempt task.attempt
          ⟨attempt.id, .settled outcome⟩).push
        (.settling task.attempt outcome attempt.callbacks)) := by
  have stays :
      ((state.putTask index task.spend).push
          (.finishing index ending)).slots[task.attempt]? =
        some ⟨attempt, none⟩ :=
    owned
  simp only [spend, holds]
  exact settle_eq stays outcome

theorem outcomeAt_spend (ending : Ending) (outcome : Outcome) (other : Nat) :
    (state.spend index task ending outcome).outcomeAt other =
      if task.attempt = other then some outcome else state.outcomeAt other := by
  rw [spend_eq owned holds, outcomeAt_push]
  exact outcomeAt_putAttempt owned _ other

end Ending

section Spending

variable
  (index : Nat)
  (task : Task)
  (ending : Ending)
  (outcome : Outcome)
  (state : Dispatch)

theorem tasks_spend :
    (state.spend index task ending outcome).tasks =
      state.tasks.set index task.spend := by
  simp only [spend, settle]
  split
  · rfl
  · split <;> rfl

theorem endings_spend :
    (state.spend index task ending outcome).endings =
      (index, ending) :: state.endings := by
  simp only [spend, settle]
  split
  · rfl
  · split <;> rfl

end Spending

/-- What a task that ends leaves behind is its ending, and nothing else changes. -/
theorem Tended.spend
    {state : Dispatch}
    (tended : state.Tended)
    {index : Nat}
    {task later : Task}
    (found : state.tasks[index]? = some task)
    (listening : task.isListening = true)
    (attempt : later.attempt = task.attempt)
    (resolver : later.resolver = task.resolver)
    (ending : Ending) :
    (state.spend index later ending ending.outcome).Tended := by
  have before := tended.tends index task found
  obtain ⟨target, owned⟩ := before.owns
  have holds := resolver.trans (before.holds listening)
  rw [← attempt] at owned
  have slots (other : Nat) :
      (state.spend index later ending ending.outcome).slots[other]? =
        if later.attempt = other then
          some ⟨⟨target.id, .settled ending.outcome⟩, none⟩
        else
          state.slots[other]? := by
    rw [spend_eq owned holds]
    exact getElem?_putAttempt owned _ other
  have settled :
      (state.spend index later ending ending.outcome).outcomeAt later.attempt =
        some ending.outcome := by
    rw [outcomeAt_spend owned holds, if_pos rfl]
  -- A task that listens is not among those that end already.
  have isNew (now : Ending) : (index, now) ∉ state.endings := by
    intro member
    have running := (before.finishes now member).1
    rw [Task.isListening_of_running running] at listening
    cases listening
  have tends :
      (state.spend index later ending ending.outcome).Tends index later.spend := by
    refine ⟨?_, nofun, nofun, nofun, ?_, ?_⟩
    · exact ⟨_, (slots later.attempt).trans (if_pos rfl)⟩
    · intro now member
      rw [endings_spend] at member
      rcases List.mem_cons.mp member with isFirst | earlier
      · cases isFirst
        exact ⟨rfl, settled⟩
      · exact absurd earlier (isNew now)
    · intro _
      rw [endings_spend]
      exact ⟨ending, List.mem_cons_self⟩
  refine tended.replaced found (tasks_spend index later ending _ state) attempt tends
    ?_ ?_ ?_
  · intro other different
    rw [slots, if_neg]
    rw [attempt]
    exact different.symm
  · intro other now different
    rw [endings_spend, List.mem_cons, or_iff_right]
    intro isFirst
    exact different (congrArg Prod.fst isFirst).symm
  · rw [endings_spend, List.map_cons, List.nodup_cons]
    refine ⟨?_, tended.once⟩
    intro member
    obtain ⟨⟨_, now⟩, isThere, rfl⟩ := List.mem_map.mp member
    exact isNew now isThere

/-- A task that counts as ended has its attempt settled. -/
theorem Tended.finish
    {state : Dispatch}
    (tended : state.Tended)
    {index : Nat}
    {ending : Ending}
    {outer : List Activity}
    (frames : state.frames = .finishing index ending :: outer) :
    (state.finish index ending outer).Tended := by
  have endings :
      state.endings =
        (index, ending) :: (state.finish index ending outer).endings := by
    rw [Dispatch.endings, frames]
    rfl
  have first : (index, ending) ∈ state.endings := by
    rw [endings]
    exact List.mem_cons_self
  have once := tended.once
  rw [endings, List.map_cons, List.nodup_cons] at once
  obtain ⟨task, found, _, settled⟩ := tended.exists_of_mem_endings first
  have before := tended.tends index task found
  have tasks :
      (state.finish index ending outer).tasks =
        state.tasks.set index (task.finish ending) := by
    rw [Dispatch.finish, List.modify_eq_set_getElem?, found]
    rfl
  have tends :
      (state.finish index ending outer).Tends index
        (task.finish ending) := by
    refine ⟨before.owns, nofun, nofun, ?_, ?_, nofun⟩
    · intro now hasEnded
      cases hasEnded
      exact settled
    · intro now member
      exact absurd (List.mem_map.mpr ⟨_, member, rfl⟩) once.1
  refine tended.replaced found tasks rfl tends (fun _ _ => rfl) ?_ once.2
  intro other now different
  rw [endings, List.mem_cons, or_iff_right]
  intro isFirst
  exact different (congrArg Prod.fst isFirst).symm

/-! ## Whatever happens -/

/--
The callbacks are accounted for, and the tasks tend their attempts, on a runtime
that can be relied on.
-/
structure Sound (state : Dispatch) : Prop extends
    Accounted state, Tended state where
  reliable : state.runtime.Reliable

/-- Nothing is amiss before anything happens. -/
theorem sound_empty
    {runtime : Runtime}
    (reliable : runtime.Reliable) :
    Sound { runtime := runtime } := by
  refine ⟨⟨fun _ => .nil, ?_, ?_, ?_⟩, ⟨?_, .nil, ?_, .nil⟩, reliable⟩
  all_goals
    intros
    simp [endings] at *

theorem Keeps.refl (state : Dispatch) : state.Keeps state :=
  fun _ _ settled => settled

theorem Keeps.trans
    {before between ended : Dispatch}
    (first : before.Keeps between)
    (second : between.Keeps ended) :
    before.Keeps ended :=
  fun index outcome settled => second index outcome (first index outcome settled)

/-! The runtime is the same all along. -/

section Runtimes

variable (index : Nat) (state : Dispatch)

@[simp] theorem runtime_settle (resolver : Resolver) (outcome : Outcome) :
    (state.settle index resolver outcome).runtime = state.runtime := by
  simp only [settle]
  split <;> rfl

@[simp] theorem runtime_register (callback : Callback) (slot : Slot) :
    (state.register index callback slot).runtime = state.runtime := by
  simp only [register]
  split <;> rfl

@[simp] theorem runtime_spend (task : Task) (ending : Ending) (outcome : Outcome) :
    (state.spend index task ending outcome).runtime = state.runtime := by
  simp only [spend]
  split
  · rfl
  · exact runtime_settle _ _ _ _

end Runtimes

/-- A task that is put in the place of itself changes no attempt. -/
theorem Sound.putTask
    {state : Dispatch}
    (sound : state.Sound)
    {index : Nat}
    {task after : Task}
    (found : state.tasks[index]? = some task)
    (goes : task.Goes after) :
    (state.putTask index after).Sound ∧ state.Keeps (state.putTask index after) :=
  ⟨⟨sound.toAccounted.putTask index after, sound.toTended.putTask found goes,
      sound.reliable⟩,
    keeps_of_eq fun _ => rfl⟩

/-- Taking a resolver away leaves an attempt that is nobody's and has no outcome. -/
theorem Sound.takeResolver?
    {state rest : Dispatch}
    (sound : state.Sound)
    {index : Nat}
    {resolver : Resolver}
    (taken : state.takeResolver? index = some (resolver, rest)) :
    rest.Sound ∧
      state.Keeps rest ∧
      resolver = {} ∧
      (∃ attempt,
        rest.slots[index]? = some ⟨attempt, none⟩ ∧ attempt.outcome? = none) ∧
      ∀ (other : Nat) (task : Task),
        rest.tasks[other]? = some task →
        index ≠ task.attempt := by
  obtain ⟨attempt, found, rfl⟩ := takeResolver?_eq_some taken
  obtain ⟨fresh, unsettled⟩ := sound.atHand index attempt resolver found
  refine ⟨⟨sound.toAccounted.release found, sound.toTended.release found,
      sound.reliable⟩,
    keeps_of_eq (outcomeAt_release found), fresh, ⟨attempt, ?_, unsettled⟩,
    fun _ _ foundTask => sound.not_owned foundTask found⟩
  rw [getElem?_release found, if_pos rfl]

/-- The resolver that was taken away is used. -/
theorem Sound.settle
    {state rest : Dispatch}
    (sound : state.Sound)
    {index : Nat}
    {resolver : Resolver}
    (taken : state.takeResolver? index = some (resolver, rest))
    (outcome : Outcome) :
    (rest.settle index resolver outcome).Sound ∧
      state.Keeps (rest.settle index resolver outcome) := by
  obtain ⟨soundRest, keeps, rfl, ⟨attempt, found, unsettled⟩, nobodys⟩ :=
    sound.takeResolver? taken
  refine ⟨⟨?_, ?_, ?_⟩, keeps.trans (keeps_settle found unsettled outcome)⟩
  · exact soundRest.toAccounted.settle found unsettled outcome
  · exact soundRest.toTended.settle found nobodys outcome
  · rw [runtime_settle]
    exact soundRest.reliable

/-- On a reliable runtime a future that is refused leaves its attempt aborted. -/
theorem Sound.refuse_eq
    {state : Dispatch}
    (sound : state.Sound)
    (index : Nat)
    (resolver : Resolver) :
    state.refuse index resolver = state.settle index resolver .aborted :=
  if_pos sound.reliable.dropsRefused

/-- On a reliable runtime a task that is lost leaves its attempt aborted. -/
theorem Sound.lose_eq
    {state : Dispatch}
    (sound : state.Sound)
    (index : Nat)
    (task : Task)
    (loss : Loss) :
    state.lose index task loss =
      state.spend index task (.lost loss) (Ending.lost loss).outcome :=
  if_pos (sound.reliable.dropsLost loss)

/-- A task that listens may come to any ending. -/
theorem Sound.spend
    {state : Dispatch}
    (sound : state.Sound)
    {index : Nat}
    {task later : Task}
    (found : state.tasks[index]? = some task)
    (listening : task.isListening = true)
    (attempt : later.attempt = task.attempt)
    (resolver : later.resolver = task.resolver)
    (ending : Ending) :
    (state.spend index later ending ending.outcome).Sound ∧
      state.Keeps (state.spend index later ending ending.outcome) := by
  have tends := sound.tends index task found
  obtain ⟨target, owned⟩ := tends.owns
  have holds := resolver.trans (tends.holds listening)
  have unsettled : target.outcome? = none := by
    rw [← outcomeAt_of_slot owned]
    exact tends.listens listening
  rw [← attempt] at owned
  let begun : Dispatch :=
    (state.putTask index later.spend).push (.finishing index ending)
  have stays : begun.slots[later.attempt]? = some ⟨target, none⟩ := owned
  have accounted : begun.Accounted :=
    (sound.toAccounted.putTask index _).pushFinishing index ending
  have keeps : begun.Keeps (begun.settle later.attempt {} ending.outcome) :=
    keeps_settle stays unsettled ending.outcome
  have shape :
      state.spend index later ending ending.outcome =
        begun.settle later.attempt {} ending.outcome := by
    simp only [Dispatch.spend, holds, begun]
  refine ⟨⟨?_, ?_, ?_⟩, ?_⟩
  · rw [shape]
    exact accounted.settle stays unsettled ending.outcome
  · exact sound.toTended.spend found listening attempt resolver ending
  · rw [runtime_spend]
    exact sound.reliable
  · rw [shape]
    exact keeps

/-- A task that is polled goes on waiting, or ends. -/
theorem Sound.poll_eq
    {state : Dispatch}
    (sound : state.Sound)
    (index : Nat)
    (task : Task) :
    state.poll index task =
      match task.look.poll.ending? with
      | none => state.putTask index task.look.park
      | some ending => state.spend index task.look ending ending.outcome := by
  cases polled : task.look.poll with
  | pending givesWay =>
      simp only [Dispatch.poll, polled, Poll.ending?]
  | ready outcome =>
      simp only [Dispatch.poll, polled, Poll.ending?, Ending.outcome]
  | fault =>
      simp only [Dispatch.poll, polled, Poll.ending?]
      exact sound.lose_eq index task.look .faulted

theorem Sound.poll
    {state : Dispatch}
    (sound : state.Sound)
    {index : Nat}
    {task : Task}
    (found : state.tasks[index]? = some task)
    (listening : task.isListening = true) :
    (state.poll index task).Sound ∧ state.Keeps (state.poll index task) := by
  rw [sound.poll_eq]
  split
  · exact sound.putTask found (Task.goes_park listening)
  · next ending _ =>
      refine sound.spend found listening ?_ ?_ ending
      · rfl
      · rfl

theorem Sound.proceed?
    {before ended : Dispatch}
    (sound : before.Sound)
    (proceeded : before.proceed? = some ended) :
    ended.Sound ∧ before.Keeps ended := by
  simp only [Dispatch.proceed?] at proceeded
  split at proceeded
  · cases proceeded
  · next index outcome callback rest outer frames =>
      cases proceeded
      refine ⟨⟨sound.toAccounted.begins frames, ?_, sound.reliable⟩,
        fun _ _ settled => settled⟩
      refine sound.toTended.of_owned rfl ?_ fun _ _ attempt _ owned =>
        ⟨attempt, owned, rfl⟩
      rw [endings, endings, frames]
      rfl
  · next index outcome outer frames =>
      cases proceeded
      refine ⟨⟨?_, ?_, sound.reliable⟩, fun _ _ settled => settled⟩
      · refine sound.toAccounted.leave frames (fun other => ?_) rfl rfl rfl
        exact ite_self _
      · refine sound.toTended.of_owned rfl ?_ fun _ _ attempt _ owned =>
          ⟨attempt, owned, rfl⟩
        rw [endings, endings, frames]
        rfl
  · next index ending outer frames =>
      cases proceeded
      exact ⟨⟨sound.toAccounted.leave frames (fun _ => rfl) rfl rfl rfl,
        sound.toTended.finish frames, sound.reliable⟩,
        fun _ _ settled => settled⟩

/-- Whatever happens, nothing gets amiss, and no outcome changes. -/
theorem Sound.step?
    {before ended : Dispatch}
    (sound : before.Sound)
    {event : Event}
    (stepped : before.step? event = some ended) :
    ended.Sound ∧ before.Keeps ended := by
  cases event with
  | opens id =>
      cases stepped
      exact ⟨⟨sound.toAccounted.openAttempt id, sound.toTended.openAttempt id,
          sound.reliable⟩,
        keeps_of_eq fun index => outcomeAt_openAttempt index id before⟩
  | registers index callback =>
      obtain ⟨slot, found, rfl⟩ := Option.map_eq_some_iff.mp stepped
      refine ⟨⟨sound.toAccounted.register found callback,
          sound.toTended.register found callback, ?_⟩,
        keeps_of_eq (outcomeAt_register found callback)⟩
      rw [runtime_register]
      exact sound.reliable
  | settles index outcome =>
      obtain ⟨⟨resolver, rest⟩, taken, rfl⟩ := Option.map_eq_some_iff.mp stepped
      exact sound.settle taken outcome
  | refuses index =>
      obtain ⟨⟨resolver, rest⟩, taken, rfl⟩ := Option.map_eq_some_iff.mp stepped
      have soundRest := (sound.takeResolver? taken).1
      dsimp only
      rw [soundRest.refuse_eq]
      exact sound.settle taken .aborted
  | spawns index future pushes =>
      obtain ⟨⟨resolver, rest⟩, taken, rfl⟩ := Option.map_eq_some_iff.mp stepped
      obtain ⟨soundRest, keeps, fresh, ⟨attempt, found, unsettled⟩, nobodys⟩ :=
        sound.takeResolver? taken
      refine ⟨⟨?_, ?_, soundRest.reliable⟩, keeps⟩
      · exact ⟨soundRest.places, soundRest.ran, soundRest.due, soundRest.atHand⟩
      · exact soundRest.toTended.addTask rfl (congrArg some fresh) found unsettled
          nobodys
  | receives index mailbox =>
      obtain ⟨task, accepted, rfl⟩ := Option.map_eq_some_iff.mp stepped
      have found := (Option.filter_eq_some_iff.mp accepted).1
      exact sound.putTask found (Task.goes_receive mailbox task)
  | aborts index =>
      obtain ⟨task, found, rfl⟩ := Option.map_eq_some_iff.mp stepped
      exact sound.putTask found (Task.goes_abort sound.reliable task)
  | wakes index =>
      obtain ⟨task, found, rfl⟩ := Option.map_eq_some_iff.mp stepped
      exact sound.putTask found (Task.goes_wake task)
  | polls index =>
      obtain ⟨task, accepted, rfl⟩ := Option.map_eq_some_iff.mp stepped
      obtain ⟨found, listening⟩ := Option.filter_eq_some_iff.mp accepted
      exact sound.poll found listening
  | cancels index =>
      obtain ⟨task, accepted, rfl⟩ := Option.map_eq_some_iff.mp stepped
      obtain ⟨found, listening⟩ := Option.filter_eq_some_iff.mp accepted
      rw [sound.lose_eq]
      exact sound.spend found (Bool.and_eq_true_iff.mp listening).1 rfl rfl _
  | joins index =>
      obtain ⟨task, found, rfl⟩ := Option.map_eq_some_iff.mp stepped
      exact sound.putTask found (Task.goes_joined task)
  | proceeds =>
      exact sound.proceed? stepped

/-- Nothing gets amiss in the long run. -/
theorem Sound.after?
    {events : List Event}
    {before ended : Dispatch}
    (sound : before.Sound)
    (happened : before.after? events = some ended) :
    ended.Sound ∧ before.Keeps ended := by
  induction events generalizing before with
  | nil =>
      cases happened
      exact ⟨sound, Keeps.refl _⟩
  | cons event rest inductionHypothesis =>
      obtain ⟨next, stepped, continued⟩ := Option.bind_eq_some_iff.mp happened
      obtain ⟨soundNext, keeps⟩ := sound.step? stepped
      obtain ⟨soundEnded, keepsOn⟩ := inductionHypothesis soundNext continued
      exact ⟨soundEnded, keeps.trans keepsOn⟩

end Session.Dispatch

end NavState
