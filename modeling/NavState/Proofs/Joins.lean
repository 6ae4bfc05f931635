import NavState.Proofs.Serving
import NavState.Proofs.Verdicts

namespace NavState.Session

/-!
# Tasks and attempts agree

Whoever collects the ending of a task learns what its attempt came to: the
outcome that its future came to, or why there is none, in which case the attempt
was aborted.
-/

/-- The reply to whoever collects an ending. -/
def Reply.ofEnding : Ending → Reply
  | .resolved reached => .outcome reached
  | .lost .cancelled => .fault .taskCancelled
  | .lost .faulted => .fault .taskFaulted

theorem Reply.ofEnding_injective : Function.Injective Reply.ofEnding := by
  intro first second same
  rcases first with _ | ⟨_ | _⟩ <;>
    rcases second with _ | ⟨_ | _⟩ <;>
      cases same <;> rfl

/-- An outcome is what its task settled its attempt with. -/
theorem outcome_of_ofEnding_eq_outcome
    {ending : Ending}
    {outcome : Outcome}
    (same : Reply.ofEnding ending = .outcome outcome) :
    ending.outcome = outcome := by
  rcases ending with reached | ⟨_ | _⟩
  · cases same
    rfl
  · cases same
  · cases same

theorem reply_modify_bind
    (change : World → World)
    (next : Unit → Act Reply)
    (world : World) :
    Act.reply (modify change >>= next) world = (next ()).reply (change world) :=
  rfl

theorem reply_requireRunner_bind
    {world : World}
    (idle : world.schedule.runner = .idle)
    (next : Unit → Act Reply) :
    Act.reply (requireRunner >>= next) world = (next ()).reply world := by
  simp only [requireRunner, bind_assoc]
  rw [reply_get_bind, if_neg (not_not.mpr idle)]
  rfl

/-- The ending of a task is what its collection replies. -/
theorem reply_join
    {task : Task}
    {ending : Ending}
    (ended : task.stage = .ended ending)
    (index : Nat)
    {world : World}
    (idle : world.schedule.runner = .idle) :
    ((join index task).reply world).1 = Reply.ofEnding ending := by
  simp only [join, ended]
  rw [reply_modify_bind, reply_requireRunner_bind]
  · rcases ending with _ | ⟨_ | _⟩ <;> rfl
  · exact idle

namespace Dispatch

/-! ## The endings of a history -/

/--
The future of a task came to an outcome at a poll, before which no cancellation of
the task took hold.
-/
def ResolvedTo (index : Nat) (outcome : Outcome) (events : List Event) : Prop :=
  ∃ earlier later future,
    events = earlier ++ .polls index :: later ∧
      (futures earlier)[index]? = some future ∧
      .cancels index ∉ earlier ∧
      future.poll (tidings index earlier).next = .ready outcome

/-- The cancellation of a task took hold, for which somebody had asked before. -/
def CancelledIn (index : Nat) (events : List Event) : Prop :=
  ∃ earlier later,
    events = earlier ++ .cancels index :: later ∧
      .aborts index ∈ earlier

/--
The future of a task faulted at a poll, before which no cancellation of the task
took hold.
-/
def FaultedIn (index : Nat) (events : List Event) : Prop :=
  ∃ earlier later future,
    events = earlier ++ .polls index :: later ∧
      (futures earlier)[index]? = some future ∧
      .cancels index ∉ earlier ∧
      future.poll (tidings index earlier).next = .fault

/-- Whether a task is to be cancelled is told by whether somebody asked for it. -/
theorem aborted_tidings
    (index : Nat)
    (events : List Event) :
    (tidings index events).aborted = true ↔ .aborts index ∈ events := by
  induction events using List.reverseRecOn with
  | nil =>
      simp [tidings]
  | append_singleton events event inductionHypothesis =>
      rw [tidings_concat, List.mem_append, ← inductionHypothesis]
      cases event with
      | aborts here =>
          by_cases same : here = index
          · simp [Tidings.after, same]
          · simp [Tidings.after, same, Ne.symm same]
      | receives here mailbox =>
          by_cases same : here = index <;> simp [Tidings.after, same]
      | polls here =>
          by_cases same : here = index <;> simp [Tidings.after, same]
      | _ =>
          simp [Tidings.after]

/-- A task that listens has not ended, and is not about to. -/
theorem Tended.not_endsWith
    {state : Dispatch}
    (tended : state.Tended)
    {index : Nat}
    {task : Task}
    (found : state.tasks[index]? = some task)
    (listening : task.isListening = true)
    (ending : Ending) :
    ¬state.EndsWith index ending := by
  rintro (⟨another, foundOther, ended⟩ | member)
  · cases found.symm.trans foundOther
    rw [Task.isListening_of_ended ended] at listening
    cases listening
  · have running := ((tended.tends index task found).finishes ending member).1
    rw [Task.isListening_of_running running] at listening
    cases listening

/-- What happened before something else had happened by then. -/
theorem exists_of_after?_append
    {before state : Dispatch}
    {earlier later : List Event}
    {event : Event}
    (happened : before.after? (earlier ++ event :: later) = some state) :
    ∃ between next,
      before.after? earlier = some between ∧
        between.step? event = some next ∧
        next.after? later = some state := by
  rw [after?_append] at happened
  obtain ⟨between, first, continued⟩ := Option.bind_eq_some_iff.mp happened
  obtain ⟨next, stepped, last⟩ := Option.bind_eq_some_iff.mp continued
  exact ⟨between, next, first, stepped, last⟩

section Endings

variable
  {runtime : Runtime}
  (reliable : runtime.Reliable)
  {events : List Event}
  {state : Dispatch}
  (happened : ({ runtime := runtime } : Dispatch).after? events = some state)
  {index : Nat}

include reliable happened

/-- A cancellation that takes hold ends the task. -/
theorem endsWith_of_cancels (member : .cancels index ∈ events) :
    state.EndsWith index (.lost .cancelled) := by
  obtain ⟨earlier, later, rfl⟩ := List.append_of_mem member
  obtain ⟨between, next, first, stepped, _⟩ := exists_of_after?_append happened
  obtain ⟨task, accepted, _⟩ := Option.map_eq_some_iff.mp stepped
  have found := (Option.filter_eq_some_iff.mp accepted).1
  have told := told_of_after? reliable first
  refine (endsWith_iff reliable happened index _).mpr
    ⟨earlier, .cancels index, later, rfl, ?_⟩
  exact (told.closes_iff index _ _).mpr ⟨task, found, if_pos rfl⟩

theorem endsWith_cancelled :
    state.EndsWith index (.lost .cancelled) ↔ CancelledIn index events := by
  constructor
  · intro ends
    obtain ⟨earlier, event, later, rfl, future, isFuture, verdict⟩ :=
      (endsWith_iff reliable happened index _).mp ends
    obtain ⟨between, next, first, stepped, _⟩ := exists_of_after?_append happened
    cases event with
    | cancels here =>
        obtain ⟨task, accepted, _⟩ := Option.map_eq_some_iff.mp stepped
        obtain ⟨found, asked⟩ := Option.filter_eq_some_iff.mp accepted
        have same : here = index := by
          by_contra different
          simp [Event.ending?, different] at verdict
        subst same
        have tells := (told_of_after? reliable first).tells here task found
        refine ⟨earlier, later, rfl, (aborted_tidings here earlier).mp ?_⟩
        rw [← tells.tidings]
        exact (Bool.and_eq_true_iff.mp asked).2
    | polls here =>
        simp only [Event.ending?] at verdict
        split at verdict
        · cases polled : future.poll (tidings index earlier).next <;>
            simp [polled, Poll.ending?] at verdict
        · cases verdict
    | _ =>
        cases verdict
  · rintro ⟨earlier, later, rfl, _⟩
    exact endsWith_of_cancels reliable happened (by simp)

/-- A task ends at a poll if its future says so and no cancellation took hold. -/
theorem endsWith_polled
    {poll : Poll}
    {ending : Ending}
    (comes : ∀ other : Poll, other.ending? = some ending ↔ other = poll)
    (uncancelled : ending ≠ .lost .cancelled) :
    state.EndsWith index ending ↔
      ∃ earlier later future,
        events = earlier ++ .polls index :: later ∧
          (futures earlier)[index]? = some future ∧
          .cancels index ∉ earlier ∧
          future.poll (tidings index earlier).next = poll := by
  rw [endsWith_iff reliable happened]
  constructor
  · rintro ⟨earlier, event, later, rfl, future, isFuture, verdict⟩
    obtain ⟨between, next, first, stepped, _⟩ := exists_of_after?_append happened
    have told := told_of_after? reliable first
    have sound := ((sound_empty reliable).after? first).1
    obtain ⟨task, found, ends⟩ :=
      (told.closes_iff index ending event).mp ⟨future, isFuture, verdict⟩
    have listening := isListening_of_ending? stepped found ends
    cases event with
    | polls here =>
        simp only [Event.ending?] at verdict
        split at verdict
        · next same =>
            subst same
            refine ⟨earlier, later, future, rfl, isFuture, ?_, (comes _).mp verdict⟩
            intro member
            exact sound.not_endsWith found listening _
              (endsWith_of_cancels reliable first member)
        · cases verdict
    | cancels here =>
        simp only [Event.ending?] at verdict
        split at verdict
        · cases verdict
          exact absurd rfl uncancelled
        · cases verdict
    | _ =>
        cases verdict
  · rintro ⟨earlier, later, future, rfl, isFuture, _, polled⟩
    refine ⟨earlier, .polls index, later, rfl, future, isFuture, ?_⟩
    exact (if_pos rfl).trans ((comes _).mpr polled)

theorem endsWith_resolved (outcome : Outcome) :
    state.EndsWith index (.resolved outcome) ↔ ResolvedTo index outcome events := by
  refine endsWith_polled reliable happened ?_ (by simp)
  intro other
  cases other <;> simp [Poll.ending?]

theorem endsWith_faulted :
    state.EndsWith index (.lost .faulted) ↔ FaultedIn index events := by
  refine endsWith_polled reliable happened ?_ (by simp)
  intro other
  cases other <;> simp [Poll.ending?]

end Endings

/-- A task that has ended has one ending. -/
theorem Tended.endsWith_iff
    {state : Dispatch}
    (tended : state.Tended)
    {index : Nat}
    {task : Task}
    {ending : Ending}
    (found : state.tasks[index]? = some task)
    (ended : task.stage = .ended ending)
    (other : Ending) :
    state.EndsWith index other ↔ ending = other := by
  constructor
  · rintro (⟨another, foundOther, same⟩ | member)
    · cases found.symm.trans foundOther
      cases ended.symm.trans same
      rfl
    · have running := ((tended.tends index task found).finishes other member).1
      cases ended.symm.trans running
  · rintro rfl
    exact .inl ⟨task, found, ended⟩

end Dispatch

/-- The commands of a session are served one after the other. -/
theorem serves_worldAfter
    (depth : Nat)
    (commands : List Command)
    (world : World) :
    world.Serves (worldAfter depth commands world) := by
  have emptied (world : World) : world.Serves { world with log := [] } :=
    World.serves_of_eq rfl
  exact tracked_worldAfter World.tracksTasks_serves emptied depth commands world

/-! ## Calls that are refused -/

/-- Whether a caller who asks for a task is outside of any runner of tasks. -/
def isOutside (outside : Bool) : Runner → Bool
  | .idle => outside
  | .barred => true
  | .running => false

/-- The future of a caller outside of any runner is refused. -/
theorem reply_spawn_of_outside
    {client : Client}
    {world rest : World}
    {index : Nat}
    {resolver : Resolver}
    (taken : world.takeResolver index = some (resolver, rest))
    {outside : Bool}
    (isOut : isOutside outside world.schedule.runner = true)
    (future : Future)
    (pushes : Option Nat) :
    (perform client (.spawn index (some future) pushes outside)).reply world =
      (.fault .noRunner,
        rest.withRunner .barred (World.refuse client index resolver)) := by
  have refuses :
      Act.reply
          (do discard index .barred (World.refuse client index); throw .noRunner)
          world =
        (.fault .noRunner,
          rest.withRunner .barred (World.refuse client index resolver)) := by
    simp only [discard, bind_assoc]
    rw [reply_get_bind]
    simp only [taken]
    rfl
  simp only [perform, spawn]
  rw [reply_get_bind, reply_get_bind, reply_require_bind taken]
  cases stands : world.schedule.runner with
  | running =>
      rw [stands] at isOut
      cases isOut
  | idle =>
      rw [stands] at isOut
      cases isOut
      exact refuses
  | barred =>
      cases outside with
      | true =>
          exact refuses
      | false =>
          exact refuses

/-- A refused call leaves its attempt aborted, with everything run that waited. -/
theorem leads_spend_of_outside
    {depth : Nat}
    {world : World}
    {state : Dispatch}
    (presents : world.Presents state)
    {index : Nat}
    {attempt : Attempt Callback}
    {resolver : Resolver}
    (atHand : world.slots[index]? = some ⟨attempt, some resolver⟩)
    {outside : Bool}
    (isOut : isOutside outside world.schedule.runner = true)
    (future : Future)
    (pushes : Option Nat) :
    ∃ after later,
      (perform (runScript depth)
            (.spawn index (some future) pushes outside)).reply world =
          (.fault .noRunner, after) ∧
        state.Leads later ∧
        after.Presents later ∧
        later.frames = state.frames ∧
        later.outcomeAt index = some .aborted := by
  have continues := tracked_runScript World.tracksTasks_serves depth
  let rest : World :=
    { world with slots := world.slots.set index ⟨attempt, none⟩ }
  have taken : world.takeResolver index = some (resolver, rest) := by
    simp [World.takeResolver, atHand, rest]
  have replies :
      (perform (runScript depth)
            (.spawn index (some future) pushes outside)).reply world =
        (.fault .noRunner,
          rest.withRunner .barred
            (World.refuse (runScript depth) index resolver)) :=
    reply_spawn_of_outside taken isOut future pushes
  obtain ⟨_, takes⟩ := World.takeResolver_schedule taken
  let entered : World :=
    { world with schedule := { world.schedule with runner := .barred } }
  have presentsEntered : entered.Presents state :=
    ⟨presents.toMirrors.of_eq rfl rfl, presents.sound⟩
  obtain ⟨later, leads, presentsLater, same, aborted⟩ :=
    World.leads_refuses continues (takes entered.schedule) presentsEntered
  exact ⟨_, later, replies, leads,
    ⟨presentsLater.toMirrors.of_eq rfl rfl, presentsLater.sound⟩, same, aborted⟩

/-- The outcome of an attempt of a session, if there is one. -/
def World.outcomeAt (index : Nat) (world : World) : Option Outcome :=
  world.slots[index]?.bind fun slot => slot.attempt.outcome?

/-- What the account tells of callbacks, the journal of a session tells. -/
theorem World.Presents.runsOnce
    {world : World}
    {state : Dispatch}
    (presents : world.Presents state)
    {index : Nat}
    (runs : state.account.RunsOnce index (state.outcomeAt index)) :
    world.journal.RunsOnce index (world.outcomeAt index) := by
  have outcome : state.outcomeAt index = world.outcomeAt index := by
    rw [Dispatch.outcomeAt, presents.slots]
    rfl
  have begun : state.account.begun = world.journal.begun := presents.begun
  have registered : state.account.registered = world.journal.registered :=
    presents.registered
  rw [outcome] at runs
  refine ⟨?_, ?_⟩
  · rw [← begun]
    exact runs.only
  · rw [Journal.begunAt, Journal.registeredAt, ← begun, ← registered]
    exact runs.once

namespace Dispatch

/-! ## Nothing is going on -/

/-- Nothing is going on, so every task listens or has ended. -/
theorem Sound.listens_or_ended
    {state : Dispatch}
    (sound : state.Sound)
    (quiet : state.frames = [])
    {index : Nat}
    {task : Task}
    (found : state.tasks[index]? = some task) :
    task.isListening = true ∨ ∃ ending, task.stage = .ended ending := by
  cases stage : task.stage with
  | running =>
      obtain ⟨ending, member⟩ := (sound.tends index task found).runs stage
      rw [endings, quiet] at member
      cases member
  | ended ending =>
      exact .inr ⟨ending, rfl⟩
  | _ =>
      exact .inl (by simp [Task.isListening, stage])

/-- Nothing is going on, so what was registered with a settled attempt has run. -/
theorem Sound.runsOnce
    {state : Dispatch}
    (sound : state.Sound)
    (quiet : state.frames = [])
    (index : Nat) :
    state.account.RunsOnce index (state.outcomeAt index) where
  only := by
    rintro entry member rfl
    exact sound.ran entry member
  once := by
    intro settled
    have due : state.dueAt index = [] := by
      rw [dueAt, quiet]
      rfl
    have waiting : state.waitingAt index = [] := by
      cases found : state.slots[index]? with
      | none =>
          simp [waitingAt, found]
      | some slot =>
          rw [outcomeAt_of_slot found] at settled
          rw [waitingAt_of_slot found]
          refine List.eq_nil_iff_forall_not_mem.mpr fun callback member => ?_
          rw [Attempt.outcome?_of_mem_callbacks member] at settled
          cases settled
    have places := sound.places index
    rw [due, waiting, List.append_nil, List.append_nil] at places
    exact places.symm

/-! ## Agreement -/

/--
What a task tells agrees with its attempt: which outcome there is, and what whoever
collects the ending of the task is told about what happened.
-/
structure Agrees
    (events : List Event)
    (index : Nat)
    (task : Task)
    (attempt : Attempt Callback) :
    Prop where
  listens : task.isListening = true → attempt.outcome? = none
  ended :
    ∀ ending,
      task.stage = .ended ending →
      ∀ world : World,
        world.schedule.runner = .idle →
        let reply := ((join index task).reply world).1
        (∀ outcome,
            (reply = .outcome outcome ↔ ResolvedTo index outcome events) ∧
              (reply = .outcome outcome → attempt.outcome? = some outcome)) ∧
          (reply = .fault .taskCancelled ↔ CancelledIn index events) ∧
          (reply = .fault .taskFaulted ↔ FaultedIn index events) ∧
          ((∀ outcome, reply ≠ .outcome outcome) →
            (reply = .fault .taskCancelled ∨ reply = .fault .taskFaulted) ∧
              attempt.outcome? = some .aborted)

section Agreement

variable
  {runtime : Runtime}
  (reliable : runtime.Reliable)
  {events : List Event}
  {state : Dispatch}
  (happened : ({ runtime := runtime } : Dispatch).after? events = some state)

include reliable happened

/-- Every task owns an attempt, and agrees with it. -/
theorem exists_agrees
    {index : Nat}
    {task : Task}
    (found : state.tasks[index]? = some task) :
    ∃ attempt,
      state.slots[task.attempt]? = some ⟨attempt, none⟩ ∧
        Agrees events index task attempt := by
  have sound := ((sound_empty reliable).after? happened).1
  have tends := sound.tends index task found
  obtain ⟨attempt, owned⟩ := tends.owns
  have outcome := outcomeAt_of_slot owned
  refine ⟨attempt, owned, ?_, ?_⟩
  · intro listening
    exact outcome.symm.trans (tends.listens listening)
  · intro ending ended world idle reply
    have replies : reply = Reply.ofEnding ending := reply_join ended index idle
    have settled : attempt.outcome? = some ending.outcome :=
      outcome.symm.trans (tends.ended ending ended)
    have ends (other : Ending) :
        reply = Reply.ofEnding other ↔ state.EndsWith index other := by
      rw [sound.toTended.endsWith_iff found ended, replies]
      exact Reply.ofEnding_injective.eq_iff
    refine ⟨fun now => ⟨?_, ?_⟩, ?_, ?_, ?_⟩
    · exact (ends (.resolved now)).trans (endsWith_resolved reliable happened now)
    · intro same
      rw [settled, outcome_of_ofEnding_eq_outcome (replies.symm.trans same)]
    · exact (ends (.lost .cancelled)).trans (endsWith_cancelled reliable happened)
    · exact (ends (.lost .faulted)).trans (endsWith_faulted reliable happened)
    · intro unresolved
      rw [replies] at unresolved ⊢
      rcases ending with reached | ⟨_ | _⟩
      · exact absurd rfl (unresolved reached)
      · exact ⟨.inr rfl, settled⟩
      · exact ⟨.inl rfl, settled⟩

/-- An event that leaves an outcome leaves it for good. -/
theorem outcomeAt_of_mem
    {event : Event}
    (member : event ∈ events)
    {index : Nat}
    {outcome : Outcome}
    (settles :
      ∀ between next : Dispatch,
        between.Sound →
        between.step? event = some next →
        next.outcomeAt index = some outcome) :
    state.outcomeAt index = some outcome := by
  obtain ⟨earlier, later, rfl⟩ := List.append_of_mem member
  obtain ⟨between, next, first, stepped, last⟩ := exists_of_after?_append happened
  have sound := ((sound_empty reliable).after? first).1
  have soundNext := (sound.step? stepped).1
  exact (soundNext.after? last).2 index outcome (settles between next sound stepped)

/-- Where the resolver at hand was used, that is the outcome from then on. -/
theorem outcomeAt_of_settles
    {index : Nat}
    {outcome : Outcome}
    (member : .settles index outcome ∈ events) :
    state.outcomeAt index = some outcome := by
  refine outcomeAt_of_mem reliable happened member ?_
  intro between next sound stepped
  obtain ⟨⟨resolver, rest⟩, taken, rfl⟩ := Option.map_eq_some_iff.mp stepped
  obtain ⟨_, _, rfl, ⟨attempt, found, _⟩, _⟩ := sound.takeResolver? taken
  exact (outcomeAt_settle found outcome index).trans (if_pos rfl)

/-- Where a future was refused, its attempt is aborted. -/
theorem outcomeAt_of_refuses
    {index : Nat}
    (member : .refuses index ∈ events) :
    state.outcomeAt index = some .aborted := by
  refine outcomeAt_of_mem reliable happened member ?_
  intro between next sound stepped
  obtain ⟨⟨resolver, rest⟩, taken, rfl⟩ := Option.map_eq_some_iff.mp stepped
  obtain ⟨soundRest, _, rfl, ⟨attempt, found, _⟩, _⟩ := sound.takeResolver? taken
  dsimp only
  rw [soundRest.refuse_eq, outcomeAt_settle found, if_pos rfl]

end Agreement

/--
A spawned task and its attempt always agree, whatever its future does.

Take any runtime that drops whatever it gives up, with all that this owns, and for
which an ending is final.  Let attempts be opened, callbacks be registered, tasks
be spawned, and whatever is possible happen to them in any order: sends, hang-ups,
requests for cancellation, polls of tasks that have not ended, whether they are
due or not, and cancellations that take hold at any time after a request.

As long as a task listens, its attempt has no outcome.  Once it has ended, the
attempt has, and collecting the ending replies an outcome if and only if the future
came to it at a poll before which no cancellation took hold; then that is the
outcome of the attempt.  It replies that the task was cancelled if and only if a
cancellation took hold, and that it failed if and only if the future faulted before
one did; there is no other reply, and then the attempt is aborted.

A resolver that is used or let go of otherwise leaves its outcome in the same way,
and a future that is refused leaves its attempt aborted.  Whenever nothing is going
on, every task listens or has ended; where an attempt has an outcome, every callback
that was registered with it has begun to run exactly once, with that outcome, and
where it has none, no callback has.

The attempts, tasks and the journal of a session, with any futures, are those of
such a dispatch.  Nothing is going on in it between two commands, and each poll in
a drain comes to its end before the next one.  A call outside of any runner of
tasks, at the top or inside of a callback, is refused.
-/
theorem spawned_task_agrees_with_attempt
    {runtime : Runtime}
    (reliable : runtime.Reliable)
    {events : List Event}
    {state : Dispatch}
    (happened : ({ runtime := runtime } : Dispatch).after? events = some state) :
    (∀ (index : Nat) (task : Task),
      state.tasks[index]? = some task →
      ∃ attempt,
        state.slots[task.attempt]? = some ⟨attempt, none⟩ ∧
          Agrees events index task attempt) ∧
    (∀ index outcome,
      .settles index outcome ∈ events →
      state.outcomeAt index = some outcome) ∧
    (∀ index,
      .refuses index ∈ events →
      state.outcomeAt index = some .aborted) ∧
    (state.frames = [] →
      (∀ (index : Nat) (task : Task),
        state.tasks[index]? = some task →
        task.isListening = true ∨ ∃ ending, task.stage = .ended ending) ∧
      ∀ index, state.account.RunsOnce index (state.outcomeAt index)) ∧
    (∀ (depth : Nat) (tracing : Bool) (commands : List Command),
      let world :=
        worldAfter depth commands { tracing := tracing, runtime := runtime }
      ∃ history scene,
        ({ runtime := runtime } : Dispatch).after? history = some scene ∧
          scene.frames = [] ∧
          world.Presents scene ∧
          (∀ (index : Nat) (task : Task),
            world.tasks[index]? = some task →
            ∃ attempt,
              world.slots[task.attempt]? = some ⟨attempt, none⟩ ∧
                Agrees history index task attempt ∧
                (task.isListening = true ∨
                  ∃ ending, task.stage = .ended ending)) ∧
          ∀ index, world.journal.RunsOnce index (world.outcomeAt index)) ∧
    (∀ (depth : Nat) (world : World) (scene : Dispatch),
      world.Presents scene →
      ∀ index schedule,
        world.runtime.take? world.schedule = some (index, schedule) →
        ∃ later,
          scene.Leads later ∧
            ({ world with schedule := schedule }.pollTask (runScript depth)
              index).Presents later ∧
            later.frames = scene.frames) ∧
    ∀ (depth : Nat) (world : World) (scene : Dispatch),
      world.Presents scene →
      ∀ (index : Nat) (attempt : Attempt Callback) (resolver : Resolver),
        world.slots[index]? = some ⟨attempt, some resolver⟩ →
        ∀ outside future pushes,
          isOutside outside world.schedule.runner = true →
          ∃ after later,
            (perform (runScript depth)
                  (.spawn index (some future) pushes outside)).reply world =
                (.fault .noRunner, after) ∧
              scene.Leads later ∧
              after.Presents later ∧
              later.frames = scene.frames ∧
              later.outcomeAt index = some .aborted := by
  have sound := ((sound_empty reliable).after? happened).1
  refine ⟨?_, ?_, ?_, ?_, ?_, ?_, ?_⟩
  · intro index task found
    exact exists_agrees reliable happened found
  · intro index outcome member
    exact outcomeAt_of_settles reliable happened member
  · intro index member
    exact outcomeAt_of_refuses reliable happened member
  · intro quiet
    exact ⟨fun _ _ found => sound.listens_or_ended quiet found,
      sound.runsOnce quiet⟩
  · intro depth tracing commands world
    have empty :
        ({ tracing := tracing, runtime := runtime } : World).Presents
          { runtime := runtime } :=
      World.presents_empty reliable rfl rfl rfl rfl rfl
    obtain ⟨scene, ⟨history, went⟩, presents, quiet⟩ :=
      serves_worldAfter depth commands _ _ empty
    refine ⟨history, scene, went, quiet, presents, ?_, ?_⟩
    · intro index task found
      have foundScene : scene.tasks[index]? = some task := by
        rw [presents.tasks, found]
      obtain ⟨attempt, owned, agrees⟩ := exists_agrees reliable went foundScene
      rw [presents.slots] at owned
      exact ⟨attempt, owned, agrees,
        presents.sound.listens_or_ended quiet foundScene⟩
    · intro index
      exact presents.runsOnce (presents.sound.runsOnce quiet index)
  · intro depth world scene presents index schedule taken
    have continues := tracked_runScript World.tracksTasks_serves depth
    exact World.serves_pollTask continues taken scene presents
  · intro depth world scene presents index attempt resolver atHand outside future
      pushes isOut
    exact leads_spend_of_outside presents atHand isOut future pushes

/--
A message arrives, but its task is cancelled before it is polled again; a callback
that runs then registers another one.  The second task gives way once, comes to its
outcome, and somebody asks for its cancellation too late.
-/
theorem spawned_task_agrees_with_attempt_of_late_abort :
    let events : List Event :=
      [.opens 7, .opens 8,
        .registers 0 (.script "first" []), .registers 1 (.script "second" []),
        .spawns 0 .channel none, .spawns 1 (.yielding .failed) none,
        .polls 0, .polls 1,
        .receives 0 (.sent .succeeded), .aborts 0, .cancels 0, .proceeds,
        .registers 0 (.script "late" []), .proceeds, .proceeds, .proceeds,
        .proceeds, .wakes 1, .polls 1, .proceeds, .proceeds, .proceeds,
        .aborts 1]
    Runtime.standard.Reliable ∧
      ∃ state,
        (({} : Dispatch).after? events = some state ∧ state.frames = []) ∧
          state.tasks.map Task.stage =
            [.ended (.lost .cancelled), .ended (.resolved .failed)] ∧
          state.outcomeAt 0 = some .aborted ∧
          state.outcomeAt 1 = some .failed ∧
          (CancelledIn 0 events ∧ ResolvedTo 1 .failed events) ∧
          state.account.RunsOnce 0 (some .aborted) := by
  intro events
  obtain ⟨state, happened, quiet, stages, aborted, failed, ⟨task, found, ended⟩,
      other, foundOther, endedOther⟩ :
      ∃ state,
        ({} : Dispatch).after? events = some state ∧
          state.frames = [] ∧
          state.tasks.map Task.stage =
            [.ended (.lost .cancelled), .ended (.resolved .failed)] ∧
          state.outcomeAt 0 = some .aborted ∧
          state.outcomeAt 1 = some .failed ∧
          (∃ task,
            state.tasks[0]? = some task ∧ task.stage = .ended (.lost .cancelled)) ∧
          ∃ task,
            state.tasks[1]? = some task ∧
              task.stage = .ended (.resolved .failed) :=
    ⟨_, rfl, rfl, rfl, rfl, rfl, ⟨_, rfl, rfl⟩, _, rfl, rfl⟩
  have reliable := Runtime.reliable_standard
  obtain ⟨agrees, _, _, rests, _⟩ :=
    spawned_task_agrees_with_attempt reliable happened
  obtain ⟨_, _, _, ends⟩ := agrees 0 task found
  obtain ⟨_, _, _, endsOther⟩ := agrees 1 other foundOther
  let world : World := { tracing := false }
  have idle : world.schedule.runner = .idle := rfl
  have cancelled := (ends _ ended world idle).2.1.mp (reply_join ended 0 idle)
  have resolved :=
    ((endsOther _ endedOther world idle).1 .failed).1.mp
      (reply_join endedOther 1 idle)
  have ran := (rests quiet).2 0
  rw [aborted] at ran
  exact ⟨reliable, state, ⟨happened, quiet⟩, stages, aborted, failed,
    ⟨cancelled, resolved⟩, ran⟩

end Dispatch

end NavState.Session
