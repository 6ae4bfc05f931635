import NavState.Proofs.Registrations
import NavState.Proofs.Tending

namespace NavState

namespace Schedule

/-! ## What is due -/

/-- The tasks that are due. -/
def due (schedule : Schedule) : List Nat :=
  schedule.arrivals ++ schedule.queue

/-- A task that is scheduled is one more that is due. -/
theorem due_add (task : Nat) (schedule : Schedule) :
    (schedule.add task).due.Perm (task :: schedule.due) := by
  simp only [add]
  split
  · rw [due, due, ← List.append_assoc]
    exact List.perm_append_singleton task _
  · simp [due]
  · simp [due]

/-- The task that is taken was due, and no other one is lost. -/
theorem due_take?
    {schedule rest : Schedule}
    {task : Nat}
    (taken : schedule.take? task = some rest) :
    schedule.due.Perm (task :: rest.due) := by
  simp only [take?] at taken
  split at taken
  · next isQueued =>
      cases taken
      have first := (List.perm_cons_erase isQueued).append_left schedule.arrivals
      exact first.trans List.perm_middle
  · split at taken
    · next hasArrived =>
        cases taken
        exact (List.perm_cons_erase hasArrived).append_right schedule.queue
    · cases taken

end Schedule

/-- Whatever a runtime chooses, the task that it takes was due. -/
theorem Runtime.due_take?
    {runtime : Runtime}
    {schedule rest : Schedule}
    {task : Nat}
    (taken : runtime.take? schedule = some (task, rest)) :
    schedule.due.Perm (task :: rest.due) := by
  simp only [take?, Option.bind_eq_bind, Option.bind_eq_some_iff,
    Option.pure_def, Option.some.injEq, Prod.mk.injEq] at taken
  obtain ⟨_, _, _, isDue, rfl, rfl⟩ := taken
  exact Schedule.due_take? isDue

namespace Session.World

/-!
# Tasks of sessions

The attempts and tasks of a session are those of a dispatch, whose account is in
the journal.  Whatever a command calls back comes to its end before the command
replies, and so does a poll before the next one.
-/

/--
The dispatch has the attempts and tasks of the world and the account that is in
its journal, and all tasks that are due are scheduled.
-/
structure Mirrors (world : World) (state : Dispatch) : Prop where
  slots : state.slots = world.slots
  tasks : state.tasks = world.tasks
  registered : state.registered = world.journal.registered
  begun : state.begun = world.journal.begun
  runtime : state.runtime = world.runtime
  apart : world.schedule.due.Nodup
  scheduled :
    ∀ index ∈ world.schedule.due,
      ∃ task, world.tasks[index]? = some task ∧ task.stage = .scheduled

/-- The dispatch has got there without anything amiss. -/
structure Presents (world : World) (state : Dispatch) : Prop
    extends Mirrors world state where
  sound : state.Sound

/-- Frames are not seen in the world, nor is what tasks do not use. -/
theorem Mirrors.of_eq
    {before ended : World}
    {state later : Dispatch}
    (mirrors : before.Mirrors state)
    (same :
      (ended.slots, ended.tasks, ended.schedule.arrivals, ended.schedule.queue,
          ended.runtime, ended.journal.registered, ended.journal.begun) =
        (before.slots, before.tasks, before.schedule.arrivals,
          before.schedule.queue, before.runtime, before.journal.registered,
          before.journal.begun))
    (sameState :
      (later.slots, later.tasks, later.registered, later.begun, later.runtime) =
        (state.slots, state.tasks, state.registered, state.begun,
          state.runtime)) :
    ended.Mirrors later := by
  simp only [Prod.mk.injEq] at same sameState
  obtain ⟨slots, tasks, arrivals, queue, runtime, registered, begun⟩ := same
  obtain ⟨slotsLater, tasksLater, registeredLater, begunLater, runtimeLater⟩ :=
    sameState
  have due : ended.schedule.due = before.schedule.due := by
    rw [Schedule.due, Schedule.due, arrivals, queue]
  refine ⟨?_, ?_, ?_, ?_, ?_, ?_, ?_⟩
  · rw [slotsLater, slots]
    exact mirrors.slots
  · rw [tasksLater, tasks]
    exact mirrors.tasks
  · rw [registeredLater, registered]
    exact mirrors.registered
  · rw [begunLater, begun]
    exact mirrors.begun
  · rw [runtimeLater, runtime]
    exact mirrors.runtime
  · rw [due]
    exact mirrors.apart
  · rw [due, tasks]
    exact mirrors.scheduled

/-- Nothing has happened before anything happens. -/
theorem presents_empty
    {world : World}
    (reliable : world.runtime.Reliable)
    (slots : world.slots = [])
    (tasks : world.tasks = [])
    (due : world.schedule.due = [])
    (registered : world.journal.registered = [])
    (begun : world.journal.begun = []) :
    world.Presents { runtime := world.runtime } := by
  refine ⟨⟨slots.symm, tasks.symm, registered.symm, begun.symm, rfl, ?_, ?_⟩,
    Dispatch.sound_empty reliable⟩
  · rw [due]
    exact .nil
  · intro index isDue
    rw [due] at isDue
    cases isDue

/-- What can happen in a dispatch can happen in one that presents the world. -/
theorem Presents.leads
    {world ended : World}
    {state later : Dispatch}
    (presents : world.Presents state)
    (leads : state.Leads later)
    (mirrors : ended.Mirrors later) :
    ended.Presents later := by
  obtain ⟨events, happened⟩ := leads
  exact ⟨mirrors, (presents.sound.after? happened).1⟩

/-- The resolver at hand is taken away from the world as from the dispatch. -/
theorem Mirrors.takeResolver
    {world rest : World}
    {state : Dispatch}
    (mirrors : world.Mirrors state)
    {index : Nat}
    {resolver : Resolver}
    (taken : world.takeResolver index = some (resolver, rest)) :
    ∃ released,
      state.takeResolver? index = some (resolver, released) ∧
        rest.Mirrors released ∧
        released.frames = state.frames := by
  simp only [World.takeResolver, Option.bind_eq_bind, Option.bind_eq_some_iff,
    Option.pure_def, Option.some.injEq, Prod.mk.injEq] at taken
  obtain ⟨slot, found, held, isHeld, rfl, rfl⟩ := taken
  have foundState : state.slots[index]? = some slot := by
    rw [mirrors.slots, found]
  refine ⟨state.release index slot.attempt, ?_, { mirrors with slots := ?_ }, rfl⟩
  · simp [Dispatch.takeResolver?, foundState, isHeld]
  · simp [Dispatch.release, mirrors.slots]

/--
Whatever makes one world of the other can happen in a dispatch, on top of what is
going on there, and comes to its end.
-/
def Serves (before ended : World) : Prop :=
  ∀ state,
    before.Presents state →
    ∃ later,
      state.Leads later ∧
        ended.Presents later ∧
        later.frames = state.frames

theorem Serves.trans
    {before between ended : World}
    (first : before.Serves between)
    (second : between.Serves ended) :
    before.Serves ended := by
  intro state presents
  obtain ⟨reached, leads, presentsReached, same⟩ := first state presents
  obtain ⟨later, continues, presentsLater, sameLater⟩ :=
    second reached presentsReached
  exact ⟨later, leads.trans continues, presentsLater, sameLater.trans same⟩

/-- What tasks do not use need not happen in a dispatch. -/
theorem serves_of_eq
    {before ended : World}
    (same :
      (ended.slots, ended.tasks, ended.schedule.arrivals, ended.schedule.queue,
          ended.runtime, ended.journal.registered, ended.journal.begun) =
        (before.slots, before.tasks, before.schedule.arrivals,
          before.schedule.queue, before.runtime, before.journal.registered,
          before.journal.begun)) :
    before.Serves ended := by
  intro state presents
  exact ⟨state, .refl state, ⟨presents.toMirrors.of_eq same rfl, presents.sound⟩,
    rfl⟩

/-- One event is all that happens. -/
theorem serves_of_step?
    {before ended : World}
    (steps :
      ∀ state,
        before.Presents state →
        ∃ event later,
          state.step? event = some later ∧
            ended.Mirrors later ∧
            later.frames = state.frames) :
    before.Serves ended := by
  intro state presents
  obtain ⟨event, later, stepped, mirrors, same⟩ := steps state presents
  have leads := Dispatch.Leads.of_step? stepped
  exact ⟨later, leads, presents.leads leads mirrors, same⟩

/-! ## Turns have no part in it -/

theorem serves_change
    (meter : Meter)
    (change : Metric.Change)
    (world : World) :
    world.Serves (world.change meter change) := by
  cases meter <;> exact serves_of_eq rfl

theorem serves_file
    (meters : Meters)
    (world : World)
    (report : Report PageId) :
    world.Serves (world.file meters report) := by
  cases report with
  | count tally =>
      exact serves_change _ _ world
  | size pages =>
      exact serves_change _ _ world
  | note note =>
      simp only [file, trace]
      split <;> exact serves_of_eq rfl

section Clients

variable
  {client : Client}
  (continues : ∀ script world, Serves world (client script world))

include continues

theorem serves_deliverOne
    (cell : Cell)
    (world : World)
    (departure : Departure PageId) :
    world.Serves (world.deliverOne client cell departure) := by
  have counted : world.Serves (world.counting cell departure) := by
    rw [counting]
    split
    · exact serves_change _ _ world
    · exact serves_of_eq rfl
  have noted (world : World) (entry : LogEntry) :
      world.Serves (world.record entry) :=
    serves_of_eq rfl
  rw [deliverOne_counting]
  split
  · exact counted
  · exact counted.trans ((noted _ _).trans (continues _ _))

/-- A turn leaves the tasks to what its listener does. -/
theorem serves_takeTurn
    {ρ : Type}
    (index : Nat)
    (cell : Cell)
    (turn : Turn PageId String String ρ)
    (world : World) :
    world.Serves (world.takeTurn client index cell turn) := by
  have refl (world : World) : world.Serves world := serves_of_eq rfl
  have put : world.Serves (world.putCache index turn.cache) := serves_of_eq rfl
  have filed :=
    related_foldl refl Serves.trans (serves_file cell.meters) turn.reports
      (world.putCache index turn.cache)
  have delivered :=
    related_foldl refl Serves.trans (serves_deliverOne continues cell)
      turn.departures (world.enact index cell turn)
  exact put.trans (filed.trans delivered)

theorem serves_accept
    (index : Nat)
    (cell : Cell)
    (attempt : Option Nat)
    (id : UInt64)
    (world : World) :
    world.Serves (world.accept client index cell attempt id).2 := by
  have noted (accepted : Option Nat) :
      world.Serves (world.noteAccepted index attempt accepted) := by
    cases accepted with
    | none =>
        exact serves_of_eq rfl
    | some generation =>
        cases attempt <;> exact serves_of_eq rfl
  exact (noted _).trans (serves_takeTurn continues index cell _ _)

theorem serves_settleGeneration
    (index generation : Nat)
    (outcome : Outcome)
    (world : World) :
    world.Serves (world.settleGeneration client index generation outcome) := by
  simp only [settleGeneration]
  split
  · exact serves_of_eq rfl
  · exact serves_takeTurn continues index _ _ world

/-! ## Callbacks -/

/-- A callback that began to run comes to its end. -/
theorem serves_runCallback
    (attempt : Nat)
    (outcome : Outcome)
    (callback : Callback)
    (world : World) :
    Serves (world.note (.begin attempt callback outcome))
      (world.runCallback client attempt outcome callback) := by
  cases callback with
  | settlement cell generation =>
      exact serves_settleGeneration continues cell generation outcome _
  | script label steps =>
      have noted (world : World) :
          world.Serves (world.record (.settled label outcome)) :=
        serves_of_eq rfl
      exact (noted _).trans (continues steps _)

/-- All callbacks that are due run to their ends, one after the other. -/
theorem leads_settling
    {index : Nat}
    {outcome : Outcome}
    (callbacks : List Callback)
    {outer : List Activity}
    {world : World}
    {state : Dispatch}
    (presents : world.Presents state)
    (frames : state.frames = .settling index outcome callbacks :: outer) :
    ∃ later,
      state.Leads later ∧
        (callbacks.foldl (World.runCallback client index outcome) world).Presents
          later ∧
        later.frames = outer := by
  induction callbacks generalizing world state with
  | nil =>
      let returned : Dispatch := { state with frames := outer }
      have returns : state.step? .proceeds = some returned := by
        simp [Dispatch.step?, Dispatch.proceed?, frames, returned]
      have leads := Dispatch.Leads.of_step? returns
      exact ⟨returned, leads, presents.leads leads (presents.toMirrors.of_eq rfl rfl),
        rfl⟩
  | cons callback rest inductionHypothesis =>
      let taken : Dispatch :=
        { state with
          frames := .settling index outcome rest :: outer
          begun := state.begun ++ [⟨⟨index, callback⟩, outcome⟩] }
      have takes : state.step? .proceeds = some taken := by
        simp [Dispatch.step?, Dispatch.proceed?, frames, taken]
      have leadsTaken := Dispatch.Leads.of_step? takes
      have mirrors : (world.note (.begin index callback outcome)).Mirrors taken :=
        { presents with begun := by simp [taken, note, Journal.begin, presents.begun] }
      have presentsTaken := presents.leads leadsTaken mirrors
      obtain ⟨reached, leads, presentsReached, same⟩ :=
        serves_runCallback continues index outcome callback world taken
          presentsTaken
      obtain ⟨later, leadsLater, presentsLater, framesLater⟩ :=
        inductionHypothesis presentsReached same
      exact ⟨later, leadsTaken.trans (leads.trans leadsLater), presentsLater,
        framesLater⟩

theorem serves_onSettle
    (index : Nat)
    (callback : Callback)
    (world : World) :
    world.Serves (world.onSettle client index callback) := by
  cases found : world.slots[index]? with
  | none =>
      simp only [onSettle, found]
      exact serves_of_eq rfl
  | some slot =>
      intro state presents
      have foundState : state.slots[index]? = some slot := by
        rw [presents.slots, found]
      have registers :
          state.step? (.registers index callback) =
            some (state.register index callback slot) := by
        simp [Dispatch.step?, foundState]
      have leads := Dispatch.Leads.of_step? registers
      have presentsRegistered (world : World)
          (mirrors : world.Mirrors (state.register index callback slot)) :
          world.Presents (state.register index callback slot) :=
        presents.leads leads mirrors
      cases settled : slot.attempt.outcome? with
      | none =>
          have due : (slot.attempt.onSettle callback).2 = none := by
            rw [Attempt.onSettle_due, settled]
          simp only [onSettle, found, due]
          rw [Dispatch.register_of_waiting settled] at leads presentsRegistered
          refine ⟨_, leads, presentsRegistered _
            { presents with slots := ?_, registered := ?_ }, rfl⟩
          · simp [Dispatch.note, Dispatch.putAttempt, putAttempt, World.note,
              presents.slots]
          · simp [Dispatch.note, Dispatch.putAttempt, putAttempt, World.note,
              Journal.register, presents.registered]
      | some outcome =>
          rw [onSettle_of_settled found settled]
          rw [Dispatch.register_of_settled settled] at leads presentsRegistered
          have mirrors :
              (world.logging { registered := [⟨index, callback⟩] }).Mirrors
                ((state.push (.settling index outcome [callback])).note index
                  callback) :=
            { presents with
              registered := by
                simp [Dispatch.note, Dispatch.push, logging, presents.registered]
              begun := by
                simp [Dispatch.note, Dispatch.push, logging, presents.begun] }
          have running := presentsRegistered _ mirrors
          obtain ⟨later, leadsLater, presentsLater, same⟩ :=
            leads_settling continues [callback] running rfl
          exact ⟨later, leads.trans leadsLater, presentsLater, same⟩

/-- An attempt settles, and what waited for it runs. -/
theorem leads_settle
    {index : Nat}
    {resolver : Resolver}
    {outcome : Outcome}
    {world : World}
    {state : Dispatch}
    (mirrors : world.Mirrors state)
    (sound : (state.settle index resolver outcome).Sound) :
    ∃ later,
      (state.settle index resolver outcome).Leads later ∧
        (world.settleAttempt client index resolver outcome).Presents later ∧
        later.frames = state.frames := by
  cases found : world.slots[index]? with
  | none =>
      have foundState : state.slots[index]? = none := by
        rw [mirrors.slots, found]
      simp only [Dispatch.settle, foundState, settleAttempt_eq, found] at sound ⊢
      exact ⟨state, .refl state, ⟨mirrors, sound⟩, rfl⟩
  | some slot =>
      have foundState : state.slots[index]? = some slot := by
        rw [mirrors.slots, found]
      simp only [Dispatch.settle, foundState, settleAttempt_eq, found] at sound ⊢
      refine leads_settling continues _ ⟨{ mirrors with slots := ?_ }, sound⟩ rfl
      simp [Dispatch.push, Dispatch.putAttempt, putAttempt, mirrors.slots]

/-- The resolver at hand is used, and the attempt has the outcome from then on. -/
theorem leads_uses
    {world rest : World}
    {index : Nat}
    {resolver : Resolver}
    (taken : world.takeResolver index = some (resolver, rest))
    (outcome : Outcome)
    {state : Dispatch}
    (presents : world.Presents state)
    {event : Dispatch.Event}
    (uses :
      ∀ released,
        state.takeResolver? index = some (resolver, released) →
        state.step? event = some (released.settle index resolver outcome)) :
    ∃ later,
      state.Leads later ∧
        (rest.settleAttempt client index resolver outcome).Presents later ∧
        later.frames = state.frames ∧
        later.outcomeAt index = some outcome := by
  obtain ⟨released, takes, mirrors, frames⟩ :=
    presents.toMirrors.takeResolver taken
  have settles := uses released takes
  have sound := (presents.sound.step? settles).1
  obtain ⟨_, _, rfl, ⟨attempt, found, _⟩, _⟩ := presents.sound.takeResolver? takes
  have settled := Dispatch.outcomeAt_settle found outcome index
  rw [if_pos rfl] at settled
  obtain ⟨later, ⟨events, happened⟩, presentsLater, same⟩ :=
    leads_settle continues mirrors sound
  exact ⟨later, (Dispatch.Leads.of_step? settles).trans ⟨events, happened⟩,
    presentsLater, same.trans frames,
    (sound.after? happened).2 index outcome settled⟩

/-- A future that is refused leaves its attempt aborted. -/
theorem leads_refuses
    {world rest : World}
    {index : Nat}
    {resolver : Resolver}
    (taken : world.takeResolver index = some (resolver, rest))
    {state : Dispatch}
    (presents : world.Presents state) :
    ∃ later,
      state.Leads later ∧
        (rest.refuse client index resolver).Presents later ∧
        later.frames = state.frames ∧
        later.outcomeAt index = some .aborted := by
  have drops : rest.runtime.dropsRefused = true := by
    rw [runtime_takeResolver taken, ← presents.runtime]
    exact presents.sound.reliable.dropsRefused
  have refuses :
      rest.refuse client index resolver =
        rest.settleAttempt client index resolver .aborted := by
    rw [refuse, if_pos drops, dropResolver_eq]
  rw [refuses]
  have settles
      (released : Dispatch)
      (takes : state.takeResolver? index = some (resolver, released)) :
      state.step? (.refuses index) =
        some (released.settle index resolver .aborted) := by
    have sound := (presents.sound.takeResolver? takes).1
    simp only [Dispatch.step?, takes, Option.map_some, sound.refuse_eq]
  exact leads_uses continues taken .aborted presents settles

theorem serves_refuses
    {world rest : World}
    {index : Nat}
    {resolver : Resolver}
    (taken : world.takeResolver index = some (resolver, rest)) :
    world.Serves (rest.refuse client index resolver) := by
  intro state presents
  obtain ⟨later, leads, presentsLater, same, _⟩ :=
    leads_refuses continues taken presents
  exact ⟨later, leads, presentsLater, same⟩

end Clients

/-! ## What is done to tasks -/

/-- A task that is replaced without being scheduled or ceasing to be. -/
theorem Mirrors.putTask
    {world : World}
    {state : Dispatch}
    (mirrors : world.Mirrors state)
    {index : Nat}
    {task after : Task}
    (found : world.tasks[index]? = some task)
    (stays : index ∈ world.schedule.due → after.stage = task.stage) :
    (world.putTask index after).Mirrors (state.putTask index after) where
  slots := mirrors.slots
  tasks := by
    rw [Dispatch.putTask, mirrors.tasks]
    rfl
  registered := mirrors.registered
  begun := mirrors.begun
  runtime := mirrors.runtime
  apart := mirrors.apart
  scheduled := by
    intro other isDue
    obtain ⟨another, foundOther, scheduled⟩ := mirrors.scheduled other isDue
    have inside := (List.getElem?_eq_some_iff.mp found).1
    by_cases same : index = other
    · subst same
      cases found.symm.trans foundOther
      refine ⟨after, ?_, (stays isDue).trans scheduled⟩
      simp [World.putTask, inside]
    · refine ⟨another, ?_, scheduled⟩
      simp [World.putTask, same, foundOther]

/-- A task that something happened to is due again if it was parked. -/
theorem Mirrors.putWoken
    {world : World}
    {state : Dispatch}
    (mirrors : world.Mirrors state)
    {index : Nat}
    {task changed : Task}
    (found : world.tasks[index]? = some task)
    (stage : changed.stage = task.stage) :
    (world.putWoken index changed.wake).Mirrors
      (state.putTask index changed.wake.2) := by
  cases stands : changed.stage with
  | parked =>
      have notDue : index ∉ world.schedule.due := by
        intro isDue
        obtain ⟨another, foundOther, scheduled⟩ := mirrors.scheduled index isDue
        cases found.symm.trans foundOther
        rw [← stage, stands] at scheduled
        cases scheduled
      have stored :
          (world.putTask index changed.wake.2).Mirrors
            (state.putTask index changed.wake.2) :=
        mirrors.putTask found fun isDue => absurd isDue notDue
      have isNew := Schedule.due_add index world.schedule
      have inside := (List.getElem?_eq_some_iff.mp found).1
      have woken : changed.wake = (true, { changed with stage := .scheduled }) := by
        simp only [Task.wake, stands]
      rw [woken] at stored ⊢
      refine { stored with apart := ?_, scheduled := ?_ }
      · exact isNew.nodup_iff.mpr (List.nodup_cons.mpr ⟨notDue, mirrors.apart⟩)
      · intro other isDue
        rcases List.mem_cons.mp (isNew.mem_iff.mp isDue) with rfl | earlier
        · refine ⟨{ changed with stage := .scheduled }, ?_, rfl⟩
          simp [World.putWoken, World.putTask, inside]
        · exact stored.scheduled other earlier
  | _ =>
      have woken : changed.wake = (false, changed) := by
        simp only [Task.wake, stands]
      rw [woken]
      exact mirrors.putTask found fun _ => stage

theorem serves_wakes
    {world : World}
    {index : Nat}
    {task : Task}
    (found : world.tasks[index]? = some task) :
    world.Serves (world.putWoken index task.wake) := by
  refine serves_of_step? fun state presents => ?_
  refine ⟨.wakes index, _, ?_, presents.toMirrors.putWoken found rfl, rfl⟩
  simp [Dispatch.step?, presents.tasks, found]

theorem serves_receives
    {world : World}
    {index : Nat}
    {task : Task}
    (found : world.tasks[index]? = some task)
    (hasSender : task.hasSender = true)
    (mailbox : Mailbox) :
    world.Serves (world.putWoken index (task.receive mailbox)) := by
  have empty : task.mailbox = .empty := by
    simp only [Task.hasSender, Bool.and_eq_true, decide_eq_true_eq] at hasSender
    exact hasSender.2
  refine serves_of_step? fun state presents => ?_
  refine ⟨.receives index mailbox, state.putTask index (task.receive mailbox).2,
    ?_, presents.toMirrors.putWoken found rfl, rfl⟩
  simp [Dispatch.step?, presents.tasks, found, empty]

theorem serves_aborts
    {world : World}
    {index : Nat}
    {task : Task}
    (found : world.tasks[index]? = some task) :
    world.Serves (world.putWoken index (task.abort world.runtime)) := by
  refine serves_of_step? fun state presents => ?_
  have reliable : world.runtime.Reliable := by
    rw [← presents.runtime]
    exact presents.sound.reliable
  refine ⟨.aborts index, state.putTask index (task.abort world.runtime).2, ?_, ?_,
    rfl⟩
  · simp [Dispatch.step?, presents.tasks, presents.runtime, found]
  · rw [Task.abort_eq reliable]
    exact presents.toMirrors.putWoken found rfl

theorem serves_joins
    {world : World}
    {index : Nat}
    {task : Task}
    (found : world.tasks[index]? = some task) :
    world.Serves (world.putTask index { task with joined := true }) := by
  refine serves_of_step? fun state presents => ?_
  refine ⟨.joins index, state.putTask index { task with joined := true }, ?_,
    presents.toMirrors.putTask found fun _ => rfl, rfl⟩
  simp [Dispatch.step?, presents.tasks, found]

/-- A task that is spawned is due. -/
theorem Mirrors.spawn
    {world : World}
    {state : Dispatch}
    (mirrors : world.Mirrors state)
    {task : Task}
    (fresh : task.stage = .scheduled) :
    Mirrors
      { world with
        tasks := world.tasks ++ [task]
        schedule := world.schedule.add world.tasks.length }
      (state.addTask task) := by
  have isNew := Schedule.due_add world.tasks.length world.schedule
  refine { mirrors with tasks := ?_, apart := ?_, scheduled := ?_ }
  · rw [Dispatch.addTask, mirrors.tasks]
  · refine isNew.nodup_iff.mpr (List.nodup_cons.mpr ⟨fun isDue => ?_, mirrors.apart⟩)
    obtain ⟨another, found, _⟩ := mirrors.scheduled _ isDue
    exact Nat.lt_irrefl _ (List.getElem?_eq_some_iff.mp found).1
  · intro other isDue
    rcases List.mem_cons.mp (isNew.mem_iff.mp isDue) with rfl | earlier
    · exact ⟨task, by simp, fresh⟩
    · obtain ⟨another, found, scheduled⟩ := mirrors.scheduled other earlier
      refine ⟨another, ?_, scheduled⟩
      rw [List.getElem?_append_left (List.getElem?_eq_some_iff.mp found).1, found]

/-- A task that is spawned takes the resolver along, and may have lost its sender. -/
theorem serves_spawns
    {world rest : World}
    {index : Nat}
    {resolver : Resolver}
    (taken : world.takeResolver index = some (resolver, rest))
    (future : Future)
    (pushes : Option Nat)
    {mailbox : Mailbox}
    (unsent : mailbox = .empty ∨ mailbox = .hungUp) :
    world.Serves
      { rest with
        tasks :=
          rest.tasks ++
            [{ attempt := index
               resolver := some resolver
               future := future
               pushes := pushes
               mailbox := mailbox }]
        schedule := rest.schedule.add rest.tasks.length } := by
  intro state presents
  obtain ⟨released, takes, mirrors, frames⟩ :=
    presents.toMirrors.takeResolver taken
  let task : Task :=
    { attempt := index
      resolver := some resolver
      future := future
      pushes := pushes }
  have spawns :
      state.step? (.spawns index future pushes) = some (released.addTask task) := by
    simp [Dispatch.step?, takes, task]
  have leads := Dispatch.Leads.of_step? spawns
  rcases unsent with rfl | rfl
  · exact ⟨_, leads, presents.leads leads (mirrors.spawn rfl), frames⟩
  · let deserted : Task := { task with mailbox := .hungUp }
    have hangsUp :
        (released.addTask task).step? (.receives rest.tasks.length .hungUp) =
          some (released.addTask deserted) := by
      simp [Dispatch.step?, Dispatch.addTask, mirrors.tasks, task, deserted,
        Task.receive, Task.wake, Dispatch.putTask]
    have leadsOn := leads.trans (Dispatch.Leads.of_step? hangsUp)
    exact ⟨_, leadsOn, presents.leads leadsOn (mirrors.spawn rfl), frames⟩

/-! ## Polls -/

/-- What a task does before it uses its resolver is of no concern to other tasks. -/
theorem mirrors_resolving
    {world : World}
    {state : Dispatch}
    (mirrors : world.Mirrors state)
    (task : Task)
    (outcome : Outcome) :
    ((world.pushFor task outcome).trace (.resolved outcome)).Mirrors state := by
  have traced (pushed : World) (mirrors : pushed.Mirrors state) :
      (pushed.trace (.resolved outcome)).Mirrors state := by
    simp only [trace]
    split
    · exact mirrors.of_eq rfl rfl
    · exact mirrors
  refine traced _ ?_
  simp only [pushFor]
  split
  · exact mirrors
  · split
    · exact mirrors.of_eq rfl rfl
    · exact mirrors

theorem tasks_resolving (task : Task) (outcome : Outcome) (world : World) :
    ((world.pushFor task outcome).trace (.resolved outcome)).tasks =
        world.tasks ∧
      ((world.pushFor task outcome).trace (.resolved outcome)).schedule =
        world.schedule := by
  simp only [pushFor, trace]
  repeat' split
  all_goals exact ⟨rfl, rfl⟩

/-- A task that counts as ended was not due. -/
theorem Presents.keepEnding
    {world : World}
    {state : Dispatch}
    (presents : world.Presents state)
    {index : Nat}
    {ending : Ending}
    {outer : List Activity}
    (frames : state.frames = .finishing index ending :: outer) :
    (world.keepEnding index ending).Mirrors (state.finish index ending outer) where
  slots := presents.slots
  tasks := by
    rw [Dispatch.finish, presents.tasks]
    rfl
  registered := presents.registered
  begun := presents.begun
  runtime := presents.runtime
  apart := presents.apart
  scheduled := by
    intro other isDue
    obtain ⟨another, found, scheduled⟩ := presents.scheduled other isDue
    have first : (index, ending) ∈ state.endings := by
      rw [Dispatch.endings, frames]
      exact List.mem_cons_self
    obtain ⟨task, foundTask, running, _⟩ :=
      presents.sound.exists_of_mem_endings first
    have different : index ≠ other := by
      rintro rfl
      rw [presents.tasks] at foundTask
      cases found.symm.trans foundTask
      rw [scheduled] at running
      cases running
    refine ⟨another, ?_, scheduled⟩
    simp [World.keepEnding, different, found]

section Polling

variable
  {client : Client}
  (continues : ∀ script world, Serves world (client script world))

include continues

/-- A task that ends counts as ended when its resolver has been used. -/
theorem leads_spend
    {world : World}
    {state : Dispatch}
    (mirrors : world.Mirrors state)
    {index : Nat}
    {task later : Task}
    (found : world.tasks[index]? = some task)
    (notDue : index ∉ world.schedule.due)
    {ending : Ending}
    {outcome : Outcome}
    (holds : later.resolver = some {})
    {use : Resolver → World → World}
    (uses :
      ∀ world,
        use {} world = world.settleAttempt client later.attempt {} outcome)
    (sound : (state.spend index later ending outcome).Sound) :
    ∃ reached,
      (state.spend index later ending outcome).Leads reached ∧
        ((world.spend index later use).keepEnding index ending).Presents reached ∧
        reached.frames = state.frames := by
  have stored :
      (world.putTask index later.spend).Mirrors
        (state.putTask index later.spend) :=
    mirrors.putTask found fun isDue => absurd isDue notDue
  have running :
      (world.putTask index later.spend).Mirrors
        ((state.putTask index later.spend).push (.finishing index ending)) :=
    stored.of_eq rfl rfl
  have spends :
      world.spend index later use =
        (world.putTask index later.spend).settleAttempt client later.attempt {}
          outcome := by
    simp only [World.spend, holds, uses]
  have spendsState :
      state.spend index later ending outcome =
        ((state.putTask index later.spend).push
            (.finishing index ending)).settle later.attempt {} outcome := by
    simp only [Dispatch.spend, holds]
  rw [spendsState] at sound ⊢
  obtain ⟨settled, leads, presents, frames⟩ :=
    leads_settle continues running sound
  have finishes :
      settled.step? .proceeds = some (settled.finish index ending state.frames) := by
    simp [Dispatch.step?, Dispatch.proceed?, frames, Dispatch.push,
      Dispatch.putTask]
  have leadsOn := Dispatch.Leads.of_step? finishes
  rw [spends]
  exact ⟨_, leads.trans leadsOn, presents.leads leadsOn (presents.keepEnding frames),
    rfl⟩

/-- A task that has its outcome counts as ended when it has used its resolver. -/
theorem leads_resolveTask
    {world : World}
    {state : Dispatch}
    (mirrors : world.Mirrors state)
    {index : Nat}
    {task later : Task}
    (found : world.tasks[index]? = some task)
    (notDue : index ∉ world.schedule.due)
    (outcome : Outcome)
    (holds : later.resolver = some {})
    (ends : (state.spend index later (.resolved outcome) outcome).Sound) :
    ∃ reached,
      (state.spend index later (.resolved outcome) outcome).Leads reached ∧
        ((world.resolveTask client index later outcome).keepEnding index
            (.resolved outcome)).Presents reached ∧
        reached.frames = state.frames := by
  have resolving := mirrors_resolving mirrors later outcome
  obtain ⟨tasks, schedules⟩ := tasks_resolving later outcome world
  exact leads_spend continues resolving (tasks ▸ found) (schedules ▸ notDue) holds
    (fun _ => rfl) ends

/-- A task that is lost counts as ended when it was dropped. -/
theorem leads_loseTask
    {world : World}
    {state : Dispatch}
    (mirrors : world.Mirrors state)
    (sound : state.Sound)
    {index : Nat}
    {task later : Task}
    (found : world.tasks[index]? = some task)
    (notDue : index ∉ world.schedule.due)
    (loss : Loss)
    (holds : later.resolver = some {})
    (ends : (state.lose index later loss).Sound) :
    ∃ reached,
      (state.lose index later loss).Leads reached ∧
        ((world.loseTask client index later loss).keepEnding index
            (.lost loss)).Presents reached ∧
        reached.frames = state.frames := by
  have drops : world.runtime.dropsLost loss = true := by
    rw [← mirrors.runtime]
    exact sound.reliable.dropsLost loss
  rw [sound.lose_eq] at ends ⊢
  rw [loseTask, if_pos drops]
  exact leads_spend continues mirrors found notDue holds
    (dropResolver_eq client later.attempt {}) ends

/-- The task that is due is polled, and whatever it calls back comes to its end. -/
theorem serves_pollTask
    {world : World}
    {index : Nat}
    {schedule : Schedule}
    (taken : world.runtime.take? world.schedule = some (index, schedule)) :
    world.Serves ({ world with schedule := schedule }.pollTask client index) := by
  intro state presents
  have due := Runtime.due_take? taken
  have apart := List.nodup_cons.mp (due.nodup_iff.mp presents.apart)
  obtain ⟨task, found, scheduled⟩ :=
    presents.scheduled index (due.mem_iff.mpr List.mem_cons_self)
  have mirrors : Mirrors { world with schedule := schedule } state :=
    { presents with
      apart := apart.2
      scheduled := fun other isDue =>
        presents.scheduled other (due.mem_iff.mpr (List.mem_cons_of_mem _ isDue)) }
  have foundState : state.tasks[index]? = some task := by
    rw [presents.tasks, found]
  have listening : task.isListening = true := by
    simp [Task.isListening, scheduled]
  have holds := (presents.sound.tends index task foundState).holds listening
  simp only [pollTask, found]
  split
  · next cancelling =>
      have cancels :
          state.step? (.cancels index) = some (state.lose index task .cancelled) := by
        simp [Dispatch.step?, foundState, listening, cancelling]
      have leads := Dispatch.Leads.of_step? cancels
      obtain ⟨later, leadsLater, presentsLater, same⟩ :=
        leads_loseTask continues mirrors presents.sound found apart.1 .cancelled
          holds (presents.sound.step? cancels).1
      exact ⟨later, leads.trans leadsLater, presentsLater, same⟩
  · have polls : state.step? (.polls index) = some (state.poll index task) := by
      simp [Dispatch.step?, foundState, listening]
    have leads := Dispatch.Leads.of_step? polls
    have sound := (presents.sound.step? polls).1
    have holds : task.look.resolver = some {} := holds
    cases polled : task.look.poll with
    | pending givesWay =>
        simp only [Dispatch.poll, polled] at leads
        have parks :
            (World.putTask index task.look.park
                { world with schedule := schedule }).Mirrors
              (state.putTask index task.look.park) :=
          mirrors.putTask found fun isDue => absurd isDue apart.1
        refine ⟨_, leads, presents.leads leads ?_, rfl⟩
        dsimp only
        split
        · exact parks.of_eq rfl rfl
        · exact parks
    | ready outcome =>
        simp only [Dispatch.poll, polled] at leads sound
        obtain ⟨later, leadsLater, presentsLater, same⟩ :=
          leads_resolveTask continues mirrors found apart.1 outcome holds sound
        exact ⟨later, leads.trans leadsLater, presentsLater, same⟩
    | fault =>
        simp only [Dispatch.poll, polled] at leads sound
        obtain ⟨later, leadsLater, presentsLater, same⟩ :=
          leads_loseTask continues mirrors presents.sound found apart.1 .faulted
            holds sound
        exact ⟨later, leads.trans leadsLater, presentsLater, same⟩

end Polling

/-! ## Whole sessions -/

theorem tracksTasks_serves : TracksTasks Serves where
  trans := Serves.trans
  change := fun _ change => serves_change _ change _
  call := fun continues _ index cell _ _ turn _ _ _ =>
    serves_takeTurn continues index cell turn _
  cell := fun _ _ _ _ _ _ => serves_of_eq rfl
  announce := by
    intro client continues world index attempt cell slot _ _
    have accepting :=
      serves_accept continues index cell (some attempt) slot.attempt.id world
    simp only [announceAttempt]
    split
    · next ignored =>
        rw [ignored] at accepting
        exact accepting
    · next taken =>
        rw [taken] at accepting
        exact accepting.trans (serves_onSettle continues attempt _ _)
  hosted := by
    intro client continues world index cell _ id outcome script
    have accepting := serves_accept continues index cell none id world
    have noted (world : World) : world.Serves (world.record (.registering id)) :=
      serves_of_eq rfl
    simp only [announceHosted]
    split
    · next ignored =>
        rw [ignored] at accepting
        exact accepting
    · next taken =>
        rw [taken] at accepting
        have registered := accepting.trans ((noted _).trans (continues script _))
        split
        · exact registered
        · exact registered.trans (serves_settleGeneration continues index _ _ _)
  awaits := fun continues attempt label steps world =>
    serves_onSettle continues attempt (.script label steps) world
  unmoved := by
    intro before ended unmoved
    refine serves_of_eq ?_
    rw [unmoved.slots, unmoved.tasks, unmoved.arrivals, unmoved.queue,
      unmoved.runtime, unmoved.journal]
  opens := by
    intro id world
    refine serves_of_step? fun state presents => ?_
    refine ⟨.opens id, state.openAttempt id, rfl,
      { presents with slots := ?_ }, rfl⟩
    rw [Dispatch.openAttempt, presents.slots]
  uses := by
    intro client continues world rest index resolver taken outcome state presents
    have settles
        (released : Dispatch)
        (takes : state.takeResolver? index = some (resolver, released)) :
        state.step? (.settles index outcome) =
          some (released.settle index resolver outcome) := by
      simp [Dispatch.step?, takes]
    obtain ⟨later, leads, presentsLater, same, _⟩ :=
      leads_uses continues taken outcome presents settles
    exact ⟨later, leads, presentsLater, same⟩
  refuses := serves_refuses
  spawns := fun taken future pushes _ unsent =>
    serves_spawns taken future pushes unsent
  wakes := serves_wakes
  receives := serves_receives
  aborts := serves_aborts
  joins := serves_joins
  polls := serves_pollTask

end Session.World

end NavState
