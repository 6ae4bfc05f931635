import NavState.Proofs.Sessions

namespace NavState.Session

/-!
# Callbacks that register callbacks

Client code reads the outcome of an attempt and registers callbacks with it,
which go on in the same way when they run.  What is registered while the attempt
waits runs when its resolver is used, in the order of registration; what is
registered later runs within its registration.
-/

/-- What client code does with one attempt. -/
inductive Plan where
  | done
  /-- Read the outcome. -/
  | reads (rest : Plan)
  /-- Register a callback, which goes on by a plan of its own. -/
  | registers (label : String) (body rest : Plan)
  deriving Repr, DecidableEq

namespace Plan

/-- The step that reads the outcome of an attempt. -/
def readStep (index : Nat) : Step :=
  ("outcome", .attempt index .outcome)

/-- The step that registers a callback with an attempt. -/
def registerStep (index : Nat) (label : String) (script : Script) : Step :=
  ("on_settle", .onSettle index label script)

/-- The script that carries a plan out. -/
def script (index : Nat) : Plan → Script
  | done => []
  | reads rest => readStep index :: rest.script index
  | registers label body rest =>
      registerStep index label (body.script index) :: rest.script index

/-- How deep the scripts of a plan nest. -/
def height : Plan → Nat
  | done => 0
  | reads rest => max 1 rest.height
  | registers _ body rest => max (body.height + 1) rest.height

/-- The callbacks that a plan registers itself, in order. -/
def callbacks (index : Nat) : Plan → List Callback
  | done => []
  | reads rest => rest.callbacks index
  | registers label body rest =>
      .script label (body.script index) :: rest.callbacks index

/--
The labels of all callbacks of a plan: each stands before those that it registers
when it runs, and those before what the plan registers after it.
-/
def labels : Plan → List String
  | done => []
  | reads rest => rest.labels
  | registers label body rest => label :: (body.labels ++ rest.labels)

/--
The callbacks of a plan that run with an outcome, in the same order as their
labels.
-/
def beginnings (index : Nat) (outcome : Outcome) : Plan → List Beginning
  | done => []
  | reads rest => rest.beginnings index outcome
  | registers label body rest =>
      ⟨⟨index, .script label (body.script index)⟩, outcome⟩ ::
        (body.beginnings index outcome ++ rest.beginnings index outcome)

/-- The callbacks that those of a plan register when they run, in order. -/
def nested (index : Nat) (outcome : Outcome) : Plan → List Registration
  | done => []
  | reads rest => rest.nested index outcome
  | registers _ body rest =>
      (body.beginnings index outcome).map Beginning.toRegistration ++
        rest.nested index outcome

/-- The reply to a reading of the outcome. -/
def reading : Option Outcome → Reply
  | some outcome => .outcome outcome
  | none => .nothing

/-- What is logged while the attempt waits: a registration runs nothing. -/
def waitingLog : Plan → List LogEntry
  | done => []
  | reads rest => .performed "outcome" (reading none) :: rest.waitingLog
  | registers _ _ rest => .performed "on_settle" .nothing :: rest.waitingLog

/--
What is logged once the attempt has settled: a callback begins and comes to its
end before the registration of it returns.
-/
def settledLog (outcome : Outcome) : Plan → List LogEntry
  | done => []
  | reads rest =>
      .performed "outcome" (reading (some outcome)) :: rest.settledLog outcome
  | registers label body rest =>
      .settled label outcome ::
        (body.settledLog outcome ++
          .performed "on_settle" .nothing :: rest.settledLog outcome)

/-- What is logged when the callbacks that waited run one after the other. -/
def dueLog (outcome : Outcome) : Plan → List LogEntry
  | done => []
  | reads rest => rest.dueLog outcome
  | registers label body rest =>
      .settled label outcome ::
        (body.settledLog outcome ++ rest.dueLog outcome)

end Plan

/-- What is new in the log and in the journal of a world. -/
structure News where
  log : List LogEntry := []
  registered : List Registration := []
  begun : List Beginning := []

namespace News

instance : Append News where
  append earlier later :=
    { log := earlier.log ++ later.log
      registered := earlier.registered ++ later.registered
      begun := earlier.begun ++ later.begun }

theorem append_eq (earlier later : News) :
    earlier ++ later =
      ⟨earlier.log ++ later.log, earlier.registered ++ later.registered,
        earlier.begun ++ later.begun⟩ :=
  rfl

theorem append_empty (news : News) : news ++ ({} : News) = news := by
  simp [append_eq]

end News

namespace Plan

/-- What is new when a plan was carried out while the attempt waits. -/
def waitingNews (index : Nat) (plan : Plan) : News where
  log := plan.waitingLog
  registered := (plan.callbacks index).map (Registration.mk index)

/-- What is new when a plan was carried out once the attempt has settled. -/
def settledNews (index : Nat) (outcome : Outcome) (plan : Plan) : News where
  log := plan.settledLog outcome
  registered :=
    (plan.beginnings index outcome).map Beginning.toRegistration
  begun := plan.beginnings index outcome

/-- What is new when the callbacks of a plan that waited have run. -/
def dueNews (index : Nat) (outcome : Outcome) (plan : Plan) : News where
  log := plan.dueLog outcome
  registered := plan.nested index outcome
  begun := plan.beginnings index outcome

/-- What began to run is what was registered, before or meanwhile. -/
theorem perm_beginnings (index : Nat) (outcome : Outcome) (plan : Plan) :
    ((plan.beginnings index outcome).map Beginning.toRegistration).Perm
      ((plan.callbacks index).map (Registration.mk index) ++
        plan.nested index outcome) := by
  induction plan with
  | done =>
      exact .refl _
  | reads rest inductionHypothesis =>
      exact inductionHypothesis
  | registers label body rest _ inductionHypothesis =>
      simp only [beginnings, callbacks, nested, List.map_cons, List.map_append,
        List.cons_append]
      refine .cons _ ?_
      refine (List.Perm.append_left _ inductionHypothesis).trans ?_
      simp only [← List.append_assoc]
      exact List.Perm.append_right _ List.perm_append_comm

end Plan

/-- How a resolver is used up. -/
inductive Use where
  | settles (outcome : Outcome)
  | drops
  deriving Repr, DecidableEq

namespace Use

/-- The command that uses a resolver up. -/
def command : Use → AttemptCommand
  | settles outcome => .settle outcome
  | drops => .drop

/-- The outcome that it leaves the attempt with. -/
def outcome : Use → Outcome
  | settles outcome => outcome
  | drops => .aborted

/-- The step that uses the resolver of an attempt up. -/
def step (index : Nat) (use : Use) : Step :=
  ("use", .attempt index use.command)

end Use

/-- The label and the outcome of a callback that runs. -/
def LogEntry.run? : LogEntry → Option (String × Outcome)
  | .settled label outcome => some (label, outcome)
  | _ => none

/-- The reply to a reading of the outcome. -/
def LogEntry.reading? : LogEntry → Option Reply
  | .performed label reply => if label = "outcome" then some reply else none
  | _ => none

/-- The callbacks that ran according to a log, in order, with their outcomes. -/
def runs (log : List LogEntry) : List (String × Outcome) :=
  log.filterMap LogEntry.run?

/-- The replies to the readings of the outcome in a log. -/
def readings (log : List LogEntry) : List Reply :=
  log.filterMap LogEntry.reading?

namespace Plan

/-! ## What the logs of a plan say -/

theorem runs_waitingLog (plan : Plan) : runs plan.waitingLog = [] := by
  induction plan with
  | done =>
      rfl
  | reads rest inductionHypothesis =>
      exact inductionHypothesis
  | registers label body rest _ inductionHypothesis =>
      exact inductionHypothesis

theorem runs_settledLog (outcome : Outcome) (plan : Plan) :
    runs (plan.settledLog outcome) = plan.labels.map (·, outcome) := by
  induction plan with
  | done =>
      rfl
  | reads rest inductionHypothesis =>
      exact inductionHypothesis
  | registers label body rest bodyHypothesis restHypothesis =>
      unfold runs at *
      simp [settledLog, labels, LogEntry.run?, List.filterMap_cons,
        bodyHypothesis, restHypothesis]

theorem runs_dueLog (outcome : Outcome) (plan : Plan) :
    runs (plan.dueLog outcome) = plan.labels.map (·, outcome) := by
  induction plan with
  | done =>
      rfl
  | reads rest inductionHypothesis =>
      exact inductionHypothesis
  | registers label body rest _ restHypothesis =>
      have bodyRuns := runs_settledLog outcome body
      unfold runs at *
      simp [dueLog, labels, LogEntry.run?, bodyRuns, restHypothesis]

theorem readings_waitingLog
    {plan : Plan}
    {reply : Reply}
    (member : reply ∈ readings plan.waitingLog) :
    reply = .nothing := by
  induction plan with
  | done =>
      cases member
  | reads rest inductionHypothesis =>
      rcases List.mem_cons.mp member with rfl | later
      · rfl
      · exact inductionHypothesis later
  | registers label body rest _ inductionHypothesis =>
      exact inductionHypothesis member

theorem readings_settledLog
    {outcome : Outcome}
    {plan : Plan}
    {reply : Reply}
    (member : reply ∈ readings (plan.settledLog outcome)) :
    reply = .outcome outcome := by
  induction plan with
  | done =>
      cases member
  | reads rest inductionHypothesis =>
      rcases List.mem_cons.mp member with rfl | later
      · rfl
      · exact inductionHypothesis later
  | registers label body rest bodyHypothesis restHypothesis =>
      unfold readings at *
      simp only [settledLog, LogEntry.reading?, List.filterMap_cons,
        List.filterMap_append, List.mem_append] at member
      exact member.elim bodyHypothesis restHypothesis

theorem readings_dueLog
    {outcome : Outcome}
    {plan : Plan}
    {reply : Reply}
    (member : reply ∈ readings (plan.dueLog outcome)) :
    reply = .outcome outcome := by
  induction plan with
  | done =>
      cases member
  | reads rest inductionHypothesis =>
      exact inductionHypothesis member
  | registers label body rest _ restHypothesis =>
      have bodyReads := @readings_settledLog outcome body reply
      unfold readings at *
      simp only [dueLog, LogEntry.reading?, List.filterMap_cons,
        List.filterMap_append, List.mem_append] at member
      exact member.elim bodyReads restHypothesis

end Plan

/-! ## Steps on one attempt -/

/-- The world with more in its log and its journal. -/
def World.logging (news : News) (world : World) : World :=
  { world with
    journal :=
      { world.journal with
        registered := world.journal.registered ++ news.registered
        begun := world.journal.begun ++ news.begun }
    log := world.log ++ news.log }

/--
The world with another slot in place of one, and with more in its log and its
journal.
-/
def World.showing
    (index : Nat)
    (slot : Slot)
    (news : News)
    (world : World) :
    World :=
  { world.logging news with slots := world.slots.set index slot }

namespace World

theorem logging_empty (world : World) : world.logging {} = world := by
  simp [logging]

theorem logging_logging (earlier later : News) (world : World) :
    (world.logging earlier).logging later = world.logging (earlier ++ later) := by
  simp [logging, News.append_eq]

theorem getElem?_slots_logging
    {world : World}
    {index : Nat}
    {slot : Slot}
    (found : world.slots[index]? = some slot)
    (news : News) :
    (world.logging news).slots[index]? = some slot :=
  found

theorem showing_self
    {world : World}
    {index : Nat}
    {slot : Slot}
    (found : world.slots[index]? = some slot) :
    world.showing index slot {} = world := by
  obtain ⟨inside, rfl⟩ := List.getElem?_eq_some_iff.mp found
  simp [showing, logging]

theorem logging_showing
    (index : Nat)
    (slot : Slot)
    (earlier later : News)
    (world : World) :
    (world.showing index slot earlier).logging later =
      world.showing index slot (earlier ++ later) := by
  simp [showing, logging, News.append_eq]

theorem showing_logging
    (index : Nat)
    (slot : Slot)
    (earlier later : News)
    (world : World) :
    (world.logging earlier).showing index slot later =
      world.showing index slot (earlier ++ later) := by
  simp [showing, logging, News.append_eq]

theorem showing_showing
    (index : Nat)
    (first second : Slot)
    (earlier later : News)
    (world : World) :
    (world.showing index first earlier).showing index second later =
      world.showing index second (earlier ++ later) := by
  simp [showing, logging, News.append_eq]

theorem getElem?_slots_showing
    {world : World}
    {index : Nat}
    {slot : Slot}
    (found : world.slots[index]? = some slot)
    (other : Slot)
    (news : News) :
    (world.showing index other news).slots[index]? = some other := by
  have inside := (List.getElem?_eq_some_iff.mp found).1
  simp [showing, inside]

theorem showing_eq_logging
    (index : Nat)
    (slot : Slot)
    (news : News)
    (world : World) :
    world.showing index slot news =
      (world.showing index slot {}).logging news := by
  simp [showing, logging]

/-- An attempt is put into the slot that is there, which keeps its resolver. -/
theorem putAttempt_of_found
    {world : World}
    {index : Nat}
    {slot : Slot}
    (found : world.slots[index]? = some slot)
    (attempt : Attempt Callback) :
    world.putAttempt index attempt =
      world.showing index { slot with attempt := attempt } {} := by
  simp [putAttempt, showing, logging, List.modify_eq_set_getElem?, found]

end World

section Steps

variable {client : Client}

/-- A reading of the outcome changes nothing. -/
theorem reply_outcome
    {world : World}
    {index : Nat}
    {slot : Slot}
    (found : world.slots[index]? = some slot) :
    (perform client (.attempt index .outcome)).reply world =
      (Plan.reading slot.attempt.outcome?, world) := by
  simp only [perform, performAttempt, slotOf, bind_assoc]
  rw [reply_get_bind, reply_require_bind found]
  cases slot.attempt.outcome? <;> rfl

/-- A registration returns when what it runs has come to its end. -/
theorem reply_onSettle
    {world : World}
    {index : Nat}
    {slot : Slot}
    (found : world.slots[index]? = some slot)
    (label : String)
    (script : Script) :
    (perform client (.onSettle index label script)).reply world =
      (.nothing, world.onSettle client index (.script label script)) := by
  simp only [perform, slotOf, bind_assoc]
  rw [reply_get_bind, reply_require_bind found]
  rfl

/-- Nobody uses a resolver that is not at hand. -/
theorem reply_use_of_missing
    {world : World}
    {index : Nat}
    {attempt : Attempt Callback}
    (found : world.slots[index]? = some ⟨attempt, none⟩)
    (use : Use) :
    (perform client (.attempt index use.command)).reply world =
      (.fault .noResolver, world) := by
  have missing : world.takeResolver index = none := by
    simp [World.takeResolver, found]
  cases use with
  | settles outcome =>
      simp only [perform, Use.command, performAttempt, takeResolver, bind_assoc]
      rw [reply_get_bind, missing]
      rfl
  | drops =>
      simp only [perform, Use.command, performAttempt, takeResolver, bind_assoc]
      rw [reply_get_bind, missing]
      rfl

/-- Who uses a fresh resolver settles the attempt and runs what waited for it. -/
theorem reply_use
    {world : World}
    {index : Nat}
    {id : UInt64}
    {callbacks : List Callback}
    (found : world.slots[index]? = some ⟨⟨id, .waiting callbacks⟩, some {}⟩)
    (use : Use) :
    (perform client (.attempt index use.command)).reply world =
      (.nothing,
        callbacks.foldl (World.runCallback client index use.outcome)
          (world.showing index ⟨⟨id, .settled use.outcome⟩, none⟩ {})) := by
  have inside := (List.getElem?_eq_some_iff.mp found).1
  have taken :
      world.takeResolver index =
        some ({},
          { world with
            slots :=
              world.slots.set index ⟨⟨id, .waiting callbacks⟩, none⟩ }) := by
    simp [World.takeResolver, found]
  have settled (outcome : Outcome) :
      World.settleAttempt client index {} outcome
          { world with
            slots :=
              world.slots.set index ⟨⟨id, .waiting callbacks⟩, none⟩ } =
        callbacks.foldl (World.runCallback client index outcome)
          (world.showing index ⟨⟨id, .settled outcome⟩, none⟩ {}) := by
    rw [World.settleAttempt_eq]
    simp [inside, Resolver.settle, Attempt.callbacks, World.putAttempt,
      World.showing, World.logging, List.modify_eq_set_getElem?]
  cases use with
  | settles outcome =>
      simp only [perform, Use.command, performAttempt, takeResolver, bind_assoc]
      rw [reply_get_bind, reply_require_bind taken, ← settled]
      rfl
  | drops =>
      simp only [perform, Use.command, performAttempt, takeResolver, bind_assoc]
      rw [reply_get_bind, reply_require_bind taken, Use.outcome, ← settled,
        ← World.dropResolver_eq]
      rfl

/-- A callback waits behind those that were registered before it. -/
theorem onSettle_of_waiting
    {world : World}
    {index : Nat}
    {id : UInt64}
    {callbacks : List Callback}
    {resolver : Option Resolver}
    (found : world.slots[index]? = some ⟨⟨id, .waiting callbacks⟩, resolver⟩)
    (callback : Callback) :
    world.onSettle client index callback =
      world.showing index
        ⟨⟨id, .waiting (callbacks ++ [callback])⟩, resolver⟩
        { registered := [⟨index, callback⟩] } := by
  have noted :
      (world.note (.register index callback)).slots[index]? =
        some ⟨⟨id, .waiting callbacks⟩, resolver⟩ :=
    found
  simp only [World.onSettle, found, Attempt.onSettle,
    World.putAttempt_of_found noted]
  simp [World.note, Journal.register, World.showing, World.logging]

/-- A callback of the client is logged, and then its script runs. -/
theorem runCallback_script
    (index : Nat)
    (outcome : Outcome)
    (label : String)
    (script : Script)
    (world : World) :
    world.runCallback client index outcome (.script label script) =
      client script
        (world.logging
          { log := [.settled label outcome]
            begun := [⟨⟨index, .script label script⟩, outcome⟩] }) := by
  simp [World.runCallback, World.note, Journal.begin, World.record, World.logging]

/-- A callback runs at once with the outcome that is there. -/
theorem onSettle_of_settled
    {world : World}
    {index : Nat}
    {slot : Slot}
    {outcome : Outcome}
    (found : world.slots[index]? = some slot)
    (settled : slot.attempt.outcome? = some outcome)
    (callback : Callback) :
    world.onSettle client index callback =
      (world.logging { registered := [⟨index, callback⟩] }).runCallback client index
        outcome callback := by
  simp [World.onSettle, found, Attempt.onSettle_of_settled settled, World.note,
    Journal.register, World.logging]

end Steps

/-! ## Scripts on one attempt -/

/-- A script goes on after its first step. -/
theorem runScript_cons
    {depth : Nat}
    {step : Step}
    {rest : Script}
    {world performed : World}
    {reply : Reply}
    (performs :
      (perform (runScript depth) step.2).reply world = (reply, performed)) :
    runScript (depth + 1) (step :: rest) world =
      runScript (depth + 1) rest
        (performed.logging { log := [.performed step.1 reply] }) := by
  simp [runScript, performs, World.record, World.logging]

/-- A script of no steps changes nothing. -/
theorem runScript_nil (depth : Nat) (world : World) :
    runScript depth [] world = world := by
  cases depth <;> rfl

section Runs

variable
  {index depth : Nat}
  {id : UInt64}
  {resolver : Option Resolver}
  {outcome : Outcome}

/-- While an attempt waits, a plan only lets callbacks wait as well. -/
theorem runScript_of_waiting
    {plan : Plan}
    (fits : plan.height ≤ depth)
    {world : World}
    {callbacks : List Callback}
    (found : world.slots[index]? = some ⟨⟨id, .waiting callbacks⟩, resolver⟩) :
    runScript depth (plan.script index) world =
      world.showing index
        ⟨⟨id, .waiting (callbacks ++ plan.callbacks index)⟩, resolver⟩
        (plan.waitingNews index) := by
  induction plan generalizing world callbacks with
  | done =>
      rw [Plan.script, runScript_nil, Plan.callbacks, List.append_nil]
      exact (World.showing_self found).symm
  | reads rest inductionHypothesis =>
      obtain ⟨stepFits, restFits⟩ := Nat.max_le.mp fits
      obtain ⟨below, rfl⟩ := Nat.exists_eq_add_one.mpr stepFits
      rw [Plan.script, runScript_cons (reply_outcome found),
        inductionHypothesis restFits (World.getElem?_slots_logging found _),
        World.showing_logging]
      rfl
  | registers label body rest _ inductionHypothesis =>
      obtain ⟨bodyFits, restFits⟩ := Nat.max_le.mp fits
      obtain ⟨below, rfl⟩ := Nat.exists_eq_add_one.mpr (Nat.zero_lt_of_lt bodyFits)
      have registered :=
        World.getElem?_slots_showing found
          ⟨⟨id, .waiting
            (callbacks ++ [.script label (body.script index)])⟩, resolver⟩
      rw [Plan.script, runScript_cons (reply_onSettle found label _),
        onSettle_of_waiting found, World.logging_showing,
        inductionHypothesis restFits (registered _), World.showing_showing,
        List.append_assoc]
      rfl

/--
Once an attempt has settled, a plan only logs: what it registers runs at once, and
what that registers runs within it.
-/
theorem runScript_of_settled
    {plan : Plan}
    (fits : plan.height ≤ depth)
    {world : World}
    (found : world.slots[index]? = some ⟨⟨id, .settled outcome⟩, resolver⟩) :
    runScript depth (plan.script index) world =
      world.logging (plan.settledNews index outcome) := by
  induction plan generalizing depth world with
  | done =>
      rw [Plan.script, runScript_nil]
      exact (World.logging_empty world).symm
  | reads rest inductionHypothesis =>
      obtain ⟨stepFits, restFits⟩ := Nat.max_le.mp fits
      obtain ⟨below, rfl⟩ := Nat.exists_eq_add_one.mpr stepFits
      rw [Plan.script, runScript_cons (reply_outcome found),
        inductionHypothesis restFits (World.getElem?_slots_logging found _),
        World.logging_logging]
      rfl
  | registers label body rest bodyHypothesis restHypothesis =>
      obtain ⟨bodyFits, restFits⟩ := Nat.max_le.mp fits
      obtain ⟨below, rfl⟩ := Nat.exists_eq_add_one.mpr (Nat.zero_lt_of_lt bodyFits)
      let callback : Callback := .script label (body.script index)
      have ran :
          world.onSettle (runScript below) index callback =
            world.logging
              ({ log := [.settled label outcome]
                 registered := [⟨index, callback⟩]
                 begun := [⟨⟨index, callback⟩, outcome⟩] } ++
                body.settledNews index outcome) := by
        rw [onSettle_of_settled found rfl, runCallback_script,
          bodyHypothesis (Nat.le_of_succ_le_succ bodyFits)
            (World.getElem?_slots_logging (World.getElem?_slots_logging found _) _),
          World.logging_logging, World.logging_logging]
        rfl
      rw [Plan.script, runScript_cons (reply_onSettle found label _), ran,
        restHypothesis restFits
          (World.getElem?_slots_logging (World.getElem?_slots_logging found _) _),
        World.logging_logging, World.logging_logging]
      simp [Plan.settledNews, Plan.settledLog, Plan.beginnings, Plan.registerStep,
        News.append_eq, callback]

/-- The callbacks that waited run one after the other, each to its end. -/
theorem runCallbacks_of_settled
    {plan : Plan}
    (fits : plan.height ≤ depth + 1)
    {world : World}
    (found : world.slots[index]? = some ⟨⟨id, .settled outcome⟩, resolver⟩) :
    (plan.callbacks index).foldl
        (World.runCallback (runScript depth) index outcome) world =
      world.logging (plan.dueNews index outcome) := by
  induction plan generalizing world with
  | done =>
      rw [Plan.callbacks, List.foldl_nil]
      exact (World.logging_empty world).symm
  | reads rest inductionHypothesis =>
      exact inductionHypothesis (Nat.max_le.mp fits).2 found
  | registers label body rest _ inductionHypothesis =>
      obtain ⟨bodyFits, restFits⟩ := Nat.max_le.mp fits
      let callback : Callback := .script label (body.script index)
      have ran :
          world.runCallback (runScript depth) index outcome callback =
            world.logging
              ({ log := [.settled label outcome]
                 begun := [⟨⟨index, callback⟩, outcome⟩] } ++
                body.settledNews index outcome) := by
        rw [runCallback_script,
          runScript_of_settled (Nat.le_of_succ_le_succ bodyFits)
            (World.getElem?_slots_logging found _),
          World.logging_logging]
      rw [Plan.callbacks, List.foldl_cons, ran,
        inductionHypothesis restFits (World.getElem?_slots_logging found _),
        World.logging_logging]
      simp [Plan.dueNews, Plan.settledNews, Plan.dueLog, Plan.beginnings,
        Plan.nested, News.append_eq, callback]

/-- The step that uses a resolver up runs everything that waited. -/
theorem runScript_use
    {plan : Plan}
    (fits : plan.height ≤ depth + 1)
    {world : World}
    (found :
      world.slots[index]? =
        some ⟨⟨id, .waiting (plan.callbacks index)⟩, some {}⟩)
    (use : Use) :
    runScript (depth + 1) [use.step index] world =
      world.showing index ⟨⟨id, .settled use.outcome⟩, none⟩
        (plan.dueNews index use.outcome ++
          { log := [.performed "use" .nothing] }) := by
  have settled :=
    World.getElem?_slots_showing found ⟨⟨id, .settled use.outcome⟩, none⟩ {}
  rw [runScript_cons (reply_use found use), runCallbacks_of_settled fits settled,
    runScript_nil, World.logging_showing, World.logging_showing]
  rfl

end Runs

/--
Callbacks run exactly once, all with the one outcome that their attempt has from
the moment its resolver is used.

Before the resolver is used, a plan runs nothing and reads no outcome.  Using it,
or letting go of it, which aborts the attempt, runs what was registered, in the
order of registration: each callback comes to its end, with all that it registers
itself, before the next one begins.  What is registered afterwards runs in the
same way within its registration.  Every reading since then gives the outcome,
also from inside of callbacks, and nothing else of the world changes but that its
journal tells the same.  There is no second use, and a resolver that is let go of
after its use does nothing.

Scripts may nest to any depth that suffices for the plans.
-/
theorem callbacks_run_once_with_one_outcome
    {depth index : Nat}
    {id : UInt64}
    {world : World}
    (fresh : world.slots[index]? = some ⟨Attempt.start id, some {}⟩)
    {earlier later : Plan}
    (earlierFits : earlier.height ≤ depth + 1)
    (laterFits : later.height ≤ depth + 1)
    (use : Use) :
    let outcome := use.outcome
    let waited := runScript (depth + 1) (earlier.script index) world
    let used := runScript (depth + 1) [use.step index] waited
    let ended := runScript (depth + 1) (later.script index) used
    (waited =
        world.showing index
          ⟨⟨id, .waiting (earlier.callbacks index)⟩, some {}⟩
          (earlier.waitingNews index) ∧
      runs earlier.waitingLog = [] ∧
      ∀ reply ∈ readings earlier.waitingLog, reply = .nothing) ∧
    (used =
        waited.showing index ⟨⟨id, .settled outcome⟩, none⟩
          (earlier.dueNews index outcome ++
            { log := [.performed "use" .nothing] }) ∧
      ((earlier.beginnings index outcome).map Beginning.toRegistration).Perm
        ((earlier.callbacks index).map (Registration.mk index) ++
          earlier.nested index outcome) ∧
      runs (earlier.dueLog outcome) = earlier.labels.map (·, outcome) ∧
      ∀ reply ∈ readings (earlier.dueLog outcome), reply = .outcome outcome) ∧
    (ended = used.logging (later.settledNews index outcome) ∧
      runs (later.settledLog outcome) = later.labels.map (·, outcome) ∧
      ∀ reply ∈ readings (later.settledLog outcome),
        reply = .outcome outcome) ∧
    (∀ again : Use,
      (perform (runScript depth) (.attempt index again.command)).reply ended =
        (.fault .noResolver, ended)) ∧
    ∀ (attempt : Attempt Callback) (other : World),
      World.dropResolver (runScript depth) index
          (({} : Resolver).settle outcome attempt).1 other =
        other := by
  intro outcome waited used ended
  have waits :
      waited =
        world.showing index
          ⟨⟨id, .waiting (earlier.callbacks index)⟩, some {}⟩
          (earlier.waitingNews index) :=
    runScript_of_waiting earlierFits fresh
  have waiting :
      waited.slots[index]? =
        some ⟨⟨id, .waiting (earlier.callbacks index)⟩, some {}⟩ := by
    rw [waits]
    exact World.getElem?_slots_showing fresh _ _
  have uses :
      used =
        waited.showing index ⟨⟨id, .settled outcome⟩, none⟩
          (earlier.dueNews index outcome ++
            { log := [.performed "use" .nothing] }) :=
    runScript_use earlierFits waiting use
  have settled : used.slots[index]? = some ⟨⟨id, .settled outcome⟩, none⟩ := by
    rw [uses]
    exact World.getElem?_slots_showing waiting _ _
  have ends : ended = used.logging (later.settledNews index outcome) :=
    runScript_of_settled laterFits settled
  have kept : ended.slots[index]? = some ⟨⟨id, .settled outcome⟩, none⟩ := by
    rw [ends]
    exact settled
  exact ⟨⟨waits, Plan.runs_waitingLog earlier,
      fun _ member => Plan.readings_waitingLog member⟩,
    ⟨uses, Plan.perm_beginnings index outcome earlier,
      Plan.runs_dueLog outcome earlier,
      fun _ member => Plan.readings_dueLog member⟩,
    ⟨ends, Plan.runs_settledLog outcome later,
      fun _ member => Plan.readings_settledLog member⟩,
    reply_use_of_missing kept, fun attempt =>
      World.dropResolver_of_used (Resolver.settled_settle outcome {} attempt) _ index⟩

/--
A callback that waits reads the outcome and registers another one, which runs
before the second of those that waited; a late one registers one more.
-/
theorem callbacks_run_once_with_one_outcome_of_nested :
    let world : World :=
      { tracing := false, slots := [⟨Attempt.start 7, some {}⟩] }
    let earlier : Plan :=
      .registers "first" (.reads (.registers "within" (.reads .done) .done))
        (.reads (.registers "second" .done .done))
    let later : Plan :=
      .registers "late" (.registers "later" (.reads .done) .done) .done
    (world.slots[0]? = some ⟨Attempt.start 7, some {}⟩ ∧
      earlier.height ≤ 3 ∧
      later.height ≤ 3) ∧
    runs
        (runScript 3
          (earlier.script 0 ++
            (Use.settles .succeeded).step 0 :: later.script 0)
          world).log =
      ["first", "within", "second", "late", "later"].map (·, .succeeded) := by
  intro world earlier later
  have fresh : world.slots[0]? = some ⟨Attempt.start 7, some {}⟩ := rfl
  have earlierFits : earlier.height ≤ 3 := by decide
  have laterFits : later.height ≤ 3 := by decide
  refine ⟨⟨fresh, earlierFits, laterFits⟩, ?_⟩
  obtain ⟨⟨waits, _⟩, ⟨uses, _⟩, ⟨ends, _⟩, _⟩ :=
    callbacks_run_once_with_one_outcome fresh earlierFits laterFits
      (.settles .succeeded)
  have together :
      runScript 3
          (earlier.script 0 ++ (Use.settles .succeeded).step 0 :: later.script 0)
          world =
        runScript 3 (later.script 0)
          (runScript 3 [(Use.settles .succeeded).step 0]
            (runScript 3 (earlier.script 0) world)) := by
    simp only [runScript, List.foldl_append, List.foldl_cons, List.foldl_nil]
  rw [together, ends, uses, waits]
  decide

end NavState.Session
