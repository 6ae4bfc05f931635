import NavState.Proofs.Reentrance
import NavState.Session.Run

namespace NavState.Session

/-!
# Sessions as runs

Every command of a session, with all that is called back while it is performed,
is made up of turns, new caches and what nobody notices.  So what tracks these
tracks a whole session: each cache goes on by a run of operations, and what
holds of every run of a cache holds of every cache of a session.
-/

namespace Act

/-- The relation holds between a world and what an action makes of it. -/
def Tracked
    {α : Type}
    (relation : World → World → Prop)
    (act : Act α)
    (world : World) :
    Prop :=
  relation world (act.run.run world).2

variable {α β : Type} {relation : World → World → Prop}

theorem tracked_set
    {world other : World}
    (tracked : relation world other) :
    Tracked relation (set other) world :=
  tracked

theorem tracked_get_bind
    {next : World → Act β}
    {world : World}
    (tracked : Tracked relation (next world) world) :
    Tracked relation (get >>= next) world :=
  tracked

/-- A change of the world that comes before a reply. -/
theorem tracked_modify_reply
    {change : World → World}
    {world : World}
    (tracked : relation world (change world))
    (reply : β) :
    Tracked relation (do modify change; return reply) world :=
  tracked

variable (tracks : World.TracksTasks relation)

include tracks

theorem tracked_pure (value : α) (world : World) :
    Tracked relation (pure value) world :=
  tracks.refl world

theorem tracked_throw (fault : Fault) (world : World) :
    Tracked relation (throw fault : Act α) world :=
  tracks.refl world

/-- An action is tracked together with what comes after it. -/
theorem tracked_bind
    {act : Act α}
    {next : α → Act β}
    {world : World}
    (first : Tracked relation act world)
    (second :
      ∀ value later,
        act.run.run world = (.ok value, later) →
        Tracked relation (next value) later) :
    Tracked relation (act >>= next) world := by
  change
    relation world
      (ExceptT.bindCont next
        (act.run.run world).1 (act.run.run world).2).2
  cases result : act.run.run world with
  | mk outcome later =>
      unfold Tracked at first
      rw [result] at first
      cases outcome with
      | ok value =>
          exact tracks.trans first (second value later result)
      | error fault =>
          exact first

theorem tracked_require
    (fault : Fault)
    (value? : Option α)
    (world : World) :
    Tracked relation (require fault value?) world := by
  cases value? <;> exact tracks.refl world

theorem tracked_require_bind
    {fault : Fault}
    {value? : Option α}
    {next : α → Act β}
    {world : World}
    (tracked :
      ∀ value,
        value? = some value →
        Tracked relation (next value) world) :
    Tracked relation (require fault value? >>= next) world := by
  cases value? with
  | none =>
      exact tracks.refl world
  | some value =>
      exact tracked value rfl

theorem tracked_ofExcept_bind
    {result : Except Fault α}
    {next : α → Act β}
    {world : World}
    (tracked :
      ∀ value,
        result = .ok value →
        Tracked relation (next value) world) :
    Tracked relation (ofExcept result >>= next) world := by
  cases result with
  | error fault =>
      exact tracks.refl world
  | ok value =>
      exact tracked value rfl

theorem tracked_modify_bind
    {change : World → World}
    {next : Unit → Act β}
    {world : World}
    (first : relation world (change world))
    (second : Tracked relation (next ()) (change world)) :
    Tracked relation (modify change >>= next) world :=
  tracks.trans first second

/-- Actions taken for some items in order are tracked together. -/
theorem tracked_mapM
    {act : α → Act β}
    (tracked : ∀ item world, Tracked relation (act item) world)
    (items : List α)
    (world : World) :
    Tracked relation (items.mapM act) world := by
  induction items generalizing world with
  | nil =>
      rw [List.mapM_nil]
      exact tracked_pure tracks _ world
  | cons item rest inductionHypothesis =>
      rw [List.mapM_cons]
      refine tracked_bind tracks (tracked item world) ?_
      intro value later _
      refine tracked_bind tracks (inductionHypothesis later) ?_
      intro values done _
      exact tracked_pure tracks _ done

end Act

open Act

theorem reply_get_bind (next : World → Act Reply) (world : World) :
    Act.reply (get >>= next) world = (next world).reply world :=
  rfl

theorem reply_require_bind
    {α : Type}
    {value? : Option α}
    {value : α}
    (found : value? = some value)
    (fault : Fault)
    (next : α → Act Reply)
    (world : World) :
    Act.reply (Act.require fault value? >>= next) world =
      (next value).reply world := by
  rw [found]
  rfl

/-- An announcement takes place on the cell and the slot that it names. -/
theorem reply_announce
    {client : Client}
    {world : World}
    {cache index attempt : Nat}
    {cell : Cell}
    {slot : Slot}
    (names : world.caches[cache]? = some index)
    (found : world.cells[index]? = some cell)
    (foundSlot : world.slots[attempt]? = some slot) :
    (perform client (.announce cache attempt)).reply world =
      (.nothing,
        world.announceAttempt client index cell attempt slot.attempt.id) := by
  simp only [perform, cellOf, slotOf, bind_assoc, pure_bind]
  rw [reply_get_bind, reply_require_bind names, reply_require_bind found,
    reply_get_bind, reply_require_bind foundSlot]
  rfl

section Tracked

variable {relation : World → World → Prop} (tracks : World.TracksTasks relation)

include tracks

/-! ## Commands that no cache takes part in -/

theorem tracked_performHost
    (index : Nat)
    (command : HostCommand)
    (world : World) :
    Tracked relation (performHost index command) world := by
  refine tracked_get_bind (tracked_require_bind tracks fun host _ => ?_)
  refine tracked_ofExcept_bind tracks fun moved _ => ?_
  exact tracked_modify_reply (tracks.of_eq rfl) _

theorem tracked_openAttempt (id : UInt64) (world : World) :
    Tracked relation (openAttempt id) world :=
  tracks.opens id world

theorem tracked_registryOf (index : Nat) (world : World) :
    Tracked relation (registryOf index) world :=
  tracked_get_bind (tracked_require tracks _ _ world)

theorem tracked_exporterOf (index : Nat) (world : World) :
    Tracked relation (exporterOf index) world := by
  refine tracked_bind tracks (tracked_registryOf tracks index world) ?_
  intro registry later _
  cases registry with
  | exporting catalogue =>
      refine tracked_get_bind (tracked_require_bind tracks fun entry _ => ?_)
      exact tracked_pure tracks _ later
  | _ =>
      exact tracked_throw tracks _ later

theorem tracked_createRegistry
    (request : RegistryRequest)
    (world : World) :
    Tracked relation (createRegistry request) world := by
  cases request with
  | silent =>
      exact tracked_pure tracks _ world
  | recording =>
      exact tracked_pure tracks _ world
  | clone registry =>
      exact tracked_registryOf tracks registry world
  | exporting =>
      exact tracks.of_eq rfl
  | «over» registry =>
      refine tracked_bind tracks (tracked_exporterOf tracks registry world) ?_
      intro exporter later _
      exact tracks.of_eq rfl

theorem tracked_register
    (kind : Metric.Kind)
    (definition : Metric.Definition)
    (registry : Registry)
    (world : World) :
    Tracked relation (registry.register kind definition) world := by
  cases registry with
  | silent =>
      exact tracked_pure tracks _ world
  | recording =>
      exact tracks.unmoved (World.unmoved_record (by simp) world)
  | exporting catalogue =>
      refine tracked_get_bind ?_
      split
      · exact tracked_throw tracks _ world
      · next registered succeeds =>
          have keeps := Metric.Depot.keeps_register succeeds
          refine tracked_modify_bind tracks
            (tracks.unmoved (World.unmoved_depot keeps)) ?_
          split
          · exact tracked_modify_reply
              (tracks.unmoved (World.unmoved_trace _ _)) _
          · exact tracked_pure tracks _ _

theorem tracked_child
    (values : List String)
    (vector : MeterVector)
    (world : World) :
    Tracked relation (vector.child values) world := by
  cases vector with
  | silent =>
      exact tracked_pure tracks _ world
  | recorded name =>
      exact tracks.unmoved (World.unmoved_record (by simp) world)
  | stored index =>
      refine tracked_get_bind ?_
      split
      · exact tracked_throw tracks _ world
      · next address depot asked =>
          exact tracks.unmoved
            (World.unmoved_depot (Metric.Depot.keeps_child? asked))

theorem tracked_setUp
    (name : String)
    (registry : Registry)
    (world : World) :
    Tracked relation (Meters.setUp name registry) world := by
  refine tracked_bind tracks (tracked_register tracks _ _ registry world) ?_
  intro counters registered _
  refine tracked_bind tracks
    (tracked_register tracks _ _ registry registered) ?_
  intro gauges ready _
  have asked (tally : Tally) (world : World) :
      Tracked relation
        (do return (tally, ← counters.child [name, tally.label]))
        world :=
    tracked_bind tracks (tracked_child tracks _ counters world) fun _ later _ =>
      tracked_pure tracks _ later
  refine tracked_bind tracks (tracked_mapM tracks asked Tally.all ready) ?_
  intro tallies counted _
  refine tracked_bind tracks (tracked_child tracks _ gauges counted) ?_
  intro pages done _
  exact tracked_pure tracks _ done

theorem tracked_keepMeter
    (kind : Metric.Kind)
    (meter : Meter)
    (world : World) :
    Tracked relation (keepMeter kind meter) world := by
  cases kind with
  | counter =>
      exact tracks.unmoved
        (World.unmoved_keep (List.subset_append_left _ _) (List.Subset.refl _))
  | gauge =>
      exact tracks.unmoved
        (World.unmoved_keep (List.Subset.refl _) (List.subset_append_left _ _))

theorem tracked_performMetric
    (command : MetricCommand)
    (world : World) :
    Tracked relation (performMetric command) world := by
  cases command with
  | create request =>
      refine tracked_bind tracks (tracked_createRegistry tracks request world) ?_
      intro registry later _
      exact tracks.of_eq rfl
  | register registry kind definition values =>
      refine tracked_bind tracks (tracked_registryOf tracks registry world) ?_
      intro found looked _
      refine tracked_bind tracks
        (tracked_register tracks kind definition found looked) ?_
      intro vector registered _
      refine tracked_bind tracks (tracked_child tracks values vector registered) ?_
      intro meter asked _
      exact tracked_keepMeter tracks kind meter asked
  | change kind meter change =>
      refine tracked_get_bind (tracked_require_bind tracks fun found isKept => ?_)
      refine tracked_modify_reply (tracks.change ?_ change) _
      cases kind with
      | counter =>
          exact .inl (List.mem_of_getElem? isKept)
      | gauge =>
          exact .inr (List.mem_of_getElem? isKept)
  | publish registry collector? =>
      refine tracked_require_bind tracks fun collector _ => ?_
      refine tracked_bind tracks (tracked_exporterOf tracks registry world) ?_
      intro exporter later _
      exact tracks.unmoved
        (World.unmoved_depot (Metric.Depot.keeps_of_vectors_eq rfl))
  | gather registry =>
      refine tracked_bind tracks (tracked_exporterOf tracks registry world) ?_
      intro exporter later _
      exact tracks.refl later
  | exposition registry =>
      refine tracked_bind tracks (tracked_exporterOf tracks registry world) ?_
      intro exporter later _
      exact tracks.refl later

/-! ## Commands on caches, attempts and tasks -/

theorem tracked_slotOf (index : Nat) (world : World) :
    Tracked relation (slotOf index) world :=
  tracked_get_bind (tracked_require tracks _ _ world)

section Clients

variable
  {client : Client}
  (continues : ∀ script world, relation world (client script world))

/-- What comes after looking up a cell finds it in the world. -/
theorem tracked_cellOf_bind
    {β : Type}
    {cache : Nat}
    {next : Nat × Cell → Act β}
    {world : World}
    (follows :
      ∀ index cell,
        world.cells[index]? = some cell →
        Tracked relation (next (index, cell)) world) :
    Tracked relation (cellOf cache >>= next) world := by
  simp only [cellOf, bind_assoc, pure_bind]
  refine tracked_get_bind (tracked_require_bind tracks fun index _ => ?_)
  exact tracked_require_bind tracks fun cell found => follows index cell found

include continues

theorem tracked_performCache
    (cache : Nat)
    (command : CacheCommand)
    (world : World) :
    Tracked relation (performCache client cache command) world := by
  refine tracked_cellOf_bind tracks fun index cell found => ?_
  cases command with
  | get key =>
      exact tracked_modify_reply
        (tracks.call continues found (.access (.get key)) ⟨rfl, rfl, rfl⟩ rfl) _
  | set key value =>
      exact tracked_modify_reply
        (tracks.call continues found (.access (.set key value)) ⟨rfl, rfl, rfl⟩ rfl) _
  | delete key =>
      exact tracked_modify_reply
        (tracks.call continues found (.access (.delete key)) ⟨rfl, rfl, rfl⟩ rfl) _
  | clear =>
      exact tracked_modify_reply
        (tracks.call continues found (.clear (world.observed cell))
          ⟨rfl, rfl, rfl⟩ rfl) _
  | _ =>
      exact tracks.refl world

omit continues in
/-- The resolver at hand is taken away and used up. -/
theorem tracked_takeResolver
    (index : Nat)
    {use : Resolver → World → World}
    (uses :
      ∀ {world rest : World} {resolver : Resolver},
        world.takeResolver index = some (resolver, rest) →
        relation world (use resolver rest))
    (world : World) :
    Tracked relation
      (do
        let resolver ← takeResolver index
        modify (use resolver)
        return Reply.nothing)
      world := by
  simp only [takeResolver, bind_assoc, pure_bind]
  refine tracked_get_bind (tracked_require_bind tracks fun taken found => ?_)
  exact uses found

theorem tracked_performAttempt
    (index : Nat)
    (command : AttemptCommand)
    (world : World) :
    Tracked relation (performAttempt client index command) world := by
  cases command with
  | settle outcome =>
      refine tracked_takeResolver tracks index (fun taken => ?_) world
      exact tracks.uses continues taken outcome
  | drop =>
      refine tracked_takeResolver tracks index (fun taken => ?_) world
      rw [World.dropResolver_eq]
      exact tracks.uses continues taken .aborted
  | outcome =>
      refine tracked_bind tracks (tracked_slotOf tracks index world) ?_
      intro slot later _
      split <;> exact tracked_pure tracks _ later
  | describeResolver =>
      refine tracked_get_bind (tracked_require_bind tracks fun taken _ => ?_)
      exact tracked_pure tracks _ world
  | _ =>
      refine tracked_bind tracks (tracked_slotOf tracks index world) ?_
      intro slot later _
      exact tracked_pure tracks _ later

omit continues in
/-- A resolver is done away with before a call fails. -/
theorem tracked_discard_throw
    {β : Type}
    (attempt : Nat)
    (runner : Runner)
    {lose : Resolver → World → World}
    (loses :
      ∀ {before between : World} {resolver : Resolver},
        before.takeResolver attempt = some (resolver, between) →
        relation before (lose resolver between))
    (fault : Fault)
    (world : World) :
    Tracked relation
      (do discard attempt runner lose; throw fault : Act β)
      world := by
  have discards : Tracked relation (discard attempt runner lose) world := by
    refine tracked_get_bind ?_
    split
    · exact tracked_pure tracks _ world
    · next resolver rest found =>
        exact tracked_set
          (World.tracked_withRunner_loses tracks found loses runner)
  exact tracked_bind tracks discards fun _ later _ => tracked_throw tracks _ later

theorem tracked_spawn
    (attempt : Nat)
    (future : Option Future)
    (pushes : Option Nat)
    (outside : Bool)
    (world : World) :
    Tracked relation (spawn client attempt future pushes outside) world := by
  have drops
      {before between : World}
      {resolver : Resolver}
      (taken : before.takeResolver attempt = some (resolver, between)) :
      relation before (between.dropResolver client attempt resolver) := by
    rw [World.dropResolver_eq]
    exact tracks.uses continues taken .aborted
  have refused (fault : Fault) (world : World) :
      Tracked relation
        (do
          discard attempt .barred (World.refuse client attempt)
          throw fault : Act Reply)
        world :=
    tracked_discard_throw tracks attempt .barred (tracks.refuses continues) fault
      world
  refine tracked_get_bind ?_
  cases future with
  | none =>
      exact tracked_discard_throw tracks attempt _ drops _ world
  | some future =>
      refine tracked_get_bind (tracked_require_bind tracks ?_)
      rintro ⟨resolver, rest⟩ found
      dsimp only
      split
      · have spawned :=
          tracks.spawns found future (pushedHistory pushes rest) .empty (.inl rfl)
        exact tracks.trans spawned (tracks.of_eq rfl)
      · exact refused _ world
      · exact tracked_discard_throw tracks attempt _ drops _ world
      · exact
          tracks.spawns found future (pushedHistory pushes rest) .hungUp (.inr rfl)
      · exact refused _ world

omit continues in
theorem tracked_requireRunner (world : World) :
    Tracked relation requireRunner world := by
  refine tracked_get_bind ?_
  split
  · exact tracked_throw tracks _ world
  · exact tracked_pure tracks _ world

theorem tracked_drain (world : World) :
    Tracked relation (drain client) world := by
  refine tracked_bind tracks (tracked_requireRunner tracks world) ?_
  intro _ later _
  exact tracked_modify_reply (World.tracked_drain tracks continues later) _

omit continues in
theorem tracked_join
    {world : World}
    {index : Nat}
    {task : Task}
    (found : world.tasks[index]? = some task) :
    Tracked relation (join index task) world := by
  simp only [join]
  split
  · refine tracked_modify_bind tracks (tracks.joins found) ?_
    refine tracked_bind tracks (tracked_requireRunner tracks _) ?_
    intro _ later _
    split
    · exact tracked_pure tracks _ later
    · exact tracked_throw tracks _ later
    · exact tracked_throw tracks _ later
  · exact tracked_pure tracks _ world

omit tracks continues in
/-- The task of a handle is among the tasks. -/
theorem getElem?_of_task?
    {world : World}
    {handle index : Nat}
    {task : Task}
    (found : world.task? handle = some (index, task)) :
    world.tasks[index]? = some task := by
  simp only [World.task?, Option.bind_eq_bind, Option.bind_eq_some_iff,
    Option.pure_def, Option.some.injEq, Prod.mk.injEq] at found
  obtain ⟨_, _, _, isThere, rfl, rfl⟩ := found
  exact isThere

omit continues in
theorem tracked_performTask
    (handle : Nat)
    (command : TaskCommand)
    (world : World) :
    Tracked relation (performTask handle command) world := by
  cases command with
  | send outcome =>
      refine tracked_get_bind (tracked_require_bind tracks ?_)
      rintro ⟨index, task⟩ found
      dsimp only
      split
      · next hasSender =>
          exact tracked_modify_reply
            (tracks.receives (getElem?_of_task? found) hasSender _) _
      · exact tracked_throw tracks _ world
  | hangUp =>
      refine tracked_get_bind ?_
      dsimp only
      split
      · exact tracked_pure tracks _ world
      · next found =>
          split
          · next hasSender =>
              exact tracked_modify_reply
                (tracks.receives (getElem?_of_task? found) hasSender _) _
          · exact tracked_pure tracks _ world
  | abort =>
      refine tracked_get_bind (tracked_require_bind tracks ?_)
      rintro ⟨index, task⟩ found
      dsimp only
      split
      · exact tracked_throw tracks _ world
      · exact tracked_modify_reply (tracks.aborts (getElem?_of_task? found)) _
  | join =>
      refine tracked_get_bind (tracked_require_bind tracks ?_)
      rintro ⟨index, task⟩ found
      dsimp only
      split
      · exact tracked_throw tracks _ world
      · exact tracked_join tracks (getElem?_of_task? found)

/-! ## All commands -/

omit continues in
theorem tracked_namedRegistry
    (request : BuildRequest Step)
    (world : World) :
    Tracked relation request.registry? world := by
  simp only [ BuildRequest.registry?]
  split
  · exact tracked_pure tracks _ world
  · exact tracked_get_bind (tracked_require tracks _ _ world)

omit continues in
theorem tracked_build
    (host : Nat)
    (request : BuildRequest Step)
    (world : World) :
    Tracked relation (build host request) world := by
  refine tracked_ofExcept_bind tracks fun config _ => ?_
  refine tracked_get_bind (tracked_require_bind tracks fun shown _ => ?_)
  refine tracked_bind tracks (tracked_namedRegistry tracks request world) ?_
  intro registry looked _
  refine tracked_require_bind tracks fun cache fresh => ?_
  refine tracked_bind tracks
    (tracked_setUp tracks request.name registry looked) ?_
  intro meters ready _
  refine tracked_modify_bind tracks
    (tracks.unmoved (World.unmoved_trace _ ready)) ?_
  refine tracks.cell _ fresh ?_
  intro listener isNew
  obtain ⟨scripts, _, rfl⟩ := Option.map_eq_some_iff.mp isNew
  rfl

omit continues in
theorem tracked_describeBuilder
    (request : BuildRequest Step)
    (world : World) :
    Tracked relation (describeBuilder request) world := by
  refine tracked_ofExcept_bind tracks fun config _ => ?_
  refine tracked_bind tracks (tracked_namedRegistry tracks request world) ?_
  intro registry later _
  exact tracks.refl later

/-- A command is tracked if its client is. -/
theorem tracked_perform
    (command : Command)
    (world : World) :
    Tracked relation (perform client command) world := by
  cases command with
  | unreadable =>
      exact tracked_throw tracks _ world
  | openHost page =>
      exact tracks.of_eq rfl
  | host host command =>
      exact tracked_performHost tracks host command world
  | build host request =>
      exact tracked_build tracks host request world
  | describeBuilder request =>
      exact tracked_describeBuilder tracks request world
  | cloneCache cache =>
      refine tracked_cellOf_bind tracks fun index cell _ => ?_
      exact tracks.unmoved (World.unmoved_clone index world)
  | cache cache command =>
      exact tracked_performCache tracks continues cache command world
  | announce cache attempt =>
      refine tracked_cellOf_bind tracks fun index cell found => ?_
      simp only [slotOf, bind_assoc]
      refine tracked_get_bind ?_
      refine tracked_require_bind tracks fun slot foundSlot => ?_
      exact tracked_modify_reply
        (tracks.announce continues found foundSlot) _
  | announceHosted cache id outcome script =>
      refine tracked_cellOf_bind tracks fun index cell found => ?_
      exact tracked_modify_reply
        (tracks.hosted continues found id outcome script) _
  | openAttempt id =>
      exact tracked_openAttempt tracks id world
  | beginAttempt =>
      refine tracked_get_bind (tracked_modify_bind tracks (tracks.of_eq rfl) ?_)
      exact tracked_openAttempt tracks _ _
  | resetSequencer =>
      exact tracks.of_eq rfl
  | describeSequencer =>
      exact tracks.refl world
  | attempt attempt command =>
      exact tracked_performAttempt tracks continues attempt command world
  | onSettle attempt label script =>
      refine tracked_bind tracks (tracked_slotOf tracks attempt world) ?_
      intro slot later _
      exact tracked_modify_reply
        (tracks.awaits continues attempt label script later) _
  | spawn attempt future pushes outside =>
      exact tracked_spawn tracks continues attempt future pushes outside world
  | drain =>
      exact tracked_drain tracks continues world
  | task task command =>
      exact tracked_performTask tracks task command world
  | metric command =>
      exact tracked_performMetric tracks command world

end Clients

/-! ## Whole sessions -/

omit tracks in
theorem tracked_reply
    {act : Act Reply}
    {world : World}
    (tracked : Tracked relation act world) :
    relation world (act.reply world).2 := by
  unfold Tracked at tracked
  simp only [reply]
  split
  · next value later result =>
      rw [result] at tracked
      exact tracked
  · next fault later result =>
      rw [result] at tracked
      exact tracked

/-- Scripts are tracked, however deep they nest. -/
theorem tracked_runScript
    (depth : Nat)
    (script : Script)
    (world : World) :
    relation world (runScript depth script world) := by
  induction depth generalizing script world with
  | zero =>
      exact tracks.refl world
  | succ depth inductionHypothesis =>
      refine tracks.foldl ?_ script world
      intro world step
      have performed :=
        tracked_reply
          (tracked_perform tracks inductionHypothesis step.2 world)
      exact tracks.trans performed
        (tracks.unmoved (World.unmoved_record (by simp) _))

/-- A command of a session is tracked, with all that is called back meanwhile. -/
theorem tracked_performTop
    (depth : Nat)
    (command : Command)
    (world : World) :
    relation world (performTop depth command world).2 :=
  tracked_reply
    (tracked_perform tracks (tracked_runScript tracks depth) command world)

end Tracked

/-- The world after the commands of a session. -/
def worldAfter
    (depth : Nat)
    (commands : List Command)
    (world : World) :
    World :=
  commands.foldl
    (fun world command => (performTop depth command { world with log := [] }).2)
    world

/-- What is tracked of commands, and where the log is emptied, is so of sessions. -/
theorem tracked_worldAfter
    {relation : World → World → Prop}
    (tracks : World.TracksTasks relation)
    (emptied : ∀ world : World, relation world { world with log := [] })
    (depth : Nat)
    (commands : List Command)
    (world : World) :
    relation world (worldAfter depth commands world) := by
  refine tracks.foldl ?_ commands world
  intro world command
  have performed :=
    tracked_performTop tracks depth command { world with log := [] }
  exact tracks.trans (emptied world) performed

/--
Whatever is called back while a session performs its commands, each cache goes
on by a run of operations.
-/
theorem follows_worldAfter
    (depth : Nat)
    (commands : List Command)
    (world : World) :
    World.Follows world (worldAfter depth commands world) := by
  have emptied (world : World) : World.Follows world { world with log := [] } :=
    World.follows_of_cells_eq rfl
  exact tracked_worldAfter World.tracks_follows.attempts.tasks emptied depth commands
    world

end NavState.Session
