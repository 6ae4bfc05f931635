import NavState.Proofs.Interplay
import NavState.Proofs.Settlements

namespace NavState.Session

/-!
# Attempts of sessions

The caches and attempts of a session are in an interplay.  Whatever a command
calls back comes to its end before the command replies, so between two commands
nothing is going on.
-/

/-- An interplay of the caches of a session. -/
abbrev Scene := Interplay PageId String String

namespace World

/--
The scene has the caches and the attempts of the world, and what it put in place
is what the journal of the world tells.
-/
structure Reflects (world : World) (scene : Scene) : Prop where
  caches : scene.caches = world.cells.map Cell.cache
  attempts : scene.attempts = world.slots.map Slot.attempt
  installed : scene.installed = world.journal.installed

/--
Whatever makes one world of the other can happen in an interplay, on top of what
is going on there, and comes to its end.
-/
def Plays (before ended : World) : Prop :=
  ∀ scene,
    before.Reflects scene →
    ∃ later,
      scene.Leads later ∧
        ended.Reflects later ∧
        later.frames = scene.frames

theorem Plays.trans
    {before between ended : World}
    (first : before.Plays between)
    (second : between.Plays ended) :
    before.Plays ended := by
  intro scene reflects
  obtain ⟨reached, leads, reflectsReached, same⟩ := first scene reflects
  obtain ⟨later, continues, reflectsLater, sameLater⟩ :=
    second reached reflectsReached
  exact ⟨later, leads.trans continues, reflectsLater, sameLater.trans same⟩

theorem Quiet.reflects
    {before ended : World}
    (quiet : before.Quiet ended)
    {scene : Scene}
    (reflects : before.Reflects scene) :
    ended.Reflects scene where
  caches := by rw [reflects.caches, quiet.cells]
  attempts := by rw [reflects.attempts, quiet.attempts]
  installed := by rw [reflects.installed, quiet.installed]

theorem Quiet.plays
    {before ended : World}
    (quiet : before.Quiet ended) :
    before.Plays ended :=
  fun scene reflects =>
    ⟨scene, .refl scene, quiet.reflects reflects, rfl⟩

theorem Reflects.cache
    {world : World}
    {scene : Scene}
    (reflects : world.Reflects scene)
    {index : Nat}
    {cell : Cell}
    (found : world.cells[index]? = some cell) :
    scene.caches[index]? = some cell.cache := by
  simp [reflects.caches, found]

theorem Reflects.attempt
    {world : World}
    {scene : Scene}
    (reflects : world.Reflects scene)
    {index : Nat}
    {slot : Slot}
    (found : world.slots[index]? = some slot) :
    scene.attempts[index]? = some slot.attempt := by
  simp [reflects.attempts, found]

/-- Frames are not seen in the world, nor is the rest of the world in the scene. -/
theorem Reflects.of_eq
    {world other : World}
    {scene later : Scene}
    (reflects : world.Reflects scene)
    (same :
      (other.cells, other.slots, other.journal.installed) =
        (world.cells, world.slots, world.journal.installed))
    (sameScene :
      (later.caches, later.attempts, later.installed) =
        (scene.caches, scene.attempts, scene.installed)) :
    other.Reflects later := by
  simp only [Prod.mk.injEq] at same sameScene
  obtain ⟨cells, slots, installed⟩ := same
  obtain ⟨caches, attempts, installedLater⟩ := sameScene
  exact ⟨by rw [caches, cells, reflects.caches],
    by rw [attempts, slots, reflects.attempts],
    by rw [installedLater, installed, reflects.installed]⟩

/-- What is not seen in a scene does not happen in one. -/
theorem plays_of_eq
    {before ended : World}
    (same :
      (ended.cells, ended.slots, ended.journal.installed) =
        (before.cells, before.slots, before.journal.installed)) :
    before.Plays ended :=
  fun scene reflects => ⟨scene, .refl scene, reflects.of_eq same rfl, rfl⟩

/-- What is logged is not seen in a scene. -/
theorem plays_record (entry : LogEntry) (world : World) :
    world.Plays (world.record entry) :=
  plays_of_eq rfl

theorem Reflects.putCache
    {world : World}
    {scene : Scene}
    (reflects : world.Reflects scene)
    (index : Nat)
    {ρ : Type}
    (turn : Turn PageId String String ρ)
    (registration : Option (Nat × Callback)) :
    (world.putCache index turn.cache).Reflects
      (scene.takeTurn index turn registration) where
  caches := by
    simp only [Interplay.takeTurn, World.putCache, reflects.caches]
    have seen (cell : Cell) :
        { cell with cache := turn.cache }.cache = turn.cache :=
      rfl
    exact (map_modify_eq_set seen world.cells index).symm
  attempts := reflects.attempts
  installed := reflects.installed

theorem Reflects.putAttempt
    {world : World}
    {scene : Scene}
    (reflects : world.Reflects scene)
    (index : Nat)
    (attempt : Attempt Callback) :
    (world.putAttempt index attempt).Reflects
      { scene with attempts := scene.attempts.set index attempt } where
  caches := reflects.caches
  attempts := by
    rw [attempts_putAttempt, reflects.attempts]
  installed := reflects.installed

/-! ## Turns and callbacks -/

/-- What began last goes on, whatever page is shown. -/
theorem leads_of_proceed?
    {scene later : Scene}
    (observed : PageId)
    (proceeded : scene.proceed? observed = some later) :
    scene.Leads later := by
  have stepped : scene.step? (.proceeds observed) = some later := proceeded
  exact .of_step? stepped

/-- A call that has announced everything returns. -/
theorem leads_return
    {scene : Scene}
    {outer : List (Frame PageId)}
    (frames : scene.frames = .announcing [] none :: outer) :
    scene.Leads { scene with frames := outer } :=
  leads_of_proceed? (.number 0) (by simp [Interplay.proceed?, frames])

section Clients

variable
  {client : Client}
  (continues : ∀ script world, Plays world (client script world))
  {outer : List (Frame PageId)}

include continues

/-- A call announces what it has to, while the listener goes its own ways. -/
theorem leads_deliver
    (calling : Cell)
    {registration : Option (Nat × Callback)}
    (departures : List (Departure PageId))
    {world : World}
    {scene : Scene}
    (reflects : world.Reflects scene)
    (frames : scene.frames = .announcing departures registration :: outer) :
    ∃ later,
      scene.Leads later ∧
        (world.deliver client calling departures).Reflects later ∧
        later.frames = .announcing [] registration :: outer := by
  induction departures generalizing world scene with
  | nil =>
      exact ⟨scene, .refl scene, reflects, frames⟩
  | cons departure rest inductionHypothesis =>
      obtain ⟨counted, quiet, shape⟩ :=
        deliverOne_eq client calling world departure
      let told : Scene :=
        { scene with frames := .announcing rest registration :: outer }
      have announced : scene.proceed? (.number 0) = some told := by
        simp [Interplay.proceed?, frames, told]
      have answered :
          counted.Plays (world.deliverOne client calling departure) := by
        rw [shape]
        split
        · exact (quiet_of_eq rfl).plays
        · exact (plays_record _ counted).trans (continues _ _)
      obtain ⟨reached, leads, reflectsReached, same⟩ :=
        answered told ((quiet.reflects reflects).of_eq rfl rfl)
      obtain ⟨later, leadsLater, reflectsLater, framesLater⟩ :=
        inductionHypothesis reflectsReached same
      exact ⟨later,
        (leads_of_proceed? _ announced).trans (leads.trans leadsLater),
        reflectsLater, framesLater⟩

/-- A turn is delivered until there is nothing left to announce. -/
theorem leads_takeTurn
    {world : World}
    {scene : Scene}
    (reflects : world.Reflects scene)
    (index : Nat)
    (cell : Cell)
    {ρ : Type}
    (turn : Turn PageId String String ρ)
    (registration : Option (Nat × Callback)) :
    ∃ later,
      (scene.takeTurn index turn registration).Leads later ∧
        (world.takeTurn client index cell turn).Reflects later ∧
        later.frames = .announcing [] registration :: scene.frames := by
  have enacted :=
    (quiet_enact index cell turn world).reflects
      (reflects.putCache index turn registration)
  exact leads_deliver continues cell turn.departures enacted rfl

/-- A turn that registers nothing comes to its end. -/
theorem plays_of_takeTurn
    {world : World}
    {scene : Scene}
    (reflects : world.Reflects scene)
    (index : Nat)
    (cell : Cell)
    {ρ : Type}
    (turn : Turn PageId String String ρ) :
    ∃ later,
      (scene.takeTurn index turn none).Leads later ∧
        (world.takeTurn client index cell turn).Reflects later ∧
        later.frames = scene.frames := by
  obtain ⟨announced, leads, reflectsAnnounced, frames⟩ :=
    leads_takeTurn continues reflects index cell turn none
  exact ⟨_, leads.trans (leads_return frames), reflectsAnnounced.of_eq rfl rfl,
    rfl⟩

/-- The callback that is due first runs to its end. -/
theorem leads_runCallback
    {world : World}
    {scene : Scene}
    (reflects : world.Reflects scene)
    (attempt : Nat)
    {outcome : Outcome}
    {callback : Callback}
    {rest : List Callback}
    (frames : scene.frames = .settling outcome (callback :: rest) :: outer) :
    ∃ later,
      scene.Leads later ∧
        (world.runCallback client attempt outcome callback).Reflects later ∧
        later.frames = .settling outcome rest :: outer := by
  let taken : Scene := { scene with frames := .settling outcome rest :: outer }
  let begun := world.note (.begin attempt callback outcome)
  have reflectsTaken : begun.Reflects taken := reflects.of_eq rfl rfl
  have takes (observed : PageId) :
      scene.Leads (taken.runCallback outcome observed callback) :=
    leads_of_proceed? observed
      (by simp [Interplay.proceed?, frames, taken])
  cases callback with
  | script label steps =>
      obtain ⟨later, leads, reflectsLater, same⟩ :=
        (plays_record _ begun).trans (continues steps _) taken reflectsTaken
      exact ⟨later, (takes (.number 0)).trans leads, reflectsLater, same⟩
  | settlement index generation =>
      cases found : world.cells[index]? with
      | none =>
          have foundStill : begun.cells[index]? = none := found
          have missing : taken.caches[index]? = none := by
            simp [reflectsTaken.caches, foundStill]
          refine ⟨taken, ?_, ?_, rfl⟩
          · have same :
                taken.runCallback outcome (.number 0)
                    (.settlement index generation) =
                  taken := by
              simp only [Interplay.runCallback, missing]
            exact same ▸ takes (.number 0)
          · simp only [World.runCallback, settleGeneration]
            rw [foundStill]
            exact reflectsTaken
      | some cell =>
          have foundStill : begun.cells[index]? = some cell := found
          let turn := cell.cache.settle generation outcome (world.observed cell)
          obtain ⟨later, leads, reflectsLater, same⟩ :=
            plays_of_takeTurn continues reflectsTaken index cell turn
          refine ⟨later, ?_, ?_, same⟩
          · have settles :
                taken.runCallback outcome (world.observed cell)
                    (.settlement index generation) =
                  taken.takeTurn index turn none := by
              simp only [Interplay.runCallback, reflectsTaken.cache foundStill, turn]
            exact (settles ▸ takes (world.observed cell)).trans leads
          · simp only [World.runCallback, settleGeneration]
            rw [foundStill]
            exact reflectsLater

/-- All callbacks that are due run to their ends, one after the other. -/
theorem leads_callbacks
    (attempt : Nat)
    {outcome : Outcome}
    (callbacks : List Callback)
    {world : World}
    {scene : Scene}
    (reflects : world.Reflects scene)
    (frames : scene.frames = .settling outcome callbacks :: outer) :
    ∃ later,
      scene.Leads later ∧
        (callbacks.foldl (World.runCallback client attempt outcome)
          world).Reflects later ∧
        later.frames = outer := by
  induction callbacks generalizing world scene with
  | nil =>
      let returned : Scene := { scene with frames := outer }
      have returns : scene.proceed? (.number 0) = some returned := by
        simp [Interplay.proceed?, frames, returned]
      exact ⟨returned, leads_of_proceed? _ returns, reflects.of_eq rfl rfl, rfl⟩
  | cons callback rest inductionHypothesis =>
      obtain ⟨reached, leads, reflectsReached, same⟩ :=
        leads_runCallback continues reflects attempt frames
      obtain ⟨later, leadsLater, reflectsLater, framesLater⟩ :=
        inductionHypothesis reflectsReached same
      exact ⟨later, leads.trans leadsLater, reflectsLater, framesLater⟩

/-- A callback that is registered waits, or it runs to its end. -/
theorem leads_register
    {world : World}
    {scene : Scene}
    (reflects : world.Reflects scene)
    (index : Nat)
    (callback : Callback) :
    ∃ later,
      (scene.register index callback).Leads later ∧
        (world.onSettle client index callback).Reflects later ∧
        later.frames = scene.frames := by
  cases found : world.slots[index]? with
  | none =>
      have missing : scene.attempts[index]? = none := by
        simp [reflects.attempts, found]
      simp only [Interplay.register, missing, onSettle, found]
      exact ⟨scene, .refl scene, reflects, rfl⟩
  | some slot =>
      have attempt := reflects.attempt found
      let registered := world.note (.register index callback)
      have noted : registered.Reflects scene := reflects.of_eq rfl rfl
      cases due : (slot.attempt.onSettle callback).2 with
      | none =>
          simp only [Interplay.register, attempt, onSettle, found, due]
          exact ⟨_, .refl _, noted.putAttempt index _, rfl⟩
      | some outcome =>
          simp only [Interplay.register, attempt, onSettle, found, due]
          have running :
              registered.Reflects
                { scene with
                  frames := .settling outcome [callback] :: scene.frames } :=
            noted.of_eq rfl rfl
          exact leads_callbacks continues index [callback] running rfl

theorem plays_settleAttempt
    (index : Nat)
    (resolver : Resolver)
    (outcome : Outcome)
    (world : World) :
    world.Plays (world.settleAttempt client index resolver outcome) := by
  intro scene reflects
  cases found : world.slots[index]? with
  | none =>
      rw [settleAttempt_eq, found]
      exact ⟨scene, .refl scene, reflects, rfl⟩
  | some slot =>
      let settled := scene.settle index resolver outcome slot.attempt
      have stepped :
          scene.step? (.settles index resolver outcome) = some settled := by
        simp [Interplay.step?, reflects.attempt found, settled]
      have stored :
          (world.putAttempt index
            (resolver.settle outcome slot.attempt).2.1).Reflects settled :=
        (reflects.putAttempt index _).of_eq rfl rfl
      obtain ⟨later, leads, reflectsLater, same⟩ :=
        leads_callbacks continues index _ stored rfl
      rw [settleAttempt_eq, found]
      exact ⟨later, (Interplay.Leads.of_step? stepped).trans leads,
        reflectsLater, same⟩

/-- A turn that registers a callback does so once its listeners have returned. -/
theorem leads_takeTurn_onSettle
    {world : World}
    {scene : Scene}
    (reflects : world.Reflects scene)
    (index : Nat)
    (cell : Cell)
    {ρ : Type}
    (turn : Turn PageId String String ρ)
    (attempt : Nat)
    (callback : Callback) :
    ∃ later,
      (scene.takeTurn index turn (some (attempt, callback))).Leads later ∧
        ((world.takeTurn client index cell turn).onSettle client attempt
            callback).Reflects later ∧
        later.frames = scene.frames := by
  obtain ⟨announced, leadsAnnounced, reflectsAnnounced, frames⟩ :=
    leads_takeTurn continues reflects index cell turn (some (attempt, callback))
  let called : Scene :=
    { announced with frames := .announcing [] none :: scene.frames }
  have reflectsCalled :
      (world.takeTurn client index cell turn).Reflects called :=
    reflectsAnnounced.of_eq rfl rfl
  have registers :
      announced.proceed? (.number 0) = some (called.register attempt callback) := by
    simp [Interplay.proceed?, frames, called]
  obtain ⟨registered, leadsRegistered, reflectsRegistered, framesLater⟩ :=
    leads_register continues reflectsCalled attempt callback
  have leads :=
    (leadsAnnounced.trans (leads_of_proceed? _ registers)).trans
      (leadsRegistered.trans (leads_return framesLater))
  exact ⟨_, leads, reflectsRegistered.of_eq rfl rfl, rfl⟩

/-- An announcement registers the settlement of what it puts in place. -/
theorem plays_announceAttempt
    {world : World}
    {index attempt : Nat}
    {cell : Cell}
    {slot : Slot}
    (found : world.cells[index]? = some cell)
    (foundSlot : world.slots[attempt]? = some slot) :
    world.Plays
      (world.announceAttempt client index cell attempt slot.attempt.id) := by
  intro scene reflects
  let turn := cell.cache.announce slot.attempt.id (world.observed cell)
  have hooks :
      scene.step? (.hooks index attempt (world.observed cell)) =
        some (scene.hook index attempt turn) := by
    simp [Interplay.step?, reflects.cache found, reflects.attempt foundSlot, turn]
  have leadsHooked := Interplay.Leads.of_step? hooks
  cases accepted : turn.result with
  | none =>
      have ignores :
          scene.hook index attempt turn = scene.takeTurn index turn none := by
        simp [Interplay.hook, accepted, Interplay.takeTurn]
      have announces :
          world.announceAttempt client index cell attempt slot.attempt.id =
            world.takeTurn client index cell turn := by
        simp [announceAttempt, accept, accepted, turn, noteAccepted]
      obtain ⟨later, leads, reflectsLater, same⟩ :=
        plays_of_takeTurn continues reflects index cell turn
      rw [← ignores] at leads
      rw [announces]
      exact ⟨later, leadsHooked.trans leads, reflectsLater, same⟩
  | some generation =>
      let callback : Callback := .settlement index generation
      let installation : Installation := ⟨index, generation, attempt⟩
      let installing : Scene :=
        { scene with installed := scene.installed ++ [installation] }
      have accepts :
          scene.hook index attempt turn =
            installing.takeTurn index turn (some (attempt, callback)) := by
        simp [Interplay.hook, accepted, Interplay.takeTurn, installing,
          installation, callback, Installation.callback]
      let noted := world.note (.install index generation (some attempt))
      have announces :
          world.announceAttempt client index cell attempt slot.attempt.id =
            (noted.takeTurn client index cell turn).onSettle client attempt
              callback := by
        simp [announceAttempt, accept, accepted, turn, callback, noted,
          noteAccepted]
      have reflectsInstalling : noted.Reflects installing :=
        ⟨reflects.caches, reflects.attempts,
          congrArg (· ++ [installation]) reflects.installed⟩
      obtain ⟨registered, leads, reflectsRegistered, same⟩ :=
        leads_takeTurn_onSettle continues reflectsInstalling index cell turn
          attempt callback
      rw [announces]
      exact ⟨registered, leadsHooked.trans (accepts ▸ leads), reflectsRegistered,
        same⟩

end Clients

theorem tracksTurns_plays : TracksTurns Plays where
  trans := Plays.trans
  still := fun still => still.toQuiet.plays
  change := fun _ change => (quiet_change _ change _).plays
  turn := by
    intro client continues world index cell found ρ turn operation takes scene
      reflects
    have called :
        scene.step? (.calls index operation) =
          some (scene.takeTurn index turn none) := by
      simp [Interplay.step?, reflects.cache found, Interplay.takeTurn, takes.cache,
        takes.departures]
    obtain ⟨later, leads, reflectsLater, same⟩ :=
      plays_of_takeTurn continues reflects index cell turn
    exact ⟨later, (Interplay.Leads.of_step? called).trans leads, reflectsLater,
      same⟩
  cell := by
    intro world cell capacity page built _ scene reflects
    have builds :
        scene.step? (.builds capacity page) =
          some { scene with caches := scene.caches ++ [cell.cache] } := by
      simp [Interplay.step?, built]
    refine ⟨_, .of_step? builds, ⟨?_, reflects.attempts, reflects.installed⟩, rfl⟩
    simp [reflects.caches]

theorem tracksAttempts_plays : TracksAttempts Plays where
  toTracksCalls := tracksTurns_plays.toTracksCalls
  announce := fun continues _ _ _ _ _ found foundSlot =>
    plays_announceAttempt continues found foundSlot
  hosted := fun continues _ _ _ found id outcome script =>
    tracked_announceHosted (tracksTurns_plays.held fun _ _ _ => plays_of_eq rfl)
      (fun script world _ => continues script world) found id outcome script []
  awaits := by
    intro client continues attempt label steps world scene reflects
    have awaited :
        scene.step? (.awaits attempt label steps) =
          some (scene.register attempt (.script label steps)) :=
      rfl
    obtain ⟨later, leads, reflectsLater, same⟩ :=
      leads_register continues reflects attempt (.script label steps)
    exact ⟨later, (Interplay.Leads.of_step? awaited).trans leads, reflectsLater,
      same⟩
  settle := plays_settleAttempt
  opens := by
    intro id resolver world scene reflects
    have opened :
        scene.step? (.opens id) =
          some { scene with attempts := scene.attempts ++ [Attempt.start id] } :=
      rfl
    refine ⟨_, .of_step? opened, ⟨reflects.caches, ?_, reflects.installed⟩, rfl⟩
    simp [reflects.attempts]

end World

/-! ## Whole sessions -/

/-- The commands of a session play one after the other. -/
theorem plays_worldAfter
    (depth : Nat)
    (commands : List Command)
    (world : World) :
    world.Plays (worldAfter depth commands world) := by
  have emptied (world : World) : world.Plays { world with log := [] } :=
    World.plays_of_eq rfl
  exact tracked_worldAfter World.tracksAttempts_plays.tasks emptied depth commands
    world

/-- What a session put in place for an attempt and has in flight waits for it. -/
theorem waits_worldAfter
    (depth : Nat)
    (tracing : Bool)
    (commands : List Command)
    {installation : Installation}
    (installed :
      installation ∈
        (worldAfter depth commands { tracing := tracing }).journal.installed)
    {cell : Cell}
    {pending : Pending String String}
    (found :
      (worldAfter depth commands
        { tracing := tracing }).cells[installation.cache]? = some cell)
    (inFlight : cell.cache.pending = some pending)
    (own : pending.generation = installation.generation) :
    ∃ slot,
      (worldAfter depth commands
          { tracing := tracing }).slots[installation.attempt]? = some slot ∧
        installation.callback ∈ slot.attempt.callbacks ∧
        slot.attempt.outcome? = none := by
  have reflects : ({ tracing := tracing } : World).Reflects {} := ⟨rfl, rfl, rfl⟩
  obtain ⟨scene, ⟨events, happened⟩, reflectsScene, quiet⟩ :=
    plays_worldAfter depth commands _ {} reflects
  rw [← reflectsScene.installed] at installed
  obtain ⟨attempt, foundAttempt, waits, unsettled⟩ :=
    (Interplay.sound_of_nothing.after? happened).waits_of_quiet quiet installed
      (reflectsScene.cache found) inFlight own
  rw [reflectsScene.attempts, List.getElem?_map, Option.map_eq_some_iff]
    at foundAttempt
  obtain ⟨slot, foundSlot, rfl⟩ := foundAttempt
  exact ⟨slot, foundSlot, waits, unsettled⟩

/-- The journal of a session tells of whatever is in flight. -/
theorem tells_worldAfter
    (depth : Nat)
    (tracing : Bool)
    (commands : List Command)
    {index : Nat}
    {cell : Cell}
    {pending : Pending String String}
    (found :
      (worldAfter depth commands { tracing := tracing }).cells[index]? = some cell)
    (inFlight : cell.cache.pending = some pending) :
    (worldAfter depth commands { tracing := tracing }).journal.Tells index
      pending.generation := by
  obtain ⟨capacity, page, fresh, operations, built, reached, underwent⟩ :=
    (traced_worldAfter depth tracing commands).cells index cell found
  rw [reached] at inFlight
  exact underwent.told _
    (List.mem_of_getLast? (Cache.getLast?_accepted_of_pending built inFlight))

end NavState.Session

namespace NavState.Interplay

variable {ι κ ν : Type} [DecidableEq ι] [DecidableEq κ]

/--
A settled attempt leaves no cache in flight.  Whenever nothing is going on in an
interplay and a cache is in flight with a pending store that it put in place for
an attempt, that attempt has no outcome yet, and the settlement of the pending
store waits for it.

The same holds between any two commands of a session, whatever listeners and
callbacks announced, settled, cleared or let go of meanwhile: whenever a cache of
the session is in flight with a pending store that it put in place for an attempt,
that attempt has no outcome yet, and the settlement waits for it.  The journal
tells of every pending store for which attempt it was put in place, or that it was
for one of the host.
-/
theorem settled_attempt_leaves_no_cache_in_flight
    {events : List (Event ι κ ν)}
    {state : Interplay ι κ ν}
    (happened : ({} : Interplay ι κ ν).after? events = some state)
    (quiet : state.frames = []) :
    (∀ installation ∈ state.installed,
      ∀ cache pending,
        state.caches[installation.cache]? = some cache →
        cache.pending = some pending →
        pending.generation = installation.generation →
        ∃ attempt,
          state.attempts[installation.attempt]? = some attempt ∧
            installation.callback ∈ attempt.callbacks ∧
            attempt.outcome? = none) ∧
    ∀ (depth : Nat) (tracing : Bool) (commands : List Session.Command),
      let world := Session.worldAfter depth commands { tracing := tracing }
      (∀ installation ∈ world.journal.installed,
        ∀ cell pending,
          world.cells[installation.cache]? = some cell →
          cell.cache.pending = some pending →
          pending.generation = installation.generation →
          ∃ slot,
            world.slots[installation.attempt]? = some slot ∧
              installation.callback ∈ slot.attempt.callbacks ∧
              slot.attempt.outcome? = none) ∧
        ∀ index cell pending,
          world.cells[index]? = some cell →
          cell.cache.pending = some pending →
          world.journal.Tells index pending.generation := by
  refine ⟨?_, ?_⟩
  · intro installation installed cache pending found inFlight own
    exact (sound_of_nothing.after? happened).waits_of_quiet quiet installed found
      inFlight own
  · intro depth tracing commands world
    refine ⟨?_, ?_⟩
    · intro installation installed cell pending found inFlight own
      exact Session.waits_worldAfter depth tracing commands installed found inFlight
        own
    · intro index cell pending found inFlight
      exact Session.tells_worldAfter depth tracing commands found inFlight

/--
A listener settles an attempt between the moment its pending store is put in
place and the registration with it, which therefore commits the store at once.
Only the attempt that is announced last leaves the cache in flight, and it has no
outcome; the one that was superseded has none either.
-/
theorem settled_attempt_leaves_no_cache_in_flight_of_listener :
    let events : List (Event Nat Nat Nat) :=
      [.builds 2 1, .opens 7, .opens 8, .opens 9,
        .hooks 0 0 2, .proceeds 2, .proceeds 2,
        .hooks 0 1 2, .proceeds 2,
        .settles 1 {} .succeeded, .proceeds 2,
        .proceeds 2, .proceeds 2, .proceeds 2, .proceeds 2, .proceeds 2,
        .hooks 0 2 2, .proceeds 2, .proceeds 2]
    ∃ state : Interplay Nat Nat Nat,
      (({} : Interplay Nat Nat Nat).after? events = some state ∧
        state.frames = []) ∧
      state.installed = [⟨0, 1, 0⟩, ⟨0, 2, 1⟩, ⟨0, 3, 2⟩] ∧
      state.attempts.map Attempt.outcome? = [none, some .succeeded, none] ∧
      (∃ cache pending,
        state.caches[0]? = some cache ∧
          cache.pending = some pending ∧
          pending.generation = 3) ∧
      ∃ attempt,
        state.attempts[2]? = some attempt ∧
          Session.Installation.callback ⟨0, 3, 2⟩ ∈ attempt.callbacks ∧
          attempt.outcome? = none := by
  intro events
  obtain ⟨state, happened, quiet, installed, outcomes, cache, pending, found,
      inFlight, own⟩ :
      ∃ state : Interplay Nat Nat Nat,
        ({} : Interplay Nat Nat Nat).after? events = some state ∧
          state.frames = [] ∧
          state.installed = [⟨0, 1, 0⟩, ⟨0, 2, 1⟩, ⟨0, 3, 2⟩] ∧
          state.attempts.map Attempt.outcome? =
            [none, some .succeeded, none] ∧
          ∃ cache pending,
            state.caches[0]? = some cache ∧
              cache.pending = some pending ∧
              pending.generation = 3 :=
    ⟨_, rfl, rfl, rfl, rfl, _, _, rfl, rfl, rfl⟩
  have law :=
    (settled_attempt_leaves_no_cache_in_flight happened quiet).1 ⟨0, 3, 2⟩
      (by simp [installed]) cache pending found inFlight own
  exact ⟨state, ⟨happened, quiet⟩, installed, outcomes,
    ⟨cache, pending, found, inFlight, own⟩, law⟩

end NavState.Interplay
