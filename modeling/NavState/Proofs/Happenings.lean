import NavState.Proofs.Custody
import NavState.Proofs.Fleet

namespace NavState.Session

/-!
# Sessions of caches that share a registry

Whatever the commands of a session call back, what becomes of the caches is made
up of happenings in a fleet, as long as no cache is built and nobody else has one
of their metrics: a turn of a cache is a call, then come the announcements of
what left, each with whatever the listener does, and then the call returns.
-/

namespace World

/-- The metrics of all caches. -/
def rows (world : World) : List Meter :=
  (world.cells.map Cell.meters).flatMap Meters.rows

theorem mem_rows
    {world : World}
    {index : Nat}
    {meters : Meters}
    (owns : world.Owns index meters)
    {meter : Meter}
    (member : meter ∈ meters.rows) :
    meter ∈ world.rows := by
  obtain ⟨cell, found, rfl⟩ := owns
  refine List.mem_flatMap.mpr ⟨cell.meters, ?_, member⟩
  exact List.mem_map_of_mem (List.mem_of_getElem? found)

theorem rows_subset_of_grows
    {before ended : World}
    (grows : before.Grows ended) :
    before.rows ⊆ ended.rows := by
  intro meter isRow
  obtain ⟨meters, isThere, member⟩ := List.mem_flatMap.mp isRow
  obtain ⟨cell, isCell, rfl⟩ := List.mem_map.mp isThere
  obtain ⟨index, found⟩ := List.mem_iff_getElem?.mp isCell
  exact mem_rows (grows.cells index cell found) member

theorem rows_putCache
    (index : Nat)
    (cache : Cache PageId String String)
    (world : World) :
    (world.putCache index cache).rows = world.rows := by
  have kept :
      (world.putCache index cache).cells.map Cell.meters =
        world.cells.map Cell.meters := by
    refine List.ext_getElem? fun place => ?_
    simp only [putCache, List.getElem?_map, List.getElem?_modify]
    split
    · simp [Option.map_map, Function.comp_def]
    · simp
  rw [rows, kept, rows]

theorem length_le_of_grows
    {before ended : World}
    (grows : before.Grows ended) :
    before.cells.length ≤ ended.cells.length := by
  by_contra shorter
  have inside : ended.cells.length < before.cells.length := by omega
  obtain ⟨later, found, _⟩ :=
    grows.cells _ _ (List.getElem?_eq_getElem inside)
  rw [List.getElem?_eq_none (Nat.le_refl _)] at found
  cases found

/--
No cache was built until the world has become another one, and no metric that
was asked for by name is one of a cache.
-/
structure Undisturbed (before ended : World) : Prop where
  built : ended.cells.length ≤ before.cells.length
  named : ended.rows.Disjoint (ended.counters ++ ended.gauges)

instance (before ended : World) : Decidable (before.Undisturbed ended) :=
  decidable_of_iff
    (ended.cells.length ≤ before.cells.length ∧
      ∀ meter ∈ ended.rows, meter ∉ ended.counters ++ ended.gauges)
    ⟨fun undisturbed => ⟨undisturbed.1, undisturbed.2⟩,
      fun undisturbed => ⟨undisturbed.built, undisturbed.named⟩⟩

theorem Undisturbed.first
    {before between ended : World}
    (undisturbed : before.Undisturbed ended)
    (grows : between.Grows ended) :
    before.Undisturbed between where
  built := (length_le_of_grows grows).trans undisturbed.built
  named := by
    intro meter isRow isNamed
    refine undisturbed.named (rows_subset_of_grows grows isRow) ?_
    exact (List.mem_append.mp isNamed).elim
      (fun counter => List.mem_append_left _ (grows.counters counter))
      (fun gauge => List.mem_append_right _ (grows.gauges gauge))

theorem Undisturbed.second
    {before between ended : World}
    (undisturbed : before.Undisturbed ended)
    (grows : before.Grows between) :
    between.Undisturbed ended where
  built := undisturbed.built.trans (length_le_of_grows grows)
  named := undisturbed.named

/-! ## Copies of words -/

/-- The word of a metric is copied, if it has one. -/
def Copies (meter : Meter) (copy world : World) : Prop :=
  ∀ word, copy.word? meter = some word → world.word? meter = some word

variable {meter : Meter} {copy world : World}

theorem Copies.change
    (copies : Copies meter copy world)
    (changed : Meter)
    (change : Metric.Change) :
    Copies meter (copy.change changed change) (world.change changed change) := by
  intro word found
  by_cases same : meter = changed
  · subst same
    rw [word?_change_self] at found ⊢
    obtain ⟨before, isBefore, rfl⟩ := Option.map_eq_some_iff.mp found
    rw [copies before isBefore]
    rfl
  · rw [word?_change_of_ne same] at found ⊢
    exact copies word found

theorem Copies.file
    (copies : Copies meter copy world)
    (meters : Meters)
    (report : Report PageId) :
    Copies meter (copy.file meters report) (world.file meters report) := by
  cases report with
  | count tally =>
      exact copies.change _ _
  | size pages =>
      exact copies.change _ _
  | note note =>
      intro word found
      rw [World.file, trace_eq] at found ⊢
      exact copies word found

theorem Copies.fileAll
    (copies : Copies meter copy world)
    (meters : Meters)
    (reports : List (Report PageId)) :
    Copies meter (reports.foldl (World.file meters) copy)
      (reports.foldl (World.file meters) world) := by
  induction reports generalizing copy world with
  | nil =>
      exact copies
  | cons report rest inductionHypothesis =>
      exact inductionHypothesis (copies.file meters report)

theorem Copies.counting
    (copies : Copies meter copy world)
    {current cell : Cell}
    (same : current.meters = cell.meters)
    (departure : Departure PageId) :
    Copies meter (copy.counting current departure)
      (world.counting cell departure) := by
  rw [World.counting, World.counting, same]
  split
  · exact copies.change _ _
  · exact copies

end World

namespace Fleet

/-! ## Happenings that follow each other -/

/-- Happenings lead from one fleet to the other. -/
def Leads (fleet next : Fleet) : Prop :=
  ∃ happenings, fleet.after? happenings = some next

theorem Leads.refl (fleet : Fleet) : fleet.Leads fleet :=
  ⟨[], rfl⟩

theorem Leads.trans
    {fleet between next : Fleet}
    (first : fleet.Leads between)
    (second : between.Leads next) :
    fleet.Leads next := by
  obtain ⟨earlier, reached⟩ := first
  obtain ⟨later, goesOn⟩ := second
  exact ⟨earlier ++ later, by rw [after?_append, reached]; exact goesOn⟩

theorem leads_live
    {fleet : Fleet}
    {index : Nat}
    {moment : Moment PageId String String}
    {member : Member}
    {cell : Cell}
    {next : Conversation PageId String String}
    (isMember : fleet.members[index]? = some member)
    (found : fleet.world.cells[index]? = some cell)
    (stepped : member.conversation.step? moment = some next) :
    fleet.Leads (fleet.live index cell member moment next) := by
  refine ⟨[.lives index moment], ?_⟩
  simp [after?, step?, isMember, found, stepped]

/-- What is due to be announced, by the names of the caches. -/
def dues (fleet : Fleet) :
    List (String × List (List (Notice PageId String String))) :=
  fleet.members.map fun member => (member.name, member.conversation.due)

theorem getElem?_dues
    {fleet : Fleet}
    {index : Nat}
    {member : Member}
    (isMember : fleet.members[index]? = some member) :
    fleet.dues[index]? = some (member.name, member.conversation.due) := by
  simp [dues, isMember]

/-- Whatever is due at an index is due for the member there. -/
theorem member_of_dues
    {fleet : Fleet}
    {index : Nat}
    {name : String}
    {due : List (List (Notice PageId String String))}
    (isDue : fleet.dues[index]? = some (name, due)) :
    ∃ member,
      fleet.members[index]? = some member ∧
        member.name = name ∧
        member.conversation.due = due := by
  rw [dues, List.getElem?_map] at isDue
  obtain ⟨member, isMember, same⟩ := Option.map_eq_some_iff.mp isDue
  exact ⟨member, isMember, congrArg Prod.fst same, congrArg Prod.snd same⟩

theorem dues_live
    (index : Nat)
    (cell : Cell)
    (member : Member)
    (moment : Moment PageId String String)
    (next : Conversation PageId String String)
    (fleet : Fleet) :
    (fleet.live index cell member moment next).dues =
      fleet.dues.set index (member.name, next.due) := by
  simp [dues, live, List.map_set]

theorem names_eq_of_dues_eq
    {fleet next : Fleet}
    (same : next.dues = fleet.dues) :
    next.names = fleet.names := by
  have named (fleet : Fleet) : fleet.names = fleet.dues.map Prod.fst := by
    simp [names, dues]
  rw [named, same, ← named]

/-! ## Fleets that mirror a world -/

/-- A fleet has the caches of a world, and their metrics have the same words. -/
structure Mirrors
    (library : Metric.Library)
    (world : World)
    (fleet : Fleet) :
    Prop where
  sound : fleet.Sound library
  cells : fleet.world.cells = world.cells
  words : ∀ meter ∈ world.rows, World.Copies meter fleet.world world

namespace Mirrors

variable
  {library : Metric.Library}
  {fleet : Fleet}
  {world : World}

/-- Whoever leaves caches and words alone is not noticed. -/
theorem of_copies
    (mirrors : fleet.Mirrors library world)
    {ended : World}
    (cells : ended.cells = world.cells)
    (copies : ∀ meter ∈ world.rows, World.Copies meter world ended) :
    fleet.Mirrors library ended where
  sound := mirrors.sound
  cells := mirrors.cells.trans cells.symm
  words := by
    have same : ended.rows = world.rows := by
      rw [World.rows, cells, World.rows]
    intro meter isRow word found
    rw [same] at isRow
    exact copies meter isRow word (mirrors.words meter isRow word found)

/-- A turn of a cache is a call. -/
theorem call
    (mirrors : fleet.Mirrors library world)
    {index : Nat}
    {cell : Cell}
    (found : world.cells[index]? = some cell)
    {member : Member}
    (isMember : fleet.members[index]? = some member)
    {ρ : Type}
    {turn : Turn PageId String String ρ}
    {operation : Operation PageId String String}
    (takes : World.Takes cell.cache operation turn) :
    (fleet.live index cell member (.calls operation)
        (member.conversation.call operation)).Mirrors library
      (world.enact index cell turn) := by
  have foundCopy : fleet.world.cells[index]? = some cell := by
    rw [mirrors.cells]
    exact found
  have enacted := (World.quiet_enact index cell turn world).cells
  have copied :=
    (World.quiet_enact index cell (cell.cache.perform operation)
      fleet.world).cells
  refine ⟨sound_lives mirrors.sound isMember foundCopy rfl, ?_, ?_⟩
  · refine copied.trans (Eq.trans ?_ enacted.symm)
    simp only [World.putCache, mirrors.cells, takes.cache]
  · intro meter isRow
    rw [World.rows, enacted, ← World.rows, World.rows_putCache] at isRow
    have placed :
        World.Copies meter
          (fleet.world.putCache index (cell.cache.perform operation).cache)
          (world.putCache index turn.cache) :=
      mirrors.words meter isRow
    rw [World.enact, takes.reports]
    exact placed.fileAll cell.meters _

/-- What is due to be announced is counted. -/
theorem announce
    (mirrors : fleet.Mirrors library world)
    {index : Nat}
    {current cell : Cell}
    (found : world.cells[index]? = some current)
    (same : current.meters = cell.meters)
    {member : Member}
    (isMember : fleet.members[index]? = some member)
    {notice : Notice PageId String String}
    {rest : List (Notice PageId String String)}
    {outer : List (List (Notice PageId String String))}
    (due : member.conversation.due = (notice :: rest) :: outer) :
    ∃ next,
      fleet.Leads next ∧
        next.Mirrors library (world.counting cell notice.departure) ∧
        next.dues = fleet.dues.set index (member.name, rest :: outer) := by
  have foundCopy : fleet.world.cells[index]? = some current := by
    rw [mirrors.cells]
    exact found
  let told : Conversation PageId String String :=
    { member.conversation with
      due := rest :: outer
      announced := member.conversation.announced ++ [notice] }
  have stepped : member.conversation.step? .announces = some told := by
    simp only [Conversation.step?, due, told]
  let next := fleet.live index current member .announces told
  have delivered :
      next.world =
        fleet.world.deliverOne (fun _ world => world) current
          notice.departure := by
    simp only [next, live, World.live, due]
  have counted := (World.quiet_counting cell notice.departure world).cells
  refine ⟨next, leads_live isMember foundCopy stepped,
    ⟨sound_lives mirrors.sound isMember foundCopy stepped, ?_, ?_⟩,
    dues_live ..⟩
  · rw [delivered, (World.depot_deliverOne due fleet.world).1.cells, counted]
    exact mirrors.cells
  · intro meter isRow word isWord
    rw [World.rows, counted, ← World.rows] at isRow
    refine (mirrors.words meter isRow).counting same notice.departure word ?_
    rw [delivered, World.deliverOne_counting] at isWord
    split at isWord
    · exact isWord
    · exact isWord

/-- A call with nothing left to announce returns. -/
theorem returns
    (mirrors : fleet.Mirrors library world)
    {index : Nat}
    {name : String}
    {outer : List (List (Notice PageId String String))}
    (due : fleet.dues[index]? = some (name, [] :: outer)) :
    ∃ next,
      fleet.Leads next ∧
        next.Mirrors library world ∧
        next.dues = fleet.dues.set index (name, outer) := by
  obtain ⟨member, isMember, rfl, isDue⟩ := member_of_dues due
  obtain ⟨cell, found, _⟩ := mirrors.sound.cells index member isMember
  let returned : Conversation PageId String String :=
    { member.conversation with due := outer }
  have stepped : member.conversation.step? .returns = some returned := by
    simp only [Conversation.step?, isDue, returned]
  have sound := sound_lives mirrors.sound isMember found stepped
  exact ⟨fleet.live index cell member .returns returned,
    leads_live isMember found stepped,
    ⟨sound, mirrors.cells, mirrors.words⟩, dues_live ..⟩

end Mirrors

end Fleet

namespace World

/-! ## What has become of a world -/

/-- What has become of a world has happened in the fleet that mirrors it. -/
structure Happens (before ended : World) : Prop where
  grows : before.Grows ended
  leads :
    before.Undisturbed ended →
    ∀ (library : Metric.Library) (fleet : Fleet),
      fleet.Mirrors library before →
      ∃ next,
        fleet.Leads next ∧ next.Mirrors library ended ∧ next.dues = fleet.dues

theorem Happens.trans
    {before between ended : World}
    (first : before.Happens between)
    (second : between.Happens ended) :
    before.Happens ended where
  grows := first.grows.trans second.grows
  leads := by
    intro undisturbed library fleet mirrors
    obtain ⟨reached, leads, mirrorsReached, same⟩ :=
      first.leads (undisturbed.first second.grows) library fleet mirrors
    obtain ⟨next, goesOn, mirrorsNext, sameNext⟩ :=
      second.leads (undisturbed.second first.grows) library reached
        mirrorsReached
    exact ⟨next, leads.trans goesOn, mirrorsNext, sameNext.trans same⟩

/-- Nothing has happened to whom caches and words have stayed the same. -/
theorem happens_of_copies
    {before ended : World}
    (grows : before.Grows ended)
    (cells : ended.cells = before.cells)
    (copies :
      before.Undisturbed ended →
      ∀ meter ∈ before.rows, Copies meter before ended) :
    before.Happens ended where
  grows := grows
  leads := fun undisturbed _ fleet mirrors =>
    ⟨fleet, .refl fleet, mirrors.of_copies cells (copies undisturbed), rfl⟩

theorem happens_of_eq
    {before ended : World}
    (same :
      (ended.cells, ended.depot, ended.counters, ended.gauges) =
        (before.cells, before.depot, before.counters, before.gauges)) :
    before.Happens ended := by
  simp only [Prod.mk.injEq] at same
  obtain ⟨cells, depot, counters, gauges⟩ := same
  refine happens_of_copies ?_ cells fun _ meter _ word found => ?_
  · exact grows_of_eq cells (by rw [counters]; exact List.Subset.refl _)
      (by rw [gauges]; exact List.Subset.refl _)
  · cases meter with
    | stored vector address =>
        rw [word?, depot]
        exact found
    | _ =>
        cases found

theorem Still.happens
    {before ended : World}
    (still : before.Still ended) :
    before.Happens ended :=
  happens_of_copies still.grows still.cells
    fun _ _ _ _ found => word?_of_keeps still.words found

section Clients

variable
  {client : Client}
  (continues : ∀ script world, Happens world (client script world))

include continues

/-- What left is announced, with whatever the listener does. -/
theorem happens_deliver
    {index : Nat}
    {cell : Cell}
    {name : String}
    {outer : List (List (Notice PageId String String))}
    {notices : List (Notice PageId String String)}
    {world : World}
    {library : Metric.Library}
    {fleet : Fleet}
    (mirrors : fleet.Mirrors library world)
    (owns : world.Owns index cell.meters)
    (due : fleet.dues[index]? = some (name, notices :: outer))
    (undisturbed :
      world.Undisturbed
        (world.deliver client cell (notices.map Notice.departure))) :
    ∃ next,
      fleet.Leads next ∧
        next.Mirrors library
          (world.deliver client cell (notices.map Notice.departure)) ∧
        next.dues = fleet.dues.set index (name, [] :: outer) := by
  induction notices generalizing world fleet with
  | nil =>
      refine ⟨fleet, .refl fleet, mirrors, ?_⟩
      obtain ⟨inside, same⟩ := List.getElem?_eq_some_iff.mp due
      rw [← same, List.set_getElem_self]
  | cons notice rest inductionHypothesis =>
      let counted := world.counting cell notice.departure
      let delivered := world.deliverOne client cell notice.departure
      have grows (script : Script) (world : World) :
          world.Grows (client script world) :=
        (continues script world).grows
      have ends :
          delivered.Grows
            (delivered.deliver client cell (rest.map Notice.departure)) :=
        grows_deliver grows cell _ delivered
      have counts : world.Grows counted :=
        (quiet_counting cell notice.departure world).grows
      have answered : counted.Happens delivered := by
        simp only [delivered, deliverOne_counting]
        split
        · exact happens_of_eq rfl
        · next listener _ =>
            have told :
                counted.Happens
                  (counted.record (.departed notice.departure listener.cache)) :=
              happens_of_eq rfl
            exact told.trans (continues _ _)
      obtain ⟨current, found, sameMeters⟩ := owns
      have inside := (List.getElem?_eq_some_iff.mp due).1
      obtain ⟨member, isMember, rfl, isDue⟩ := Fleet.member_of_dues due
      obtain ⟨told, leads, mirrorsTold, dueTold⟩ :=
        mirrors.announce found sameMeters isMember isDue
      obtain ⟨reached, answers, mirrorsReached, dueReached⟩ :=
        answered.leads ((undisturbed.second counts).first ends) library told
          mirrorsTold
      have dueNext :
          reached.dues[index]? = some (member.name, rest :: outer) := by
        rw [dueReached, dueTold, List.getElem?_set_self inside]
      have owned : delivered.Owns index cell.meters :=
        Owns.of_grows ⟨current, found, sameMeters⟩ (counts.trans answered.grows)
      obtain ⟨next, goesOn, mirrorsNext, dueLater⟩ :=
        inductionHypothesis mirrorsReached owned dueNext
          (undisturbed.second (counts.trans answered.grows))
      refine ⟨next, leads.trans (answers.trans goesOn), mirrorsNext, ?_⟩
      rw [dueLater, dueReached, dueTold, List.set_set]

/-- A turn is a call, with the announcements of what left. -/
theorem happens_takeTurn
    {world : World}
    {index : Nat}
    {cell : Cell}
    (found : world.cells[index]? = some cell)
    {ρ : Type}
    {turn : Turn PageId String String ρ}
    (operation : Operation PageId String String)
    (takes : Takes cell.cache operation turn) :
    world.Happens (world.takeTurn client index cell turn) where
  grows :=
    tracks_grows.turn (fun script world => (continues script world).grows)
      found operation takes
  leads := by
    intro undisturbed library fleet mirrors
    have foundCopy : fleet.world.cells[index]? = some cell := by
      rw [mirrors.cells]
      exact found
    obtain ⟨member, isMember, fills⟩ := mirrors.sound.member foundCopy
    have before := Fleet.getElem?_dues isMember
    obtain ⟨inside, isDue⟩ := List.getElem?_eq_some_iff.mp before
    let call := member.conversation.nextCall operation
    let notices : List (Notice PageId String String) :=
      call.turn.departures.map fun departure => ⟨departure, call⟩
    have left : notices.map Notice.departure = turn.departures := by
      rw [takes.departures, fills.cache]
      simp [notices, call, Conversation.nextCall, Call.turn, Function.comp_def]
    let called :=
      fleet.live index cell member (.calls operation)
        (member.conversation.call operation)
    have calls : fleet.Leads called := Fleet.leads_live isMember foundCopy rfl
    have enacts : world.Grows (world.enact index cell turn) :=
      grows_enact index cell turn world
    have dueCalled :
        called.dues =
          fleet.dues.set index
            (member.name, notices :: member.conversation.due) :=
      Fleet.dues_live ..
    rw [takeTurn, ← left] at undisturbed ⊢
    obtain ⟨told, announces, mirrorsTold, dueTold⟩ :=
      happens_deliver continues (mirrors.call found isMember takes)
        (Owns.of_grows ⟨cell, found, rfl⟩ enacts)
        (by rw [dueCalled, List.getElem?_set_self inside])
        (undisturbed.second enacts)
    rw [dueCalled, List.set_set] at dueTold
    obtain ⟨next, returns, mirrorsNext, dueNext⟩ :=
      mirrorsTold.returns (by rw [dueTold, List.getElem?_set_self inside])
    refine ⟨next, calls.trans (announces.trans returns), mirrorsNext, ?_⟩
    rw [dueNext, dueTold, List.set_set, ← isDue, List.set_getElem_self]

end Clients

theorem tracks_happens : TracksTurns Happens where
  trans := Happens.trans
  still := Still.happens
  change := by
    intro world meter named change
    have quiet := quiet_change meter change world
    refine happens_of_copies quiet.grows quiet.cells ?_
    intro undisturbed other isRow word found
    have different : other ≠ meter := by
      rintro rfl
      refine undisturbed.named (rows_subset_of_grows quiet.grows isRow) ?_
      exact named.elim
        (fun counter => List.mem_append_left _ (quiet.counters counter))
        (fun gauge => List.mem_append_right _ (quiet.gauges gauge))
    rw [word?_change_of_ne different]
    exact found
  turn := happens_takeTurn
  cell := by
    intro world cell capacity page built numbered
    refine ⟨tracks_grows.cell world built numbered, fun undisturbed => ?_⟩
    have longer := undisturbed.built
    rw [List.length_append, List.length_singleton] at longer
    omega

end World

/-! ## Whole sessions -/

theorem happens_worldAfter
    (depth : Nat)
    (commands : List Command)
    (world : World) :
    world.Happens (worldAfter depth commands world) := by
  have tracks :=
    World.tracks_happens.attempts fun same => by
      simp only [Prod.mk.injEq] at same
      obtain ⟨cells, _, counters, gauges, depot, _⟩ := same
      exact World.happens_of_eq (by rw [cells, depot, counters, gauges])
  have emptied (world : World) : world.Happens { world with log := [] } :=
    World.happens_of_eq rfl
  exact tracked_worldAfter tracks.tasks emptied depth commands world

end NavState.Session
