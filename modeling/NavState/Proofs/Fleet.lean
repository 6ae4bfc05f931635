import NavState.Proofs.Accounts
import NavState.Proofs.Others
import NavState.Proofs.Reentrance

namespace NavState

/--
What is filed at a moment of a conversation: the reports of a call, or an
eviction that is announced.
-/
def Conversation.files
    {ι κ ν : Type}
    [DecidableEq ι]
    [DecidableEq κ]
    (moment : Moment ι κ ν)
    (conversation : Conversation ι κ ν) :
    List (Report ι) :=
  match moment, conversation.due with
  | .calls operation, _ => (conversation.nextCall operation).turn.reports
  | .announces, (notice :: _) :: _ =>
      if notice.departure.evicts then
        [.count .evict]
      else
        []
  | _, _ => []

end NavState

namespace NavState.Session

/-!
# Caches that share a registry

A fleet is a world with one registry and the caches that were built on clones of
it, each with the conversation it takes part in.  The caches take turns in any
order: each moment of one may come between any two moments of another.
-/

open NavState.Metric (Library)

/-- One cache of a fleet, by its name and what it was called for. -/
structure Member where
  name : String
  conversation : Conversation PageId String String

/-- A world with the caches on its first registry, and all that they filed there. -/
structure Fleet where
  world : World
  members : List Member := []
  filed : List Filing := []

/-- One thing that happens in a fleet. -/
inductive Happening where
  /-- A cache is built on a clone of the registry. -/
  | builds (host : Nat) (request : BuildRequest Step)
  /-- A cache is called, announces what is due, or returns from a call. -/
  | lives (index : Nat) (moment : Moment PageId String String)
  /-- Somebody else uses the registry, or another one. -/
  | metric (command : MetricCommand)
  /-- Whatever concerns neither caches nor metrics becomes as in another world. -/
  | meanwhile (other : World)

namespace Happening

/-- The moment that a cache lives through. -/
def moment?
    (index : Nat)
    (happening : Happening) :
    Option (Moment PageId String String) :=
  match happening with
  | lives place moment =>
      if place = index then
        some moment
      else
        none
  | _ => none

end Happening

/-- The moments of one cache, in order. -/
def momentsOf
    (index : Nat)
    (happenings : List Happening) :
    List (Moment PageId String String) :=
  happenings.filterMap (Happening.moment? index)

/-- Let a cell live through a moment; what its listener does comes later. -/
def World.live
    (index : Nat)
    (cell : Cell)
    (conversation : Conversation PageId String String)
    (moment : Moment PageId String String)
    (world : World) :
    World :=
  match moment, conversation.due with
  | .calls operation, _ => world.enact index cell (cell.cache.perform operation)
  | .announces, (notice :: _) :: _ =>
      world.deliverOne (fun _ world => world) cell notice.departure
  | _, _ => world

namespace Fleet

/-- One registry over a library of metrics, and no cache yet. -/
def start (library : Library) (tracing : Bool) : Fleet where
  world :=
    ((performMetric (.create .exporting)).reply
      { tracing := tracing, depot := { library := library } }).2

/-- The names of the caches. -/
def names (fleet : Fleet) : List String :=
  fleet.members.map Member.name

/-- The fleet once a cache was built, or its build was refused. -/
def build
    (host : Nat)
    (request : BuildRequest Step)
    (fleet : Fleet) :
    Fleet :=
  let world := ((Session.build host request).reply fleet.world).2
  { fleet with
    world := world
    members :=
      fleet.members ++
        (world.cells.drop fleet.members.length).map fun cell =>
          ⟨cell.name, .start cell.cache⟩ }

/-- The fleet once a cache has lived through a moment. -/
def live
    (index : Nat)
    (cell : Cell)
    (member : Member)
    (moment : Moment PageId String String)
    (next : Conversation PageId String String)
    (fleet : Fleet) :
    Fleet where
  world := fleet.world.live index cell member.conversation moment
  members := fleet.members.set index { member with conversation := next }
  filed := fleet.filed ++ (member.conversation.files moment).map (Prod.mk member.name)

/--
What comes of a happening.  Caches are built on clones of the registry alone, and
nobody else uses the names of the shared vectors.
-/
def step? (happening : Happening) (fleet : Fleet) : Option Fleet :=
  match happening with
  | .builds host request =>
      if (request.registry.bind fun index => fleet.world.registries[index]?) =
          some (.exporting 0) then
        some (fleet.build host request)
      else
        none
  | .lives index moment => do
      let member ← fleet.members[index]?
      let cell ← fleet.world.cells[index]?
      let next ← member.conversation.step? moment
      return fleet.live index cell member moment next
  | .metric command =>
      if command.Spares then
        some
          { fleet with
            world := ((performMetric command).reply fleet.world).2 }
      else
        none
  | .meanwhile other =>
      some
        { fleet with
          world :=
            { other with
              cells := fleet.world.cells
              registries := fleet.world.registries
              depot := fleet.world.depot
              counters := fleet.world.counters
              gauges := fleet.world.gauges } }

/-- What comes of some happenings. -/
def after? (happenings : List Happening) (fleet : Fleet) : Option Fleet :=
  match happenings with
  | [] => some fleet
  | happening :: rest => (fleet.step? happening).bind fun next => next.after? rest

theorem after?_append
    (earlier later : List Happening)
    (fleet : Fleet) :
    fleet.after? (earlier ++ later) =
      (fleet.after? earlier).bind fun next => next.after? later := by
  induction earlier generalizing fleet with
  | nil =>
      rfl
  | cons happening rest inductionHypothesis =>
      simp only [List.cons_append, after?, inductionHypothesis,
        Option.bind_assoc]

/-- What holds at the start and is kept by every step holds after every run. -/
theorem induction_after?
    {P : List Happening → Fleet → Prop}
    {library : Library}
    {tracing : Bool}
    (begins : P [] (start library tracing))
    (keeps :
      ∀ happenings fleet happening next,
        P happenings fleet →
        fleet.step? happening = some next →
        P (happenings ++ [happening]) next)
    {happenings : List Happening}
    {fleet : Fleet}
    (happened : (start library tracing).after? happenings = some fleet) :
    P happenings fleet := by
  induction happenings using List.reverseRecOn generalizing fleet with
  | nil =>
      cases happened
      exact begins
  | append_singleton earlier last inductionHypothesis =>
      rw [after?_append] at happened
      obtain ⟨before, reached, stepped⟩ := Option.bind_eq_some_iff.mp happened
      obtain ⟨next, steps, ⟨⟩⟩ := Option.bind_eq_some_iff.mp stepped
      exact keeps earlier before last fleet (inductionHypothesis reached) steps

end Fleet

/-! ## What a moment changes in the world -/

namespace World

/-- Neither the caches have changed nor which metrics are named. -/
structure Files (before ended : World) : Prop where
  cells : ended.cells = before.cells
  counters : ended.counters = before.counters
  gauges : ended.gauges = before.gauges

theorem Files.refl (world : World) : world.Files world :=
  ⟨rfl, rfl, rfl⟩

theorem Files.trans
    {before between ended : World}
    (first : before.Files between)
    (second : between.Files ended) :
    before.Files ended where
  cells := second.cells.trans first.cells
  counters := second.counters.trans first.counters
  gauges := second.gauges.trans first.gauges

theorem files_change
    (meter : Meter)
    (change : Metric.Change)
    (world : World) :
    world.Files (world.change meter change) := by
  cases meter <;> exact ⟨rfl, rfl, rfl⟩

theorem files_file
    (meters : Meters)
    (world : World)
    (report : Report PageId) :
    world.Files (world.file meters report) := by
  cases report with
  | count tally =>
      exact files_change _ _ world
  | size pages =>
      exact files_change _ _ world
  | note note =>
      rw [file, trace_eq]
      exact ⟨rfl, rfl, rfl⟩

theorem files_fileAll
    (meters : Meters)
    (reports : List (Report PageId))
    (world : World) :
    world.Files (reports.foldl (file meters) world) := by
  induction reports generalizing world with
  | nil =>
      exact .refl world
  | cons report rest inductionHypothesis =>
      exact (files_file meters world report).trans (inductionHypothesis _)

/-- What is announced is counted as it is filed. -/
theorem depot_deliverOne
    {cell : Cell}
    {conversation : Conversation PageId String String}
    {notice : Notice PageId String String}
    {rest : List (Notice PageId String String)}
    {outer : List (List (Notice PageId String String))}
    (due : conversation.due = (notice :: rest) :: outer)
    (world : World) :
    let told := world.deliverOne (fun _ world => world) cell notice.departure
    world.Files told ∧
      told.depot =
        ((conversation.files .announces).foldl (file cell.meters) world).depot := by
  have counted :
      world.counting cell notice.departure =
        (conversation.files .announces).foldl (file cell.meters) world := by
    simp only [counting, Conversation.files, due, Departure.evicts, decide_eq_true_eq]
    split <;> rfl
  simp only [deliverOne_counting, counted]
  split
  · exact ⟨files_fileAll _ _ world, rfl⟩
  · exact ⟨(files_fileAll _ _ world).trans ⟨rfl, rfl, rfl⟩, rfl⟩

/-- A moment puts the cache after it into the cell and files what it reports. -/
theorem live_spec
    {world : World}
    {index : Nat}
    {cell : Cell}
    {conversation next : Conversation PageId String String}
    (cache : cell.cache = conversation.cache)
    {moment : Moment PageId String String}
    (found : world.cells[index]? = some cell)
    (stepped : conversation.step? moment = some next) :
    let placed := world.putCache index next.cache
    placed.Files (world.live index cell conversation moment) ∧
      (world.live index cell conversation moment).depot =
        ((conversation.files moment).foldl (file cell.meters) placed).depot := by
  have unchanged
      (same : next.cache = conversation.cache) :
      world.putCache index next.cache = world := by
    have kept :
        world.cells.modify index
            (fun cell => { cell with cache := next.cache }) =
          world.cells := by
      refine List.ext_getElem? fun place => ?_
      rw [List.getElem?_modify]
      by_cases own : index = place
      · subst own
        rw [found, same, ← cache]
        simp
      · simp [own]
    rw [putCache, kept]
  cases moment with
  | calls operation =>
      cases stepped
      have reached :
          world.live index cell conversation (.calls operation) =
            (conversation.files (.calls operation)).foldl (file cell.meters)
              (world.putCache index (conversation.call operation).cache) := by
        simp only [live, enact, cache]
        rfl
      rw [reached]
      exact ⟨files_fileAll _ _ _, rfl⟩
  | announces =>
      obtain ⟨notice, rest, outer, due, rfl⟩ := Audit.eq_of_announces stepped
      intro placed
      have same : placed = world := unchanged rfl
      simp only [live, due]
      rw [same]
      exact depot_deliverOne due world
  | returns =>
      obtain ⟨outer, due, rfl⟩ := Audit.eq_of_returns stepped
      intro placed
      have same : placed = world := unchanged rfl
      simp only [live, Conversation.files]
      rw [same]
      exact ⟨.refl world, rfl⟩

end World

/-! ## What every step keeps -/

/-- The rows that caches with some names have asked for. -/
def Shared.rowsOf
    (library : Library)
    (names : List String)
    (shared : Shared) :
    List (List String) :=
  Metric.Vector.withRows (shared.address library)
    (names.flatMap fun name => shared.rows name) []

theorem Shared.rowsWith_rowsOf
    (library : Library)
    (name : String)
    (names : List String) :
    rowsWith library name (rowsOf library names) =
      rowsOf library (names ++ [name]) := by
  funext shared
  simp [rowsWith, rowsOf, Metric.Vector.withRows]

theorem Shared.address_mem_rowsOf
    {library : Library}
    {shared : Shared}
    {name : String}
    {names : List String}
    (member : name ∈ names)
    {row : List String}
    (isRow : row ∈ shared.rows name) :
    shared.address library row ∈
      (shared.rowsOf library names).map (shared.address library) :=
  Metric.Vector.address_mem_withRows
    (List.mem_flatMap.mpr ⟨name, member, isRow⟩) []

/-- A cell holds the cache of a member, with metrics in the shared vectors. -/
structure Member.Fills
    (member : Member)
    (library : Library)
    (depot : Metric.Depot)
    (cell : Cell) :
    Prop where
  name : cell.name = member.name
  cache : cell.cache = member.conversation.cache
  meters :
    ∃ numbers,
      cell.meters = .within library numbers member.name ∧ Binds numbers depot

theorem Member.Fills.of_grows
    {member : Member}
    {library : Library}
    {before ended : Metric.Depot}
    {cell : Cell}
    (fills : member.Fills library before cell)
    (grows : before.Grows ended) :
    member.Fills library ended cell where
  name := fills.name
  cache := fills.cache
  meters := by
    obtain ⟨numbers, same, binds⟩ := fills.meters
    exact ⟨numbers, same, binds.of_grows grows⟩

namespace Fleet

/-- The shared vectors have what was filed, and every cell has its cache. -/
structure Sound (library : Library) (fleet : Fleet) : Prop where
  stocks :
    Stocks library (Shared.rowsOf library fleet.names) fleet.filed
      fleet.world.depot
  others : fleet.world.NamesOthers
  length : fleet.world.cells.length = fleet.members.length
  cells :
    ∀ (index : Nat) (member : Member),
      fleet.members[index]? = some member →
      ∃ cell,
        fleet.world.cells[index]? = some cell ∧
          member.Fills library fleet.world.depot cell

variable {library : Library}

/-- Every cell is that of a member. -/
theorem Sound.member
    {fleet : Fleet}
    (sound : fleet.Sound library)
    {index : Nat}
    {cell : Cell}
    (found : fleet.world.cells[index]? = some cell) :
    ∃ member,
      fleet.members[index]? = some member ∧
        member.Fills library fleet.world.depot cell := by
  have inside : index < fleet.members.length := by
    rw [← sound.length]
    exact (List.getElem?_eq_some_iff.mp found).1
  have isMember := List.getElem?_eq_getElem inside
  obtain ⟨same, foundSame, fills⟩ := sound.cells index _ isMember
  rw [found] at foundSame
  cases foundSame
  exact ⟨_, isMember, fills⟩

theorem sound_start (library : Library) (tracing : Bool) :
    (start library tracing).Sound library where
  stocks := {
    sound := {
      exporter := Nat.zero_lt_one
      catalogue := Nat.zero_lt_one
      first := rfl
      bound := by
        intro index name number found
        have nothing :
            ((start library tracing).world.depot.catalogue index).bound = [] := by
          cases index <;> rfl
        rw [nothing] at found
        cases found
      published := by
        intro index number member
        have nothing :
            ((start library tracing).world.depot.exporter index).taken = [] := by
          cases index <;> rfl
        rw [Metric.Depot.Publishes, nothing] at member
        cases member
    }
    uses := rfl
    holds := by
      intro shared
      refine ⟨fun _ => rfl, fun _ => rfl, fun _ => rfl, fun number found => ?_⟩
      cases found
    covers := fun _ _ member => nomatch member
  }
  others := fun _ member => nomatch member
  length := rfl
  cells := fun _ _ found => nomatch found

/-- What a step of a sound fleet comes to. -/
inductive Moves (library : Library) (fleet : Fleet) : Happening → Fleet → Prop where
  /-- Neither the caches nor the shared vectors take part. -/
  | spares
      {happening : Happening}
      {world : World}
      (quiet : ∀ index, happening.moment? index = none)
      (spares : fleet.world.Spares world) :
      fleet.Moves library happening { fleet with world := world }
  /-- A cache is built. -/
  | gains
      {host : Nat}
      {request : BuildRequest Step}
      {world : World}
      {cache : Cache PageId String String}
      (gains :
        fleet.world.Gains library (Shared.rowsOf library fleet.names) fleet.filed
          host request cache world) :
      fleet.Moves library (.builds host request)
        { fleet with
          world := world
          members := fleet.members ++ [⟨request.name, .start cache⟩] }
  /-- A cache lives through a moment. -/
  | lives
      {index : Nat}
      {moment : Moment PageId String String}
      {member : Member}
      {cell : Cell}
      {next : Conversation PageId String String}
      (isMember : fleet.members[index]? = some member)
      (found : fleet.world.cells[index]? = some cell)
      (stepped : member.conversation.step? moment = some next) :
      fleet.Moves library (.lives index moment)
        (fleet.live index cell member moment next)

theorem Sound.moves
    {fleet next : Fleet}
    (sound : fleet.Sound library)
    (valid : Shared.Valid library)
    {happening : Happening}
    (stepped : fleet.step? happening = some next) :
    fleet.Moves library happening next := by
  cases happening with
  | builds host request =>
      obtain ⟨clone, ⟨⟩⟩ := Option.ite_none_right_eq_some.mp stepped
      rcases gains_build sound.stocks valid host clone with
        refused | ⟨cache, gains⟩
      · have same : fleet.build host request = fleet := by
          have nobody : fleet.world.cells.drop fleet.members.length = [] :=
            List.drop_eq_nil_of_le (Nat.le_of_eq sound.length)
          simp only [build, refused, nobody, List.map_nil, List.append_nil]
        rw [same]
        exact .spares (fun _ => rfl)
          (World.spares_of_eq sound.stocks.sound sound.others rfl)
      · have same :
            fleet.build host request =
              { fleet with
                world := ((Session.build host request).reply fleet.world).2
                members :=
                  fleet.members ++ [⟨request.name, .start cache⟩] } := by
          obtain ⟨cell, numbers, cells, name, holds, _⟩ := gains.cell
          simp only [build, cells, ← sound.length, List.drop_left,
            List.map_singleton, name, holds]
        rw [same]
        exact .gains gains
  | lives index moment =>
      simp only [step?, Option.bind_eq_bind, Option.bind_eq_some_iff,
        Option.pure_def, Option.some.injEq] at stepped
      obtain ⟨member, isMember, cell, found, reached, steps, rfl⟩ := stepped
      exact .lives isMember found steps
  | metric command =>
      obtain ⟨spared, ⟨⟩⟩ := Option.ite_none_right_eq_some.mp stepped
      exact .spares (fun _ => rfl)
        (spares_performMetric sound.stocks.sound sound.others spared)
  | meanwhile other =>
      cases stepped
      exact .spares (fun _ => rfl)
        (World.spares_of_eq sound.stocks.sound sound.others rfl)

theorem sound_spares
    {fleet : Fleet}
    (sound : fleet.Sound library)
    {world : World}
    (spares : fleet.world.Spares world) :
    ({ fleet with world := world } : Fleet).Sound library where
  stocks := sound.stocks.of_leaves spares.grows spares.leaves
  others := spares.others
  length := by
    rw [← sound.length]
    exact congrArg List.length spares.cells
  cells := by
    intro index member isMember
    obtain ⟨cell, found, fills⟩ := sound.cells index member isMember
    refine ⟨cell, ?_, fills.of_grows spares.grows⟩
    rw [← found]
    exact congrArg (·[index]?) spares.cells

theorem sound_gains
    {fleet : Fleet}
    (sound : fleet.Sound library)
    {host : Nat}
    {request : BuildRequest Step}
    {cache : Cache PageId String String}
    {world : World}
    (gains :
      fleet.world.Gains library (Shared.rowsOf library fleet.names) fleet.filed
        host request cache world) :
    ({ fleet with
        world := world
        members := fleet.members ++ [⟨request.name, .start cache⟩] } :
      Fleet).Sound library := by
  obtain ⟨newCell, numbers, cells, hasName, holds, meters, binds⟩ := gains.cell
  have named := gains.named
  simp only [Prod.mk.injEq] at named
  refine ⟨?_, ?_, ?_, ?_⟩
  · have stocks := gains.stocks
    rw [Shared.rowsWith_rowsOf] at stocks
    simpa [names] using stocks
  · intro meter member
    rw [named.1, named.2] at member
    exact (sound.others meter member).of_grows gains.grows
  · rw [cells, List.length_append, List.length_append, sound.length]
    rfl
  · intro index member isMember
    rcases Nat.lt_trichotomy index fleet.members.length with
      inside | isNew | outside
    · rw [List.getElem?_append_left inside] at isMember
      obtain ⟨cell, found, fills⟩ := sound.cells index member isMember
      refine ⟨cell, ?_, fills.of_grows gains.grows⟩
      rw [cells, List.getElem?_append_left (sound.length ▸ inside)]
      exact found
    · subst isNew
      rw [List.getElem?_concat_length] at isMember
      cases isMember
      refine ⟨newCell, ?_, hasName, holds, numbers, meters, binds⟩
      rw [cells, ← sound.length, List.getElem?_concat_length]
    · rw [List.getElem?_eq_none (by simp; omega)] at isMember
      cases isMember

theorem names_live
    {fleet : Fleet}
    {index : Nat}
    {member : Member}
    (isMember : fleet.members[index]? = some member)
    (cell : Cell)
    (moment : Moment PageId String String)
    (next : Conversation PageId String String) :
    (fleet.live index cell member moment next).names = fleet.names := by
  refine List.ext_getElem? fun place => ?_
  simp only [names, live, List.getElem?_map]
  by_cases own : index = place
  · subst own
    rw [List.getElem?_set_self (List.getElem?_eq_some_iff.mp isMember).1,
      isMember]
    rfl
  · rw [List.getElem?_set_ne own]

theorem sound_lives
    {fleet : Fleet}
    (sound : fleet.Sound library)
    {index : Nat}
    {moment : Moment PageId String String}
    {member : Member}
    {cell : Cell}
    {next : Conversation PageId String String}
    (isMember : fleet.members[index]? = some member)
    (found : fleet.world.cells[index]? = some cell)
    (stepped : member.conversation.step? moment = some next) :
    (fleet.live index cell member moment next).Sound library := by
  obtain ⟨same, foundSame, fills⟩ := sound.cells index member isMember
  rw [found] at foundSame
  cases foundSame
  obtain ⟨numbers, meters, binds⟩ := fills.meters
  obtain ⟨files, depot⟩ := World.live_spec fills.cache found stepped
  have isName : member.name ∈ fleet.names :=
    List.mem_map_of_mem (List.mem_of_getElem? isMember)
  let placed := fleet.world.putCache index next.cache
  let ended := fleet.world.live index cell member.conversation moment
  have stocked :
      Stocks library (Shared.rowsOf library fleet.names) fleet.filed placed.depot :=
    sound.stocks
  obtain ⟨stocks, grows⟩ :=
    stocked.fileAll
      (fun shared row isRow => Shared.address_mem_rowsOf isName isRow)
      (member.conversation.files moment) binds
  rw [← meters, ← depot] at stocks grows
  have cells : ended.cells = placed.cells := files.cells
  have sameNames := names_live isMember cell moment next
  refine ⟨?_, ?_, ?_, ?_⟩
  · rw [sameNames]
    exact stocks
  · intro meter isNamed
    have before : meter ∈ placed.counters ++ placed.gauges := by
      rw [← files.counters, ← files.gauges]
      exact isNamed
    exact (sound.others meter before).of_grows grows
  · have lengths : ended.cells.length = fleet.world.cells.length := by
      rw [cells]
      exact List.length_modify _ _ _
    rw [live, List.length_set, ← sound.length]
    exact lengths
  · intro place other isOther
    rw [live] at isOther ⊢
    by_cases own : index = place
    · subst own
      rw [List.getElem?_set_self (List.getElem?_eq_some_iff.mp isMember).1]
        at isOther
      cases isOther
      refine ⟨{ cell with cache := next.cache }, ?_, fills.name, rfl,
        numbers, meters, binds.of_grows grows⟩
      rw [cells]
      simp [placed, World.putCache, found]
    · rw [List.getElem?_set_ne own] at isOther
      obtain ⟨otherCell, foundOther, fillsOther⟩ :=
        sound.cells place other isOther
      refine ⟨otherCell, ?_, fillsOther.of_grows grows⟩
      rw [cells]
      simp [placed, World.putCache, own, foundOther]

theorem Sound.of_moves
    {fleet next : Fleet}
    (sound : fleet.Sound library)
    {happening : Happening}
    (moves : fleet.Moves library happening next) :
    next.Sound library := by
  cases moves with
  | spares quiet spares =>
      exact sound_spares sound spares
  | gains gains =>
      exact sound_gains sound gains
  | lives isMember found stepped =>
      exact sound_lives sound isMember found stepped

end Fleet

end NavState.Session
