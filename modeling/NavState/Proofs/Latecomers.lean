import NavState.Proofs.Registrations

namespace NavState

/--
The cache once an attempt was announced to it and then, if the cache accepted it,
settled under the generation it was accepted under.
-/
def Cache.announceAndSettle
    {ι κ ν : Type}
    [DecidableEq ι]
    [DecidableEq κ]
    (attempt : UInt64)
    (outcome : Outcome)
    (observed : ι)
    (cache : Cache ι κ ν) :
    Cache ι κ ν :=
  let announcing := cache.announce attempt observed
  match announcing.result with
  | none => announcing.cache
  | some generation =>
      (announcing.cache.settle generation outcome observed).cache

namespace Session

/-!
# Attempts that have settled before they are announced

A cache registers with an attempt after its turn, and after the listener was told
what left.  If the attempt has settled by then, the settlement runs within the
announcement; otherwise it waits for the resolver.  As long as the listener does
nothing about a store that is discarded, both come to the same two turns of the
cache, one after the other.

The first turn meets different attempts in the two cases.  It does not notice,
because what a cache reports and announces has no part in attempts.
-/

namespace World

/-! ## What takes place off the stage -/

/-- The world with other hosts, caches and attempts, and with another journal. -/
def staging
    (hosts : List Host)
    (cells : List Cell)
    (slots : List Slot)
    (journal : Journal)
    (world : World) :
    World :=
  { world with
    hosts := hosts
    cells := cells
    slots := slots
    journal := journal }

/-- What neither depends on hosts, caches, attempts and the journal nor changes them. -/
def Offstage (act : World → World) : Prop :=
  ∀ hosts cells slots journal world,
    act (world.staging hosts cells slots journal) =
      (act world).staging hosts cells slots journal

theorem offstage_foldl
    {ρ : Type}
    {step : World → ρ → World}
    (items : List ρ)
    (offstage : ∀ item ∈ items, Offstage (step · item)) :
    Offstage (items.foldl step) := by
  intro hosts cells slots journal world
  induction items generalizing world with
  | nil =>
      rfl
  | cons item rest inductionHypothesis =>
      have first :=
        offstage item List.mem_cons_self hosts cells slots journal world
      simp only [List.foldl_cons, first]
      exact inductionHypothesis
        (fun other member => offstage other (List.mem_cons_of_mem _ member)) _

theorem offstage_change (meter : Meter) (change : Metric.Change) :
    Offstage (World.change meter change) := by
  intro hosts cells slots journal world
  cases meter <;> rfl

theorem offstage_trace (event : TraceEvent) : Offstage (World.trace event) := by
  intro hosts cells slots journal world
  cases traced : world.tracing <;> simp [trace, staging, traced, record]

/-- A cache reports off the stage. -/
theorem offstage_file (meters : Meters) (report : Report PageId) :
    Offstage (file meters · report) := by
  cases report with
  | count tally =>
      exact offstage_change (meters.tally tally) (.increase 1)
  | size pages =>
      exact offstage_change meters.pages (.absolute (UInt64.ofNat pages))
  | note note =>
      exact offstage_trace (.noted note)

theorem offstage_counting (cell : Cell) (departure : Departure PageId) :
    Offstage (World.counting cell departure) := by
  intro hosts cells slots journal world
  simp only [counting]
  split
  · exact offstage_change _ _ hosts cells slots journal world
  · rfl

end World

/-- The listener of a cell does nothing about departures for some reason. -/
def Cell.Disregards (reason : Reason) (client : Client) (cell : Cell) : Prop :=
  ∀ listener,
    cell.listener = some listener →
    ∀ world, client (listener.scripts.on reason) world = world

namespace World

variable
  {client : Client}
  {cell : Cell}
  {departures : List (Departure PageId)}

/-- Departures that the listener does nothing about are announced off the stage. -/
theorem offstage_deliver
    (disregards :
      ∀ departure ∈ departures, cell.Disregards departure.reason client) :
    Offstage (World.deliver client cell departures) := by
  refine offstage_foldl departures fun departure member => ?_
  intro hosts cells slots journal world
  have counted := offstage_counting cell departure hosts cells slots journal world
  simp only [deliverOne_counting]
  cases listens : cell.listener with
  | none =>
      exact counted
  | some listener =>
      have nothing := disregards departure member listener listens
      simp only [nothing, counted]
      rfl

/--
A turn with such departures puts a cache into its cell, and all else is off the
stage.
-/
theorem takeTurn_staging
    {ρ : Type}
    {turn : Turn PageId String String ρ}
    (disregards :
      ∀ departure ∈ turn.departures, cell.Disregards departure.reason client)
    (index : Nat)
    (hosts : List Host)
    (slots : List Slot)
    (journal : Journal)
    (world : World) :
    (world.staging hosts world.cells slots journal).takeTurn client index cell
        turn =
      (world.takeTurn client index cell turn).staging hosts
        (world.putCache index turn.cache).cells slots journal := by
  have filed :=
    offstage_foldl turn.reports fun report _ => offstage_file cell.meters report
  have delivered := offstage_deliver disregards
  simp only [takeTurn, enact]
  exact (congrArg (deliver client cell turn.departures)
    (filed hosts _ slots journal (world.putCache index turn.cache))).trans
    (delivered hosts _ slots journal _)

/--
Hosts and attempts are where they were, and so are the other caches and the
journal.
-/
theorem takeTurn_eq
    {ρ : Type}
    {turn : Turn PageId String String ρ}
    (disregards :
      ∀ departure ∈ turn.departures, cell.Disregards departure.reason client)
    (index : Nat)
    (world : World) :
    world.takeTurn client index cell turn =
      (world.takeTurn client index cell turn).staging world.hosts
        (world.putCache index turn.cache).cells world.slots world.journal :=
  takeTurn_staging disregards index world.hosts world.slots world.journal world

/-- The cell has the cache after the turn. -/
theorem cells_takeTurn
    {ρ : Type}
    {turn : Turn PageId String String ρ}
    (disregards :
      ∀ departure ∈ turn.departures, cell.Disregards departure.reason client)
    {index : Nat}
    {world : World}
    (found : world.cells[index]? = some cell) :
    (world.takeTurn client index cell turn).cells[index]? =
      some { cell with cache := turn.cache } := by
  rw [takeTurn_eq disregards index world]
  simp [staging, putCache, found]

/-- Another attempt may as well be put into its slot after such a turn. -/
theorem takeTurn_showing
    {ρ : Type}
    {turn : Turn PageId String String ρ}
    (disregards :
      ∀ departure ∈ turn.departures, cell.Disregards departure.reason client)
    (index attempt : Nat)
    (slot : Slot)
    (world : World) :
    (world.showing attempt slot {}).takeTurn client index cell turn =
      (world.takeTurn client index cell turn).showing attempt slot {} := by
  have shape (other : World) :
      other.showing attempt slot {} =
        other.staging other.hosts other.cells (other.slots.set attempt slot)
          other.journal := by
    simp [showing, logging, staging]
  rw [shape world, takeTurn_staging disregards, shape,
    takeTurn_eq disregards index world]
  rfl

end World

/-! ## Announcing and settling -/

/-- What an announcement gives up is discarded. -/
theorem reason_of_mem_departures_announce
    {cache : Cache PageId String String}
    {id : UInt64}
    {observed : PageId}
    {departure : Departure PageId}
    (member : departure ∈ (cache.announce id observed).departures) :
    departure.reason = .discard := by
  simp only [Cache.announce] at member
  split at member
  · cases member
  · simp only [Cache.abandoned] at member
    split at member
    · cases member
    · rw [List.mem_singleton.mp member]

/-- An announcement leaves a cache on its page. -/
theorem current_announce
    (cache : Cache PageId String String)
    (id : UInt64)
    (observed : PageId) :
    (cache.announce id observed).cache.current = cache.current := by
  by_cases remembered : id ∈ cache.handled
  · rw [(Cache.announce_of_mem remembered observed).2.1]
  · rw [(Cache.announce_of_not_mem remembered observed).2]

namespace World

/-- Whoever accepts an attempt registers with it after the turn. -/
theorem announceAttempt_eq
    (client : Client)
    (index : Nat)
    (cell : Cell)
    (attempt : Nat)
    (id : UInt64)
    (world : World) :
    world.announceAttempt client index cell attempt id =
      let announcing := cell.cache.announce id (world.observed cell)
      let announced :=
        (world.noteAccepted index (some attempt) announcing.result).takeTurn client
          index cell announcing
      match announcing.result with
      | none => announced
      | some generation =>
          announced.onSettle client attempt (.settlement index generation) := by
  simp only [announceAttempt, accept]
  split
  · next ignored =>
      obtain ⟨nothing, rfl⟩ := Prod.mk.inj ignored
      simp only [nothing]
  · next generation accepted taken =>
      obtain ⟨isAccepted, rfl⟩ := Prod.mk.inj taken
      simp only [isAccepted]

/--
The world once an attempt was announced to a cell and then, if the cell accepted
it, settled under the generation it was accepted under.  The journal tells that
the attempt was asked for that.
-/
def announceAndSettle
    (client : Client)
    (index : Nat)
    (cell : Cell)
    (attempt : Nat)
    (id : UInt64)
    (outcome : Outcome)
    (world : World) :
    World :=
  let announcing := cell.cache.announce id (world.observed cell)
  let announced :=
    (world.noteAccepted index (some attempt) announcing.result).takeTurn client
      index cell announcing
  match announcing.result with
  | none => announced
  | some generation =>
      let registration : Registration := ⟨attempt, .settlement index generation⟩
      let told :=
        announced.logging
          { registered := [registration], begun := [⟨registration, outcome⟩] }
      told.takeTurn client index { cell with cache := announcing.cache }
        (announcing.cache.settle generation outcome (world.observed cell))

/-- What is accepted is noted in the journal only. -/
theorem noteAccepted_eq
    (index : Nat)
    (attempt accepted : Option Nat)
    (world : World) :
    ∃ journal,
      world.noteAccepted index attempt accepted =
        world.staging world.hosts world.cells world.slots journal := by
  cases accepted with
  | none =>
      exact ⟨world.journal, rfl⟩
  | some generation =>
      exact ⟨world.journal.install index generation attempt, rfl⟩

/-- A settlement that runs is told in the journal first. -/
theorem runCallback_settlement
    (client : Client)
    (attempt : Nat)
    (outcome : Outcome)
    (index generation : Nat)
    (world : World) :
    world.runCallback client attempt outcome (.settlement index generation) =
      (world.logging
        { begun := [⟨⟨attempt, .settlement index generation⟩, outcome⟩] }
        ).settleGeneration client index generation outcome := by
  simp [runCallback, note, Journal.begin, logging]

section

variable
  {client : Client}
  {world : World}
  {index attempt : Nat}
  {cell : Cell}
  {id : UInt64}
  {announcing : Turn PageId String String (Option Nat)}
  (isTurn : announcing = cell.cache.announce id (world.observed cell))
  (disregards : cell.Disregards .discard client)

include isTurn disregards

/-- The listener does nothing about what an announcement gives up. -/
theorem disregards_announce :
    ∀ departure ∈ announcing.departures,
      cell.Disregards departure.reason client := by
  intro departure member
  rw [isTurn] at member
  rw [reason_of_mem_departures_announce member]
  exact disregards

/-- After an announcement a generation is settled by a turn of the same cell. -/
theorem settleGeneration_takeTurn
    (found : world.cells[index]? = some cell)
    (news : News)
    (generation : Nat)
    (outcome : Outcome) :
    let told := (world.takeTurn client index cell announcing).logging news
    told.settleGeneration client index generation outcome =
      told.takeTurn client index { cell with cache := announcing.cache }
        (announcing.cache.settle generation outcome (world.observed cell)) := by
  intro told
  have silent := disregards_announce isTurn disregards
  have observed :
      told.observed { cell with cache := announcing.cache } =
        world.observed cell := by
    simp only [told]
    rw [takeTurn_eq silent index world]
    simp only [World.observed, logging, staging, isTurn, current_announce]
  have placed :
      told.cells[index]? = some { cell with cache := announcing.cache } :=
    cells_takeTurn silent found
  rw [settleGeneration, placed]
  simp only [observed]

/-- What waits once an attempt was announced settles it, if the cell accepted it. -/
theorem runCallbacks_takeTurn
    (found : world.cells[index]? = some cell)
    (outcome : Outcome) :
    let callbacks :=
      (announcing.result.map (Callback.settlement index)).toList
    callbacks.foldl (runCallback client attempt outcome)
        (((world.noteAccepted index (some attempt)
            announcing.result).takeTurn client index cell announcing).logging
          { registered := callbacks.map (Registration.mk attempt) }) =
      world.announceAndSettle client index cell attempt id outcome := by
  rw [announceAndSettle, ← isTurn]
  cases announcing.result with
  | none =>
      exact logging_empty _
  | some generation =>
      let noted := world.note (.install index generation (some attempt))
      have isSameTurn : announcing = cell.cache.announce id (noted.observed cell) :=
        isTurn
      have foundStill : noted.cells[index]? = some cell := found
      have settles :=
        settleGeneration_takeTurn isSameTurn disregards foundStill
          { registered := [⟨attempt, .settlement index generation⟩]
            begun := [⟨⟨attempt, .settlement index generation⟩, outcome⟩] }
          generation outcome
      simp only [Option.map_some, Option.toList_some, List.map_cons, List.map_nil,
        List.foldl_cons, List.foldl_nil, runCallback_settlement, logging_logging]
      exact settles

/-- An attempt that has settled is settled within its announcement. -/
theorem announceAttempt_of_settled
    (found : world.cells[index]? = some cell)
    {resolver : Option Resolver}
    {outcome : Outcome}
    (settled :
      world.slots[attempt]? = some ⟨⟨id, .settled outcome⟩, resolver⟩) :
    world.announceAttempt client index cell attempt id =
      world.announceAndSettle client index cell attempt id outcome := by
  have still (journal : Journal) :
      ((world.staging world.hosts world.cells world.slots journal).takeTurn client
          index cell announcing).slots[attempt]? =
        some ⟨⟨id, .settled outcome⟩, resolver⟩ := by
    rw [takeTurn_staging (disregards_announce isTurn disregards)]
    exact settled
  obtain ⟨journal, noted⟩ :=
    noteAccepted_eq index (some attempt) announcing.result world
  rw [announceAttempt_eq, ← isTurn,
    ← runCallbacks_takeTurn isTurn disregards found outcome]
  simp only [noted]
  cases announcing.result with
  | none =>
      exact (logging_empty _).symm
  | some generation =>
      exact onSettle_of_settled (still journal) rfl (.settlement index generation)

/--
An attempt that is announced while it waits leaves the settlement to its resolver,
unless the cell ignores it.
-/
theorem announceAttempt_of_waiting
    {resolver : Option Resolver}
    (waiting : world.slots[attempt]? = some ⟨⟨id, .waiting []⟩, resolver⟩) :
    let callbacks :=
      (announcing.result.map (Callback.settlement index)).toList
    world.announceAttempt client index cell attempt id =
      ((world.noteAccepted index (some attempt)
          announcing.result).takeTurn client index cell announcing).showing attempt
        ⟨⟨id, .waiting callbacks⟩, resolver⟩
        { registered := callbacks.map (Registration.mk attempt) } := by
  have still (journal : Journal) :
      ((world.staging world.hosts world.cells world.slots journal).takeTurn client
          index cell announcing).slots[attempt]? =
        some ⟨⟨id, .waiting []⟩, resolver⟩ := by
    rw [takeTurn_staging (disregards_announce isTurn disregards)]
    exact waiting
  obtain ⟨journal, noted⟩ :=
    noteAccepted_eq index (some attempt) announcing.result world
  intro callbacks
  rw [announceAttempt_eq, ← isTurn]
  simp only [noted, callbacks]
  cases announcing.result with
  | none =>
      exact (showing_self (still journal)).symm
  | some generation =>
      exact onSettle_of_waiting (still journal) (.settlement index generation)

/--
An attempt that is announced while it waits is settled when its resolver is used,
and meanwhile nothing happens.
-/
theorem reply_use_of_announced
    (found : world.cells[index]? = some cell)
    (unsettled : world.slots[attempt]? = some ⟨Attempt.start id, some {}⟩)
    (use : Use) :
    (perform client (.attempt attempt use.command)).reply
        (world.announceAttempt client index cell attempt id) =
      (.nothing,
        (world.showing attempt ⟨⟨id, .settled use.outcome⟩, none⟩
            {}).announceAndSettle
          client index cell attempt id use.outcome) := by
  let settled :=
    world.showing attempt ⟨⟨id, .settled use.outcome⟩, none⟩ {}
  let noted := world.noteAccepted index (some attempt) announcing.result
  have silent := disregards_announce isTurn disregards
  have still :
      (noted.takeTurn client index cell announcing).slots[attempt]? =
        some ⟨Attempt.start id, some {}⟩ := by
    obtain ⟨journal, isNoted⟩ :=
      noteAccepted_eq index (some attempt) announcing.result world
    simp only [noted, isNoted]
    rw [takeTurn_staging silent]
    exact unsettled
  have isSameTurn : announcing = cell.cache.announce id (settled.observed cell) :=
    isTurn
  have foundStill : settled.cells[index]? = some cell := found
  have settledNoted :
      noted.showing attempt ⟨⟨id, .settled use.outcome⟩, none⟩ {} =
        settled.noteAccepted index (some attempt) announcing.result := by
    simp only [noted]
    cases announcing.result <;> rfl
  rw [announceAttempt_of_waiting isTurn disregards unsettled,
    reply_use (getElem?_slots_showing still _ _) use, showing_showing,
    News.append_empty, showing_eq_logging, ← takeTurn_showing silent,
    settledNoted]
  exact congrArg (Prod.mk Reply.nothing)
    (runCallbacks_takeTurn isSameTurn disregards foundStill use.outcome)

/-- A cell whose listener does nothing at all has its cache after both turns. -/
theorem cells_announceAndSettle
    (found : world.cells[index]? = some cell)
    (idle : ∀ reason, cell.Disregards reason client)
    (outcome : Outcome) :
    (world.announceAndSettle client index cell attempt id outcome).cells[index]? =
      some
        { cell with
          cache :=
            cell.cache.announceAndSettle id outcome (world.observed cell) } := by
  obtain ⟨journal, noted⟩ :=
    noteAccepted_eq index (some attempt) announcing.result world
  have foundStill :
      (world.staging world.hosts world.cells world.slots journal).cells[index]? =
        some cell :=
    found
  have placed := cells_takeTurn (disregards_announce isTurn disregards) foundStill
  have idleLater (reason : Reason) :
      Cell.Disregards reason client { cell with cache := announcing.cache } :=
    idle reason
  rw [World.announceAndSettle, Cache.announceAndSettle, ← isTurn]
  simp only [noted]
  cases announcing.result with
  | none =>
      exact placed
  | some generation =>
      exact cells_takeTurn (fun departure _ => idleLater departure.reason) placed

end

end World

/--
Announcing an attempt that has settled is announcing it and settling it at once.
Whatever the cache has in flight or remembers, whatever page its host shows and
whether the resolver is used or let go of, both orders give the same replies and
lead to the same world: to the turn that announces the attempt, and, if the cache
accepts it, to the turn that settles it right after.  So the caches, the metrics,
the log and the journal are the same, and what the announcement discards is
announced before whatever the settlement makes leave.

The listener does nothing about stores that are discarded; what it does about
others makes no difference.  If it does nothing at all, the cache is what the two
turns make of it.
-/
theorem settled_attempt_is_announced_like_one_settled_at_once
    {world : World}
    {cache index attempt : Nat}
    {cell : Cell}
    {id : UInt64}
    (names : world.caches[cache]? = some index)
    (found : world.cells[index]? = some cell)
    (unsettled : world.slots[attempt]? = some ⟨Attempt.start id, some {}⟩)
    (silent :
      ∀ listener, cell.listener = some listener → listener.scripts.discard = [])
    (use : Use)
    (depth : Nat) :
    let announce : Command := .announce cache attempt
    let settle : Command := .attempt attempt use.command
    let settled :=
      world.showing attempt ⟨⟨id, .settled use.outcome⟩, none⟩ {}
    let ended :=
      settled.announceAndSettle (runScript depth) index cell attempt id use.outcome
    (performTop depth settle world = (.nothing, settled) ∧
      (performTop depth announce world).1 = .nothing) ∧
    (performTop depth announce (performTop depth settle world).2 = (.nothing, ended) ∧
      performTop depth settle (performTop depth announce world).2 = (.nothing, ended)) ∧
    ((∀ listener,
        cell.listener = some listener →
        ∀ reason, listener.scripts.on reason = []) →
      ended.cells[index]? =
        some
          { cell with
            cache :=
              cell.cache.announceAndSettle id use.outcome
                (world.observed cell) }) := by
  intro announce settle settled ended
  have disregards : cell.Disregards .discard (runScript depth) := by
    intro listener listens other
    rw [Scripts.on, silent listener listens]
    exact runScript_nil depth other
  have namesStill : settled.caches[cache]? = some index := names
  have foundStill : settled.cells[index]? = some cell := found
  have hasSettled :
      settled.slots[attempt]? = some ⟨⟨id, .settled use.outcome⟩, none⟩ :=
    World.getElem?_slots_showing unsettled _ _
  have settles : performTop depth settle world = (.nothing, settled) :=
    reply_use unsettled use
  refine ⟨⟨settles, ?_⟩, ⟨?_, ?_⟩, ?_⟩
  · rw [performTop, reply_announce names found unsettled]
  · rw [settles, performTop, reply_announce namesStill foundStill hasSettled]
    exact congrArg (Prod.mk Reply.nothing)
      (World.announceAttempt_of_settled rfl disregards foundStill hasSettled)
  · rw [performTop, performTop, reply_announce names found unsettled]
    exact World.reply_use_of_announced rfl disregards found unsettled use
  · intro idle
    refine World.cells_announceAndSettle rfl disregards foundStill ?_ use.outcome
    intro reason listener listens other
    rw [idle listener listens reason]
    exact runScript_nil depth other

/--
A traversal that has succeeded before it is announced takes the place of a link in
flight and is committed for another page, for which the cache has no room left.
The link is discarded first, as it is when the traversal is announced in time.
-/
theorem settled_attempt_is_announced_like_one_settled_at_once_of_traversal :
    let opening : List Command :=
      [.openHost none, .metric (.create .exporting),
        .build 0
          { capacity := 1
            name := "cache"
            config := none
            listener := some {}
            registry := some 0 },
        .cache 0 (.set "key" "value"), .openAttempt 7, .announce 0 0,
        .host 0 .push]
    let tallies : List Tally := [.transition, .discard, .commit, .evict]
    let opened := worldAfter scriptDepth opening { tracing := false }
    let world := (performTop scriptDepth (.openAttempt 8) opened).2
    let announce : Command := .announce 0 1
    let settle : Command := .attempt 1 (.settle .succeeded)
    let early :=
      performTop scriptDepth announce (performTop scriptDepth settle world).2
    let late :=
      performTop scriptDepth settle (performTop scriptDepth announce world).2
    ∃ cell,
      (world.caches[0]? = some 0 ∧
        world.cells[0]? = some cell ∧
        world.slots[1]? = some ⟨Attempt.start 8, some {}⟩ ∧
        ∀ listener,
          cell.listener = some listener → listener.scripts.discard = []) ∧
      early = late ∧
      early.1 = .nothing ∧
      early.2.log.drop world.log.length =
        [.departed ⟨.discard, .number 1⟩ 0, .departed ⟨.evict, .number 1⟩ 0] ∧
      tallies.map (fun tally => early.2.word? (cell.meters.tally tally)) =
        [some 2, some 1, some 1, some 1] := by
  intro opening tallies opened world announce settle early late
  have names : world.caches[0]? = some 0 := by decide +kernel
  have unsettled : world.slots[1]? = some ⟨Attempt.start 8, some {}⟩ := by
    have one : opened.slots.length = 1 := by decide +kernel
    have opens (before : World) :
        (performTop scriptDepth (.openAttempt 8) before).2.slots =
          before.slots ++ [⟨Attempt.start 8, some {}⟩] :=
      rfl
    rw [opens opened]
    simp [one]
  have log :
      early.2.log.drop world.log.length =
        [.departed ⟨.discard, .number 1⟩ 0,
          .departed ⟨.evict, .number 1⟩ 0] := by
    decide +kernel
  have seen :
      world.cells.map (fun cell =>
          (cell.listener.all fun listener => listener.scripts.discard.isEmpty,
            tallies.map fun tally => early.2.word? (cell.meters.tally tally))) =
        [(true, [some 2, some 1, some 1, some 1])] := by
    decide +kernel
  obtain ⟨cell, alone, shows⟩ := List.map_eq_singleton_iff.mp seen
  obtain ⟨disregards, words⟩ := Prod.mk.inj shows
  have found : world.cells[0]? = some cell := by rw [alone]; rfl
  have silent (listener : Listener) (listens : cell.listener = some listener) :
      listener.scripts.discard = [] := by
    rw [listens] at disregards
    exact List.isEmpty_iff.mp disregards
  obtain ⟨_, ⟨endsEarly, endsLate⟩, _⟩ :=
    settled_attempt_is_announced_like_one_settled_at_once names found unsettled
      silent (.settles .succeeded) scriptDepth
  exact ⟨cell, ⟨names, found, unsettled, silent⟩, endsEarly.trans endsLate.symm,
    congrArg Prod.fst endsEarly, log, words⟩

end Session

end NavState
