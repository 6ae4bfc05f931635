import NavState.Proofs.Reachability
import NavState.Proofs.Rows
import NavState.Session.Tasks

namespace NavState.Session.World

/-!
# Calls from inside of callbacks

A listener, a callback of an attempt or a host may call any cache while another
call is still being answered.  Whatever happens in a world is made up of turns,
each with the delivery of what left during it, of new caches, of what is done to
attempts, of changes of metrics, and of changes that nobody notices.  A relation
between worlds that holds of these, and that is transitive, holds of all that can
happen.  A relation that does not tell attempts apart need not be shown to hold
of what is done to them.
-/

/-- Neither a cache nor a listener notices that one world became the other. -/
structure Apart (before ended : World) : Prop where
  cells : ended.cells = before.cells
  caches : before.caches <+: ended.caches
  counters : before.counters ⊆ ended.counters
  gauges : before.gauges ⊆ ended.gauges
  log :
    ∃ news,
      ended.log = before.log ++ news ∧
        ∀ departure cache, .departed departure cache ∉ news

/-- What differs in none of these parts differs for no cache and no listener. -/
theorem apart_of_eq
    {before ended : World}
    (same :
      (ended.cells, ended.caches, ended.counters, ended.gauges, ended.log) =
        (before.cells, before.caches, before.counters, before.gauges,
          before.log)) :
    before.Apart ended := by
  simp only [Prod.mk.injEq] at same
  obtain ⟨cells, caches, counters, gauges, log⟩ := same
  exact {
    cells := cells
    caches := by rw [caches]
    counters := by rw [counters]; exact List.Subset.refl _
    gauges := by rw [gauges]; exact List.Subset.refl _
    log := ⟨[], by simp [log], by simp⟩
  }

theorem Apart.trans
    {before between ended : World}
    (first : before.Apart between)
    (second : between.Apart ended) :
    before.Apart ended where
  cells := second.cells.trans first.cells
  caches := first.caches.trans second.caches
  counters := List.Subset.trans first.counters second.counters
  gauges := List.Subset.trans first.gauges second.gauges
  log := by
    obtain ⟨earlier, logBetween, unnoticedEarlier⟩ := first.log
    obtain ⟨later, logEnded, unnoticedLater⟩ := second.log
    refine ⟨earlier ++ later, ?_, ?_⟩
    · rw [logEnded, logBetween, List.append_assoc]
    · intro departure cache member
      exact (List.mem_append.mp member).elim
        (unnoticedEarlier departure cache)
        (unnoticedLater departure cache)

/--
No attempt has changed either, nothing was put in place for one, and client code
noted nothing down.
-/
structure Quiet (before ended : World) : Prop extends Apart before ended where
  attempts : ended.slots.map Slot.attempt = before.slots.map Slot.attempt
  installed : ended.journal.installed = before.journal.installed
  hosted : ended.journal.hosted = before.journal.hosted
  remarks : ended.journal.remarks = before.journal.remarks

theorem quiet_of_eq
    {before ended : World}
    (same :
      (ended.cells, ended.caches, ended.slots, ended.counters, ended.gauges,
          ended.journal, ended.log) =
        (before.cells, before.caches, before.slots, before.counters,
          before.gauges, before.journal, before.log)) :
    before.Quiet ended := by
  simp only [Prod.mk.injEq] at same
  obtain ⟨cells, caches, slots, counters, gauges, journal, log⟩ := same
  exact ⟨apart_of_eq (by rw [cells, caches, counters, gauges, log]), by rw [slots],
    by rw [journal], by rw [journal], by rw [journal]⟩

theorem Quiet.trans
    {before between ended : World}
    (first : before.Quiet between)
    (second : between.Quiet ended) :
    before.Quiet ended :=
  ⟨first.toApart.trans second.toApart, second.attempts.trans first.attempts,
    second.installed.trans first.installed, second.hosted.trans first.hosted,
    second.remarks.trans first.remarks⟩

/-- Nobody notices at all: every metric has kept its word, too. -/
structure Still (before ended : World) : Prop extends Quiet before ended where
  words : before.depot.Keeps ended.depot

theorem still_of_eq
    {before ended : World}
    (same :
      (ended.cells, ended.caches, ended.slots, ended.counters, ended.gauges,
          ended.depot.vectors, ended.journal, ended.log) =
        (before.cells, before.caches, before.slots, before.counters,
          before.gauges, before.depot.vectors, before.journal, before.log)) :
    before.Still ended := by
  simp only [Prod.mk.injEq] at same
  obtain ⟨cells, caches, slots, counters, gauges, vectors, journal, log⟩ := same
  exact ⟨quiet_of_eq (by rw [cells, caches, slots, counters, gauges, journal, log]),
    Metric.Depot.keeps_of_vectors_eq vectors⟩

/-- Only the announcement of a departure is noticed in the log. -/
theorem still_record
    {entry : LogEntry}
    (unnoticed : ∀ departure cache, entry ≠ .departed departure cache)
    (world : World) :
    world.Still (world.record entry) where
  cells := rfl
  caches := List.prefix_rfl
  counters := List.Subset.refl _
  gauges := List.Subset.refl _
  log := by
    refine ⟨[entry], rfl, ?_⟩
    intro departure cache member
    exact unnoticed departure cache (List.mem_singleton.mp member).symm
  attempts := rfl
  installed := rfl
  hosted := rfl
  remarks := rfl
  words := Metric.Depot.keeps_of_vectors_eq rfl

theorem still_clone (index : Nat) (world : World) :
    world.Still { world with caches := world.caches ++ [index] } where
  cells := rfl
  caches := List.prefix_append _ _
  counters := List.Subset.refl _
  gauges := List.Subset.refl _
  log := ⟨[], by simp, by simp⟩
  attempts := rfl
  installed := rfl
  hosted := rfl
  remarks := rfl
  words := Metric.Depot.keeps_of_vectors_eq rfl

theorem still_trace (event : TraceEvent) (world : World) :
    world.Still (world.trace event) := by
  simp only [trace]
  split
  · exact still_record (by simp) world
  · exact still_of_eq rfl

/-- Callbacks that are registered or begin are noticed in the journal only. -/
theorem still_note
    {entry : Journal → Journal}
    {world : World}
    (installed : (entry world.journal).installed = world.journal.installed)
    (hosted : (entry world.journal).hosted = world.journal.hosted)
    (remarks : (entry world.journal).remarks = world.journal.remarks) :
    world.Still (world.note entry) :=
  ⟨⟨apart_of_eq rfl, rfl, installed, hosted, remarks⟩,
    Metric.Depot.keeps_of_vectors_eq rfl⟩

/-- A depot in which no metric that was there has changed is not noticed. -/
theorem still_depot
    {world : World}
    {depot : Metric.Depot}
    (keeps : world.depot.Keeps depot) :
    world.Still { world with depot := depot } :=
  ⟨quiet_of_eq rfl, keeps⟩

/-- Metrics that are kept for later are not noticed. -/
theorem still_keep
    {world : World}
    {counters gauges : List Meter}
    (keepsCounters : world.counters ⊆ counters)
    (keepsGauges : world.gauges ⊆ gauges) :
    world.Still { world with counters := counters, gauges := gauges } where
  cells := rfl
  caches := List.prefix_rfl
  counters := keepsCounters
  gauges := keepsGauges
  log := ⟨[], by simp, by simp⟩
  attempts := rfl
  installed := rfl
  hosted := rfl
  remarks := rfl
  words := Metric.Depot.keeps_of_vectors_eq rfl

theorem quiet_change
    (meter : Meter)
    (change : Metric.Change)
    (world : World) :
    world.Quiet (world.change meter change) := by
  cases meter with
  | recorded name values =>
      exact (still_record (by simp) world).toQuiet
  | _ =>
      exact quiet_of_eq rfl

theorem quiet_file
    (meters : Meters)
    (world : World)
    (report : Report PageId) :
    world.Quiet (world.file meters report) := by
  cases report with
  | count tally =>
      exact quiet_change _ _ world
  | size pages =>
      exact quiet_change _ _ world
  | note note =>
      exact (still_trace _ world).toQuiet

/-- Only the metrics tell what a turn reports. -/
theorem quiet_enact
    {ρ : Type}
    (index : Nat)
    (cell : Cell)
    (turn : Turn PageId String String ρ)
    (world : World) :
    (world.putCache index turn.cache).Quiet (world.enact index cell turn) := by
  have filed (reports : List (Report PageId)) (world : World) :
      world.Quiet (reports.foldl (file cell.meters) world) := by
    induction reports generalizing world with
    | nil =>
        exact quiet_of_eq rfl
    | cons report rest inductionHypothesis =>
        exact (quiet_file cell.meters world report).trans
          (inductionHypothesis _)
  exact filed turn.reports _

/-- The world once a departure is counted, if it is an eviction. -/
def counting
    (cell : Cell)
    (departure : Departure PageId)
    (world : World) :
    World :=
  if departure.reason = .evict then
    world.change (cell.meters.tally .evict) (.increase 1)
  else
    world

theorem quiet_counting
    (cell : Cell)
    (departure : Departure PageId)
    (world : World) :
    world.Quiet (world.counting cell departure) := by
  rw [counting]
  split
  · exact quiet_change _ _ world
  · exact quiet_of_eq rfl

/-- A departure is counted and then announced to the listener, if there is one. -/
theorem deliverOne_counting
    (client : Client)
    (cell : Cell)
    (world : World)
    (departure : Departure PageId) :
    world.deliverOne client cell departure =
      match cell.listener with
      | none => world.counting cell departure
      | some listener =>
          client (listener.scripts.on departure.reason)
            ((world.counting cell departure).record
              (.departed departure listener.cache)) :=
  rfl

/-- Only the metrics tell that a departure is counted. -/
theorem deliverOne_eq
    (client : Client)
    (cell : Cell)
    (world : World)
    (departure : Departure PageId) :
    ∃ counted,
      world.Quiet counted ∧
        world.deliverOne client cell departure =
          match cell.listener with
          | none => counted
          | some listener =>
              client (listener.scripts.on departure.reason)
                (counted.record (.departed departure listener.cache)) :=
  ⟨_, quiet_counting cell departure world,
    deliverOne_counting client cell world departure⟩

/--
Deliveries are told apart by what listeners do, by whoever tells neither metrics
nor the log apart.
-/
theorem tracked_deliver
    (relation : World → World → Prop)
    (trans :
      ∀ {before between ended},
        relation before between →
        relation between ended →
        relation before ended)
    (quiet :
      ∀ {before ended : World}, before.Quiet ended → relation before ended)
    (record : ∀ entry (world : World), relation world (world.record entry))
    {client : Client}
    (continues : ∀ script world, relation world (client script world))
    (cell : Cell)
    (departures : List (Departure PageId))
    (world : World) :
    relation world (world.deliver client cell departures) := by
  induction departures generalizing world with
  | nil =>
      exact quiet (quiet_of_eq rfl)
  | cons departure rest inductionHypothesis =>
      have counted := quiet (quiet_counting cell departure world)
      have delivered :
          relation world (world.deliverOne client cell departure) := by
        rw [deliverOne_counting]
        split
        · exact counted
        · exact trans counted (trans (record _ _) (continues _ _))
      exact trans delivered (inductionHypothesis _)

/-- What is put into an object is what is seen of it. -/
theorem map_modify_eq_set
    {α β : Type}
    {view : α → β}
    {change : α → α}
    {value : β}
    (seen : ∀ item, view (change item) = value)
    (items : List α)
    (index : Nat) :
    (items.modify index change).map view = (items.map view).set index value := by
  induction items generalizing index with
  | nil =>
      simp
  | cons item rest inductionHypothesis =>
      cases index with
      | zero =>
          simp [seen]
      | succ index =>
          simp [inductionHypothesis]

theorem attempts_putAttempt
    (index : Nat)
    (attempt : Attempt Callback)
    (world : World) :
    (world.putAttempt index attempt).slots.map Slot.attempt =
      (world.slots.map Slot.attempt).set index attempt := by
  have seen (slot : Slot) : { slot with attempt := attempt }.attempt = attempt :=
    rfl
  exact map_modify_eq_set seen world.slots index

/-- To put the attempt of a slot back changes nothing. -/
theorem putAttempt_self
    {world : World}
    {index : Nat}
    {slot : Slot}
    (found : world.slots[index]? = some slot) :
    world.putAttempt index slot.attempt = world := by
  obtain ⟨inside, rfl⟩ := List.getElem?_eq_some_iff.mp found
  have same :
      world.slots.modify index (fun slot =>
          { slot with attempt := world.slots[index].attempt }) =
        world.slots := by
    rw [List.modify_eq_set_getElem?, found]
    exact List.set_getElem_self inside
  rw [putAttempt, same]

/-- To let go of a resolver that was used changes nothing. -/
theorem dropResolver_of_used
    {resolver : Resolver}
    (used : resolver.settled = true)
    (client : Client)
    (index : Nat)
    (world : World) :
    world.dropResolver client index resolver = world := by
  cases found : world.slots[index]? with
  | none =>
      simp only [dropResolver, found]
  | some slot =>
      simp only [dropResolver, found, Resolver.drop,
        Resolver.settle_of_settled used, List.foldl_nil]
      exact putAttempt_self found

/-- A settlement is the use of the resolver, after which nothing is left to drop. -/
theorem settleAttempt_eq
    (client : Client)
    (index : Nat)
    (resolver : Resolver)
    (outcome : Outcome)
    (world : World) :
    world.settleAttempt client index resolver outcome =
      match world.slots[index]? with
      | none => world
      | some slot =>
          (resolver.settle outcome slot.attempt).2.2.foldl
            (runCallback client index outcome)
            (world.putAttempt index
              (resolver.settle outcome slot.attempt).2.1) := by
  cases found : world.slots[index]? with
  | none =>
      simp only [settleAttempt, found]
  | some slot =>
      simp only [settleAttempt, found]
      exact dropResolver_of_used (Resolver.settled_settle _ _ _) client index _

/-- To let go of a resolver is to settle with it that the attempt is aborted. -/
theorem dropResolver_eq
    (client : Client)
    (index : Nat)
    (resolver : Resolver)
    (world : World) :
    world.dropResolver client index resolver =
      world.settleAttempt client index resolver .aborted := by
  rw [settleAttempt_eq]
  rfl

/-- An attempt is the same without its resolver at hand. -/
theorem still_takeResolver
    {index : Nat}
    {world : World}
    {taken : Resolver × World}
    (found : world.takeResolver index = some taken) :
    world.Still taken.2 := by
  simp only [takeResolver, Option.bind_eq_bind, Option.bind_eq_some_iff,
    Option.pure_def, Option.some.injEq] at found
  obtain ⟨slot, foundSlot, resolver, _, rfl⟩ := found
  refine ⟨⟨apart_of_eq rfl, ?_, rfl, rfl, rfl⟩,
    Metric.Depot.keeps_of_vectors_eq rfl⟩
  refine List.ext_getElem? fun other => ?_
  by_cases same : index = other
  · subst same
    obtain ⟨inside, rfl⟩ := List.getElem?_eq_some_iff.mp foundSlot
    simp [inside]
  · simp [same]

/-- A resolver is taken away from an attempt, and nothing else changes. -/
theorem runtime_takeResolver
    {index : Nat}
    {world rest : World}
    {resolver : Resolver}
    (taken : world.takeResolver index = some (resolver, rest)) :
    rest.runtime = world.runtime := by
  simp only [takeResolver, Option.bind_eq_bind, Option.bind_eq_some_iff,
    Option.pure_def, Option.some.injEq, Prod.mk.injEq] at taken
  obtain ⟨slot, found, held, isHeld, rfl, rfl⟩ := taken
  rfl

/-- What is due has no part in who has a resolver. -/
theorem takeResolver_schedule
    {index : Nat}
    {world rest : World}
    {resolver : Resolver}
    (taken : world.takeResolver index = some (resolver, rest)) :
    rest.schedule = world.schedule ∧
      ∀ schedule,
        { world with schedule := schedule }.takeResolver index =
          some (resolver, { rest with schedule := schedule }) := by
  simp only [takeResolver, Option.bind_eq_bind, Option.bind_eq_some_iff,
    Option.pure_def, Option.some.injEq, Prod.mk.injEq] at taken
  obtain ⟨slot, found, held, isHeld, rfl, rfl⟩ := taken
  refine ⟨rfl, fun schedule => ?_⟩
  simp [takeResolver, found, isHeld]

/-- The turn is the one that an operation takes on a cache. -/
structure Takes
    {ρ : Type}
    (found : Cache PageId String String)
    (operation : Operation PageId String String)
    (turn : Turn PageId String String ρ) :
    Prop where
  cache : turn.cache = (found.perform operation).cache
  reports : turn.reports = (found.perform operation).reports
  departures : turn.departures = (found.perform operation).departures

/--
A relation between worlds that holds of calls which stand alone, of new caches,
and of changes of metrics that were asked for by name.
-/
structure TracksSteps (relation : World → World → Prop) : Prop where
  trans :
    ∀ {before between ended},
      relation before between →
      relation between ended →
      relation before ended
  change :
    ∀ {world : World} {meter : Meter},
      meter ∈ world.counters ∨ meter ∈ world.gauges →
      ∀ change, relation world (world.change meter change)
  /-- Turns count with their deliveries, if the listeners can be relied on. -/
  call :
    ∀ {client : Client},
      (∀ script world, relation world (client script world)) →
      ∀ {world : World} {index : Nat} {cell : Cell},
        world.cells[index]? = some cell →
        ∀ {ρ : Type}
          {turn : Turn PageId String String ρ}
          (operation : Operation PageId String String),
          Takes cell.cache operation turn →
          operation.standsAlone = true →
          relation world (world.takeTurn client index cell turn)
  /-- A cache is added with a listener under its own number. -/
  cell :
    ∀ (world : World) {cell : Cell} {capacity : Nat} {page : PageId},
      Cache.empty? capacity page = some cell.cache →
      (∀ listener,
        cell.listener = some listener →
        listener.cache = world.caches.length) →
      relation world
        { world with
          cells := world.cells ++ [cell]
          caches := world.caches ++ [world.cells.length] }

/-- A relation that holds of what is asked of attempts, too. -/
structure TracksRequests (relation : World → World → Prop) : Prop
    extends TracksSteps relation where
  /-- An announcement counts with its registration. -/
  announce :
    ∀ {client : Client},
      (∀ script world, relation world (client script world)) →
      ∀ {world : World} {index attempt : Nat} {cell : Cell} {slot : Slot},
        world.cells[index]? = some cell →
        world.slots[attempt]? = some slot →
        relation world
          (world.announceAttempt client index cell attempt slot.attempt.id)
  /-- An attempt of the host counts with its settlement. -/
  hosted :
    ∀ {client : Client},
      (∀ script world, relation world (client script world)) →
      ∀ {world : World} {index : Nat} {cell : Cell},
        world.cells[index]? = some cell →
        ∀ (id : UInt64) (outcome : Option Outcome) (script : Script),
          relation world
            (world.announceHosted client index cell id outcome script)
  /-- Client code waits for an attempt. -/
  awaits :
    ∀ {client : Client},
      (∀ script world, relation world (client script world)) →
      ∀ (attempt : Nat) (label : String) (steps : Script) (world : World),
        relation world (world.onSettle client attempt (.script label steps))

/-- A relation that holds of what nobody notices, too. -/
structure TracksCalls (relation : World → World → Prop) : Prop
    extends TracksSteps relation where
  still :
    ∀ {before ended : World},
      before.Still ended →
      relation before ended

/-- A relation that holds of whatever is done to attempts, too. -/
structure TracksAttempts (relation : World → World → Prop) : Prop
    extends TracksCalls relation, TracksRequests relation where
  /-- A settlement counts with the callbacks that are due by it. -/
  settle :
    ∀ {client : Client},
      (∀ script world, relation world (client script world)) →
      ∀ (attempt : Nat)
        (resolver : Resolver)
        (outcome : Outcome)
        (world : World),
        relation world (world.settleAttempt client attempt resolver outcome)
  opens :
    ∀ (id : UInt64) (resolver : Option Resolver) (world : World),
      relation world
        { world with
          slots := world.slots ++ [Slot.mk (Attempt.start id) resolver] }

/-- A relation that holds of any turn, whether it was due or not. -/
structure TracksTurns (relation : World → World → Prop) : Prop
    extends TracksCalls relation where
  turn :
    ∀ {client : Client},
      (∀ script world, relation world (client script world)) →
      ∀ {world : World} {index : Nat} {cell : Cell},
        world.cells[index]? = some cell →
        ∀ {ρ : Type}
          {turn : Turn PageId String String ρ}
          (operation : Operation PageId String String),
          Takes cell.cache operation turn →
          relation world (world.takeTurn client index cell turn)
  call := fun continues _ _ _ found _ _ operation takes _ =>
    turn continues found operation takes

end World

/-- Whether a callback is the settlement of a generation of a cell. -/
def Callback.settles
    (index generation : Nat)
    (callback : Callback) :
    Bool :=
  match callback with
  | .settlement cell settled => cell = index ∧ settled = generation
  | .script _ _ => false

namespace World

/--
One world becomes another while callbacks are held that are about to run, all of
which are held still.
-/
def Stays
    (relation : List Callback → List Callback → World → World → Prop)
    (before ended : World) :
    Prop :=
  ∀ held, relation held held before ended

/--
Relations between worlds and the callbacks that are held before and after, about
to be registered or to run.  Who settles a generation lets go of its settlement,
and who announces an attempt holds the settlement of what was accepted.
-/
structure TracksHeld
    (relation : List Callback → List Callback → World → World → Prop) :
    Prop where
  trans :
    ∀ {held kept rest : List Callback} {before between ended : World},
      relation held kept before between →
      relation kept rest between ended →
      relation held rest before ended
  /-- Settlements may be let go of, and scripts may be held or not. -/
  drop :
    ∀ {held kept : List Callback},
      (∀ index generation,
        kept.countP (Callback.settles index generation) ≤
          held.countP (Callback.settles index generation)) →
      ∀ world, relation held kept world world
  still :
    ∀ {before ended : World},
      before.Still ended →
      Stays relation before ended
  settles :
    ∀ {client : Client},
      (∀ script world, Stays relation world (client script world)) →
      ∀ {world : World} {index : Nat} {cell : Cell},
        world.cells[index]? = some cell →
        ∀ (generation : Nat) (outcome : Outcome) (held : List Callback),
          relation (.settlement index generation :: held) held world
            (world.takeTurn client index cell
              (cell.cache.settle generation outcome (world.observed cell)))
  /-- The host announces an attempt of its own. -/
  hosts :
    ∀ {client : Client},
      (∀ script world, Stays relation world (client script world)) →
      ∀ {world : World} {index : Nat} {cell : Cell},
        world.cells[index]? = some cell →
        ∀ (id : UInt64) (held : List Callback),
          let accepted := world.accept client index cell none id
          relation held
            (accepted.1.toList.map (Callback.settlement index) ++ held) world
            accepted.2

/-- Relations that hold of attempts that callbacks are registered with, too. -/
structure TracksWaiting
    (relation : List Callback → List Callback → World → World → Prop) :
    Prop
    extends TracksHeld relation where
  accepts :
    ∀ {client : Client},
      (∀ script world, Stays relation world (client script world)) →
      ∀ {world : World} {index : Nat} {cell : Cell},
        world.cells[index]? = some cell →
        ∀ (attempt : Nat) (id : UInt64) (held : List Callback),
          let accepted := world.accept client index cell (some attempt) id
          relation held
            (accepted.1.toList.map (Callback.settlement index) ++ held) world
            accepted.2
  /-- Callbacks that are held may wait in an attempt, and the other way around. -/
  puts :
    ∀ {world : World} {index : Nat} {slot : Slot},
      world.slots[index]? = some slot →
      ∀ {attempt : Attempt Callback} {held kept : List Callback},
        (∀ test,
          attempt.callbacks.countP test + kept.countP test =
            slot.attempt.callbacks.countP test + held.countP test) →
        relation held kept world (world.putAttempt index attempt)

/-- A relation that holds of turns and new caches and tells nothing else apart. -/
structure Tracks (relation : World → World → Prop) : Prop
    extends TracksTurns relation where
  apart :
    ∀ {before ended : World},
      before.Apart ended →
      relation before ended
  still := fun still => apart still.toApart
  change := fun _ change => apart (quiet_change _ change _).toApart

/-- What holds of each step and goes over holds of all steps together. -/
theorem related_foldl
    {relation : World → World → Prop}
    (refl : ∀ world, relation world world)
    (trans :
      ∀ {before between ended},
        relation before between →
        relation between ended →
        relation before ended)
    {ρ : Type}
    {step : World → ρ → World}
    (related : ∀ world item, relation world (step world item))
    (items : List ρ)
    (world : World) :
    relation world (items.foldl step world) := by
  induction items generalizing world with
  | nil =>
      exact refl world
  | cons item rest inductionHypothesis =>
      exact trans (related world item) (inductionHypothesis (step world item))

section Calls

variable {relation : World → World → Prop} (tracks : TracksCalls relation)

include tracks

theorem TracksCalls.of_eq
    {before ended : World}
    (same :
      (ended.cells, ended.caches, ended.slots, ended.counters, ended.gauges,
          ended.depot.vectors, ended.journal, ended.log) =
        (before.cells, before.caches, before.slots, before.counters,
          before.gauges, before.depot.vectors, before.journal, before.log)) :
    relation before ended :=
  tracks.still (still_of_eq same)

theorem TracksCalls.refl (world : World) : relation world world :=
  tracks.of_eq rfl

/-- What holds of each step holds of all steps together. -/
theorem tracked_foldl
    {ρ : Type}
    {step : World → ρ → World}
    (tracked : ∀ world item, relation world (step world item))
    (items : List ρ)
    (world : World) :
    relation world (items.foldl step world) :=
  related_foldl tracks.refl tracks.trans tracked items world

end Calls

section Turns

variable
  {relation : World → World → Prop}
  (tracks : TracksTurns relation)

include tracks

/-- An announcement is tracked if what it puts in place may be noted. -/
theorem tracked_accept
    {attempt : Option Nat}
    (notes :
      ∀ index generation (world : World),
        relation world (world.note (.install index generation attempt)))
    {client : Client}
    (continues : ∀ script world, relation world (client script world))
    {world : World}
    {index : Nat}
    {cell : Cell}
    (found : world.cells[index]? = some cell)
    (id : UInt64) :
    relation world (world.accept client index cell attempt id).2 := by
  have noted (accepted : Option Nat) :
      relation world (world.noteAccepted index attempt accepted) := by
    cases accepted with
    | none =>
        exact tracks.refl world
    | some generation =>
        exact notes index generation world
  have foundStill (accepted : Option Nat) :
      (world.noteAccepted index attempt accepted).cells[index]? = some cell := by
    cases accepted <;> exact found
  exact tracks.trans (noted _)
    (tracks.turn continues (foundStill _) (.announce id (world.observed cell))
      ⟨rfl, rfl, rfl⟩)

/-- Who tracks any turn has no use for what is held. -/
theorem TracksTurns.held
    (notes :
      ∀ index generation (world : World),
        relation world (world.note (.install index generation none))) :
    TracksHeld fun _ _ => relation where
  trans := tracks.trans
  drop := fun _ world => tracks.refl world
  still := fun still _ => tracks.still still
  settles := fun continues world _ cell found generation outcome held =>
    tracks.turn (fun script world => continues script world held) found
      (.settle generation outcome (world.observed cell)) ⟨rfl, rfl, rfl⟩
  hosts := fun continues _ _ _ found id held =>
    tracked_accept tracks notes (fun script world => continues script world held)
      found id

end Turns

section Held

variable
  {relation : List Callback → List Callback → World → World → Prop}
  (tracks : TracksHeld relation)

include tracks

theorem TracksHeld.drop_first
    (callback : Callback)
    (held : List Callback)
    (world : World) :
    relation (callback :: held) held world world :=
  tracks.drop (fun _ _ => (List.sublist_cons_self callback held).countP_le) world

variable
  {client : Client}
  (continues : ∀ script world, Stays relation world (client script world))

include continues

/-- A settlement that is held runs, and is held no longer. -/
theorem tracked_settleGeneration
    (index generation : Nat)
    (outcome : Outcome)
    (held : List Callback)
    (world : World) :
    relation (.settlement index generation :: held) held world
      (world.settleGeneration client index generation outcome) := by
  simp only [settleGeneration]
  split
  · exact tracks.drop_first _ held world
  · next cell found =>
      exact tracks.settles continues found generation outcome held

theorem tracked_runCallback
    (attempt : Nat)
    (outcome : Outcome)
    (callback : Callback)
    (held : List Callback)
    (world : World) :
    relation (callback :: held) held world
      (world.runCallback client attempt outcome callback) := by
  have begun :
      Stays relation world (world.note (.begin attempt callback outcome)) :=
    tracks.still (still_note rfl rfl rfl)
  cases callback with
  | settlement cell generation =>
      exact tracks.trans (begun _)
        (tracked_settleGeneration tracks continues cell generation outcome held _)
  | script label steps =>
      have recorded (world : World) :
          Stays relation world (world.record (.settled label outcome)) :=
        tracks.still (still_record (by simp) world)
      have dropped := tracks.drop_first (.script label steps) held world
      exact tracks.trans dropped
        (tracks.trans (begun held)
          (tracks.trans (recorded _ held) (continues _ _ held)))

theorem tracked_callbacks
    (attempt : Nat)
    (outcome : Outcome)
    (callbacks held : List Callback)
    (world : World) :
    relation (callbacks ++ held) held world
      (callbacks.foldl (runCallback client attempt outcome) world) := by
  induction callbacks generalizing world with
  | nil =>
      exact tracks.drop (fun _ _ => Nat.le_refl _) world
  | cons callback rest inductionHypothesis =>
      exact tracks.trans
        (tracked_runCallback tracks continues attempt outcome callback
          (rest ++ held) world)
        (inductionHypothesis _)

theorem tracked_announceHosted
    {world : World}
    {index : Nat}
    {cell : Cell}
    (found : world.cells[index]? = some cell)
    (id : UInt64)
    (outcome : Option Outcome)
    (script : Script) :
    Stays relation world
      (world.announceHosted client index cell id outcome script) := by
  intro held
  have accepting : relation held _ world _ :=
    tracks.hosts continues found id held
  simp only [announceHosted]
  split
  · next ignored =>
      rw [ignored] at accepting
      exact accepting
  · next generation accepted taken =>
      rw [taken] at accepting
      let holding : List Callback := .settlement index generation :: held
      have recorded :
          Stays relation accepted (accepted.record (.registering id)) :=
        tracks.still (still_record (by simp) accepted)
      have registered :
          relation held holding world
            (client script (accepted.record (.registering id))) :=
        tracks.trans accepting
          (tracks.trans (recorded holding) (continues script _ holding))
      cases outcome with
      | none =>
          exact tracks.trans registered (tracks.drop_first _ held _)
      | some outcome =>
          exact tracks.trans registered
            (tracked_settleGeneration tracks continues index generation outcome
              held _)

end Held

section Waiting

variable
  {relation : List Callback → List Callback → World → World → Prop}
  (tracks : TracksWaiting relation)
  {client : Client}
  (continues : ∀ script world, Stays relation world (client script world))

include tracks continues

/-- A callback that is registered waits, or it is run. -/
theorem tracked_onSettle
    (index : Nat)
    (callback : Callback)
    (held : List Callback)
    (world : World) :
    relation (callback :: held) held world
      (world.onSettle client index callback) := by
  simp only [onSettle]
  split
  · exact tracks.drop_first callback held world
  · next slot found =>
      have noted :
          Stays relation world (world.note (.register index callback)) :=
        tracks.still (still_note rfl rfl rfl)
      refine tracks.trans (noted _) ?_
      have foundStill :
          (world.note (.register index callback)).slots[index]? = some slot :=
        found
      split
      · next due =>
          rw [Attempt.onSettle_due] at due
          refine tracks.puts foundStill fun test => ?_
          rw [Attempt.callbacks_onSettle due, List.countP_append,
            List.countP_singleton, List.countP_cons]
          omega
      · next outcome _ =>
          exact tracked_runCallback tracks.toTracksHeld continues index outcome
            callback held _

theorem tracked_settleAttempt
    (index : Nat)
    (resolver : Resolver)
    (outcome : Outcome)
    (world : World) :
    Stays relation world
      (world.settleAttempt client index resolver outcome) := by
  intro held
  rw [settleAttempt_eq]
  split
  · exact tracks.drop (fun _ _ => Nat.le_refl _) world
  · next slot found =>
      have taken :
          relation held ((resolver.settle outcome slot.attempt).2.2 ++ held) world
            (world.putAttempt index
              (resolver.settle outcome slot.attempt).2.1) := by
        refine tracks.puts found fun test => ?_
        rw [List.countP_append]
        simp only [Resolver.settle]
        split
        · simp
        · simp [Attempt.callbacks]
      exact tracks.trans taken
        (tracked_callbacks tracks.toTracksHeld continues index outcome _ held _)

/-- An announcement comes with the registration after it. -/
theorem tracked_announceAttempt
    {world : World}
    {index : Nat}
    {cell : Cell}
    (found : world.cells[index]? = some cell)
    (attempt : Nat)
    (id : UInt64) :
    Stays relation world
      (world.announceAttempt client index cell attempt id) := by
  intro held
  have accepting : relation held _ world _ :=
    tracks.accepts continues found attempt id held
  simp only [announceAttempt]
  split
  · next ignored =>
      rw [ignored] at accepting
      exact accepting
  · next generation accepted taken =>
      rw [taken] at accepting
      exact tracks.trans accepting
        (tracked_onSettle tracks continues attempt
          (.settlement index generation) held accepted)

/-- A script that is registered is no settlement. -/
theorem tracked_awaits
    (index : Nat)
    (label : String)
    (steps : Script)
    (world : World) :
    Stays relation world (world.onSettle client index (.script label steps)) := by
  intro held
  have holding : relation held (.script label steps :: held) world world :=
    tracks.drop
      (fun _ _ => by rw [List.countP_cons_of_neg (by simp [Callback.settles])])
      world
  exact tracks.trans holding (tracked_onSettle tracks continues index _ held world)

omit continues in
/-- What is done to attempts comes to what is held and to calls. -/
theorem TracksWaiting.attempts
    (calls : TracksSteps (Stays relation))
    (opens :
      ∀ (id : UInt64) (resolver : Option Resolver) (world : World),
        Stays relation world
          { world with
            slots := world.slots ++ [Slot.mk (Attempt.start id) resolver] }) :
    TracksAttempts (Stays relation) where
  toTracksSteps := calls
  still := tracks.still
  announce := fun continues _ _ attempt _ slot found _ =>
    tracked_announceAttempt tracks continues found attempt slot.attempt.id
  hosted := tracked_announceHosted tracks.toTracksHeld
  awaits := tracked_awaits tracks
  settle := tracked_settleAttempt tracks
  opens := opens

end Waiting

/-- Who tells neither attempts nor the journal apart tracks all of this. -/
theorem TracksTurns.attempts
    {relation : World → World → Prop}
    (tracks : TracksTurns relation)
    (of_eq :
      ∀ {before ended : World},
        (ended.cells, ended.caches, ended.counters, ended.gauges, ended.depot,
            ended.log) =
          (before.cells, before.caches, before.counters, before.gauges,
            before.depot, before.log) →
        relation before ended) :
    TracksAttempts relation := by
  have held : TracksHeld fun _ _ => relation :=
    tracks.held fun _ _ _ => of_eq rfl
  have waiting : TracksWaiting fun _ _ => relation := {
    toTracksHeld := held
    accepts := fun continues _ _ _ found _ id held =>
      tracked_accept tracks (fun _ _ _ => of_eq rfl)
        (fun script world => continues script world held) found id
    puts := fun _ _ _ _ _ => of_eq rfl
  }
  exact {
    toTracksCalls := tracks.toTracksCalls
    announce := fun continues _ _ attempt _ slot found _ =>
      tracked_announceAttempt waiting (fun script world _ => continues script world)
        found attempt slot.attempt.id []
    hosted := fun continues _ _ _ found id outcome script =>
      tracked_announceHosted held (fun script world _ => continues script world) found
        id outcome script []
    awaits := fun continues attempt label steps world =>
      tracked_awaits waiting (fun script world _ => continues script world) attempt
        label steps world []
    settle := fun continues attempt resolver outcome world =>
      tracked_settleAttempt waiting (fun script world _ => continues script world)
        attempt resolver outcome world []
    opens := fun _ _ _ => of_eq rfl
  }

theorem Tracks.attempts
    {relation : World → World → Prop}
    (tracks : Tracks relation) :
    TracksAttempts relation :=
  tracks.toTracksTurns.attempts fun same => by
    simp only [Prod.mk.injEq] at same
    obtain ⟨cells, caches, counters, gauges, _, log⟩ := same
    exact tracks.apart (apart_of_eq (by rw [cells, caches, counters, gauges, log]))

/-! ## Tasks -/

section Tasks

variable
  {relation : World → World → Prop}
  (tracks : TracksAttempts relation)
  {client : Client}
  (continues : ∀ script world, relation world (client script world))

include tracks continues

omit continues in
/-- What is done with the resolver of a task is tracked. -/
theorem tracked_spend
    (index : Nat)
    (task : Task)
    {use : Resolver → World → World}
    (uses : ∀ resolver world, relation world (use resolver world))
    (world : World) :
    relation world (world.spend index task use) := by
  have spent : relation world (world.putTask index task.spend) :=
    tracks.of_eq rfl
  simp only [spend]
  split
  · exact spent
  · exact tracks.trans spent (uses _ _)

theorem tracked_drops
    (attempt : Nat)
    (resolver : Resolver)
    (world : World) :
    relation world (world.dropResolver client attempt resolver) := by
  rw [dropResolver_eq]
  exact tracks.settle continues attempt resolver .aborted world

theorem tracked_resolveTask
    (index : Nat)
    (task : Task)
    (outcome : Outcome)
    (world : World) :
    relation world (world.resolveTask client index task outcome) := by
  have pushed : relation world (world.pushFor task outcome) := by
    simp only [pushFor]
    split
    · exact tracks.refl world
    · split <;> exact tracks.of_eq rfl
  have traced :
      relation (world.pushFor task outcome)
        ((world.pushFor task outcome).trace (.resolved outcome)) :=
    tracks.still (still_trace _ _)
  refine tracks.trans (tracks.trans pushed traced) ?_
  exact tracked_spend tracks index task
    (fun resolver world =>
      tracks.settle continues task.attempt resolver outcome world) _

theorem tracked_loseTask
    (index : Nat)
    (task : Task)
    (loss : Loss)
    (world : World) :
    relation world (world.loseTask client index task loss) := by
  simp only [loseTask]
  split
  · exact tracked_spend tracks index task
      (tracked_drops tracks continues task.attempt) world
  · exact tracks.refl world

theorem tracked_pollTask
    (index : Nat)
    (world : World) :
    relation world (world.pollTask client index) := by
  have kept (ending : Ending) (ended : World) :
      relation ended (ended.keepEnding index ending) :=
    tracks.of_eq rfl
  simp only [pollTask]
  split
  · exact tracks.refl world
  · split
    · exact tracks.trans (tracked_loseTask tracks continues index _ _ world)
        (kept _ _)
    · split
      · split <;> exact tracks.of_eq rfl
      · exact tracks.trans (tracked_resolveTask tracks continues index _ _ world)
          (kept _ _)
      · exact tracks.trans (tracked_loseTask tracks continues index _ _ world)
          (kept _ _)

omit continues in
theorem tracked_putWoken
    (index : Nat)
    (woken : Bool × Task)
    (world : World) :
    relation world (world.putWoken index woken) := by
  simp only [putWoken]
  split <;> exact tracks.of_eq rfl

end Tasks

/-! ## Tasks told apart -/

/--
Nobody notices, and neither does the runner of tasks: every resolver is where it
was, every task stands where it did, and as much is due.
-/
structure Unmoved (before ended : World) : Prop extends Still before ended where
  slots : ended.slots = before.slots
  tasks : ended.tasks = before.tasks
  arrivals : ended.schedule.arrivals = before.schedule.arrivals
  queue : ended.schedule.queue = before.schedule.queue
  runtime : ended.runtime = before.runtime
  journal : ended.journal = before.journal

theorem unmoved_of_eq
    {before ended : World}
    (same :
      (ended.cells, ended.caches, ended.slots, ended.counters, ended.gauges,
          ended.depot.vectors, ended.journal, ended.log, ended.tasks,
          ended.schedule.arrivals, ended.schedule.queue, ended.runtime) =
        (before.cells, before.caches, before.slots, before.counters,
          before.gauges, before.depot.vectors, before.journal, before.log,
          before.tasks, before.schedule.arrivals, before.schedule.queue,
          before.runtime)) :
    before.Unmoved ended := by
  simp only [Prod.mk.injEq] at same
  obtain ⟨cells, caches, slots, counters, gauges, vectors, journal, log, tasks,
    arrivals, queue, runtime⟩ := same
  have still : before.Still ended :=
    still_of_eq
      (by rw [cells, caches, slots, counters, gauges, vectors, journal, log])
  exact ⟨still, slots, tasks, arrivals, queue, runtime, journal⟩

/-- Only the announcement of a departure is noticed in the log. -/
theorem unmoved_record
    {entry : LogEntry}
    (unnoticed : ∀ departure cache, entry ≠ .departed departure cache)
    (world : World) :
    world.Unmoved (world.record entry) :=
  ⟨still_record unnoticed world, rfl, rfl, rfl, rfl, rfl, rfl⟩

theorem unmoved_trace (event : TraceEvent) (world : World) :
    world.Unmoved (world.trace event) := by
  simp only [trace]
  split
  · exact unmoved_record (by simp) world
  · exact unmoved_of_eq rfl

theorem unmoved_clone (index : Nat) (world : World) :
    world.Unmoved { world with caches := world.caches ++ [index] } :=
  ⟨still_clone index world, rfl, rfl, rfl, rfl, rfl, rfl⟩

/-- A depot in which no metric that was there has changed is not noticed. -/
theorem unmoved_depot
    {world : World}
    {depot : Metric.Depot}
    (keeps : world.depot.Keeps depot) :
    world.Unmoved { world with depot := depot } :=
  ⟨still_depot keeps, rfl, rfl, rfl, rfl, rfl, rfl⟩

/-- Metrics that are kept for later are not noticed. -/
theorem unmoved_keep
    {world : World}
    {counters gauges : List Meter}
    (keepsCounters : world.counters ⊆ counters)
    (keepsGauges : world.gauges ⊆ gauges) :
    world.Unmoved { world with counters := counters, gauges := gauges } :=
  ⟨still_keep keepsCounters keepsGauges, rfl, rfl, rfl, rfl, rfl, rfl⟩

/-- A relation that tells apart who has a resolver, and where tasks stand. -/
structure TracksTasks (relation : World → World → Prop) : Prop
    extends TracksRequests relation where
  unmoved :
    ∀ {before ended : World},
      before.Unmoved ended →
      relation before ended
  /-- An attempt is opened with its resolver at hand. -/
  opens :
    ∀ (id : UInt64) (world : World),
      relation world
        { world with
          slots := world.slots ++ [Slot.mk (Attempt.start id) (some {})] }
  /-- The resolver at hand is used, with the callbacks that are due by it. -/
  uses :
    ∀ {client : Client},
      (∀ script world, relation world (client script world)) →
      ∀ {world rest : World} {index : Nat} {resolver : Resolver},
        world.takeResolver index = some (resolver, rest) →
        ∀ outcome,
          relation world (rest.settleAttempt client index resolver outcome)
  /-- A future that owns the resolver at hand is refused. -/
  refuses :
    ∀ {client : Client},
      (∀ script world, relation world (client script world)) →
      ∀ {world rest : World} {index : Nat} {resolver : Resolver},
        world.takeResolver index = some (resolver, rest) →
        relation world (rest.refuse client index resolver)
  /-- A task is spawned that takes the resolver at hand along. -/
  spawns :
    ∀ {world rest : World} {index : Nat} {resolver : Resolver},
      world.takeResolver index = some (resolver, rest) →
      ∀ future pushes mailbox,
        mailbox = .empty ∨ mailbox = .hungUp →
        relation world
          { rest with
            tasks :=
              rest.tasks ++
                [{ attempt := index
                   resolver := some resolver
                   future := future
                   pushes := pushes
                   mailbox := mailbox }]
            schedule := rest.schedule.add rest.tasks.length }
  wakes :
    ∀ {world : World} {index : Nat} {task : Task},
      world.tasks[index]? = some task →
      relation world (world.putWoken index task.wake)
  receives :
    ∀ {world : World} {index : Nat} {task : Task},
      world.tasks[index]? = some task →
      task.hasSender = true →
      ∀ mailbox, relation world (world.putWoken index (task.receive mailbox))
  aborts :
    ∀ {world : World} {index : Nat} {task : Task},
      world.tasks[index]? = some task →
      relation world (world.putWoken index (task.abort world.runtime))
  /-- The ending of a task is collected. -/
  joins :
    ∀ {world : World} {index : Nat} {task : Task},
      world.tasks[index]? = some task →
      relation world (world.putTask index { task with joined := true })
  /-- The task that is due is polled. -/
  polls :
    ∀ {client : Client},
      (∀ script world, relation world (client script world)) →
      ∀ {world : World} {index : Nat} {schedule : Schedule},
        world.runtime.take? world.schedule = some (index, schedule) →
        relation world
          ({ world with schedule := schedule }.pollTask client index)

/-- Who does not tell tasks apart need not be asked about them. -/
theorem TracksAttempts.tasks
    {relation : World → World → Prop}
    (tracks : TracksAttempts relation) :
    TracksTasks relation where
  toTracksRequests := tracks.toTracksRequests
  unmoved := fun unmoved => tracks.still unmoved.toStill
  opens := fun id world => tracks.opens id (some {}) world
  uses := fun continues _ _ _ _ taken outcome =>
    tracks.trans (tracks.still (still_takeResolver taken))
      (tracks.settle continues _ _ outcome _)
  refuses := by
    intro client continues world rest index resolver taken
    refine tracks.trans (tracks.still (still_takeResolver taken)) ?_
    simp only [refuse]
    split
    · exact tracked_drops tracks continues index resolver rest
    · exact tracks.refl rest
  spawns := fun taken _ _ _ _ =>
    tracks.trans (tracks.still (still_takeResolver taken)) (tracks.of_eq rfl)
  wakes := fun _ => tracked_putWoken tracks _ _ _
  receives := fun _ _ _ => tracked_putWoken tracks _ _ _
  aborts := fun _ => tracked_putWoken tracks _ _ _
  joins := fun _ => tracks.of_eq rfl
  polls := fun continues world _ schedule _ =>
    have scheduled : relation world { world with schedule := schedule } :=
      tracks.of_eq rfl
    tracks.trans scheduled (tracked_pollTask tracks continues _ _)

section Runs

variable {relation : World → World → Prop} (tracks : TracksTasks relation)

include tracks

theorem TracksTasks.of_eq
    {before ended : World}
    (same :
      (ended.cells, ended.caches, ended.slots, ended.counters, ended.gauges,
          ended.depot.vectors, ended.journal, ended.log, ended.tasks,
          ended.schedule.arrivals, ended.schedule.queue, ended.runtime) =
        (before.cells, before.caches, before.slots, before.counters,
          before.gauges, before.depot.vectors, before.journal, before.log,
          before.tasks, before.schedule.arrivals, before.schedule.queue,
          before.runtime)) :
    relation before ended :=
  tracks.unmoved (unmoved_of_eq same)

theorem TracksTasks.refl (world : World) : relation world world :=
  tracks.of_eq rfl

theorem TracksTasks.foldl
    {ρ : Type}
    {step : World → ρ → World}
    (tracked : ∀ world item, relation world (step world item))
    (items : List ρ)
    (world : World) :
    relation world (items.foldl step world) :=
  related_foldl tracks.refl tracks.trans tracked items world

/-- What runs while the runner is told apart is tracked like the rest. -/
theorem tracked_withRunner
    (runner : Runner)
    {act : World → World}
    (tracked : ∀ world, relation world (act world))
    (world : World) :
    relation world (world.withRunner runner act) := by
  have entered :
      relation world
        { world with schedule := { world.schedule with runner := runner } } :=
    tracks.of_eq rfl
  have acted := tracks.trans entered (tracked _)
  exact tracks.trans acted (tracks.of_eq rfl)

variable
  {client : Client}
  (continues : ∀ script world, relation world (client script world))

include continues

omit continues in
/-- A resolver is done away with while the runner is told apart. -/
theorem tracked_withRunner_loses
    {world rest : World}
    {index : Nat}
    {resolver : Resolver}
    (taken : world.takeResolver index = some (resolver, rest))
    {lose : World → World}
    (loses :
      ∀ {before between : World},
        before.takeResolver index = some (resolver, between) →
        relation before (lose between))
    (runner : Runner) :
    relation world (rest.withRunner runner lose) := by
  obtain ⟨same, takes⟩ := takeResolver_schedule taken
  have entered :
      relation world
        { world with schedule := { rest.schedule with runner := runner } } := by
    rw [same]
    exact tracks.of_eq rfl
  have lost := tracks.trans entered (loses (takes _))
  exact tracks.trans lost (tracks.of_eq rfl)

theorem tracked_pollDue
    (ticks : Nat)
    (world : World) :
    relation world (pollDue client ticks world) := by
  induction ticks generalizing world with
  | zero =>
      exact tracks.refl world
  | succ ticks inductionHypothesis =>
      have ticked :
          relation world { world with schedule := world.schedule.tick } :=
        tracks.of_eq rfl
      simp only [pollDue]
      split
      · exact tracks.of_eq rfl
      · next index schedule taken =>
          have polled :
              relation { world with schedule := world.schedule.tick }
                ({ world with schedule := schedule }.pollTask client index) :=
            tracks.polls continues taken
          exact tracks.trans (tracks.trans ticked polled) (inductionHypothesis _)

theorem tracked_runRound (world : World) :
    relation world (world.runRound client) := by
  have readmitted (world : World) (index : Nat) :
      relation world (world.readmit index) := by
    simp only [ readmit]
    split
    · exact tracks.refl world
    · next found =>
        exact tracks.wakes found
  have polled := tracked_pollDue tracks continues world.runtime.roundLength world
  have ended :
      relation (pollDue client world.runtime.roundLength world)
        { pollDue client world.runtime.roundLength world with
          schedule :=
            { (pollDue client world.runtime.roundLength world).schedule with
              yielded := [] } } :=
    tracks.of_eq rfl
  exact tracks.trans (tracks.trans polled ended)
    (tracks.foldl readmitted _ _)

theorem tracked_drain (world : World) :
    relation world (world.drain client) := by
  have repeated (rounds : Nat) (world : World) :
      relation world (Nat.repeat (runRound client) rounds world) := by
    induction rounds with
    | zero =>
        exact tracks.refl world
    | succ rounds inductionHypothesis =>
        exact tracks.trans inductionHypothesis
          (tracked_runRound tracks continues _)
  exact tracked_withRunner tracks .running (repeated Schedule.drainRounds) world

end Runs

/-! ## Runs of the caches of a world -/

/--
Each cache of a world goes on by a run until the world has become another one,
and the caches that were added meanwhile are on such a run from their start.
-/
structure Follows (before ended : World) : Prop where
  goesOn :
    ∀ (index : Nat) (cell : Cell),
      before.cells[index]? = some cell →
      ∃ (later : Cell) (operations : List (Operation PageId String String)),
        ended.cells[index]? = some later ∧
          later.cache = cell.cache.after operations
  added :
    ∀ (index : Nat) (cell : Cell),
      before.cells[index]? = none →
      ended.cells[index]? = some cell →
      cell.cache.Reachable

/-- What leaves the cells alone leaves the caches where they are. -/
theorem follows_of_cells_eq
    {before ended : World}
    (same : ended.cells = before.cells) :
    Follows before ended where
  goesOn := by
    intro index cell found
    refine ⟨cell, [], ?_, rfl⟩
    rw [same]
    exact found
  added := by
    intro index cell absent found
    rw [same, absent] at found
    cases found

/-- Runs that follow each other make up a run. -/
theorem Follows.trans
    {before between ended : World}
    (first : Follows before between)
    (second : Follows between ended) :
    Follows before ended where
  goesOn := by
    intro index cell found
    obtain ⟨reached, earlier, foundBetween, sameBetween⟩ :=
      first.goesOn index cell found
    obtain ⟨later, operations, foundLater, sameLater⟩ :=
      second.goesOn index reached foundBetween
    refine ⟨later, earlier ++ operations, foundLater, ?_⟩
    rw [sameLater, sameBetween, Cache.after_append]
  added := by
    intro index cell absent found
    cases foundBetween : between.cells[index]? with
    | none =>
        exact second.added index cell foundBetween found
    | some reached =>
        obtain ⟨later, operations, foundLater, sameLater⟩ :=
          second.goesOn index reached foundBetween
        rw [found] at foundLater
        cases foundLater
        rw [sameLater]
        exact (first.added index reached absent foundBetween).after operations

/-- A turn puts the cache after it into the cell, whatever it reports. -/
theorem follows_enact
    {ρ : Type}
    {world : World}
    {index : Nat}
    {cell : Cell}
    (found : world.cells[index]? = some cell)
    {turn : Turn PageId String String ρ}
    (operation : Operation PageId String String)
    (performs : turn.cache = (cell.cache.perform operation).cache) :
    Follows world (world.enact index cell turn) := by
  have reported :
      Follows (world.putCache index turn.cache)
        (world.enact index cell turn) :=
    follows_of_cells_eq (quiet_enact index cell turn world).cells
  refine Follows.trans ⟨?_, ?_⟩ reported
  · intro other otherCell foundOther
    by_cases same : index = other
    · subst same
      rw [found] at foundOther
      cases foundOther
      refine ⟨{ cell with cache := turn.cache }, [operation], ?_, ?_⟩
      · simp [putCache, found]
      · exact performs
    · refine ⟨otherCell, [], ?_, rfl⟩
      simp [putCache, same, foundOther]
  · intro other otherCell absent foundOther
    simp [putCache, List.getElem?_modify, absent] at foundOther

theorem follows_deliver
    {client : Client}
    (continues : ∀ script world, Follows world (client script world))
    (cell : Cell)
    (departures : List (Departure PageId))
    (world : World) :
    Follows world (world.deliver client cell departures) :=
  tracked_deliver Follows Follows.trans
    (fun quiet => follows_of_cells_eq quiet.cells)
    (fun _ _ => follows_of_cells_eq rfl) continues cell departures world

/-- A cell added to a world holds a cache at its start. -/
theorem follows_addCell
    (world : World)
    {cell : Cell}
    (reachable : cell.cache.Reachable)
    (caches : List Nat) :
    Follows world
      { world with cells := world.cells ++ [cell], caches := caches } where
  goesOn := by
    intro index other found
    refine ⟨other, [], ?_, rfl⟩
    have inside : index < world.cells.length :=
      (List.getElem?_eq_some_iff.mp found).1
    rw [List.getElem?_append_left inside]
    exact found
  added := by
    intro index other absent found
    have outside : world.cells.length ≤ index :=
      List.getElem?_eq_none_iff.mp absent
    rw [List.getElem?_append_right outside] at found
    have isNew : other = cell := by
      have member := List.mem_of_getElem? found
      simpa using member
    rw [isNew]
    exact reachable

/-- Whatever happens in a world, its caches go on by runs. -/
theorem tracks_follows : Tracks Follows where
  trans := Follows.trans
  apart := fun apart => follows_of_cells_eq apart.cells
  turn := fun continues _ _ cell found _ turn operation takes =>
    (follows_enact found operation takes.cache).trans
      (follows_deliver continues cell turn.departures _)
  cell := fun world cell capacity page built _ =>
    follows_addCell world ⟨capacity, page, cell.cache, [], built, rfl⟩ _

end NavState.Session.World
