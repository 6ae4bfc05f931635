import NavState.Proofs.Shared
import NavState.Session.Caches

namespace NavState.Session

/-!
# Caches on a shared registry

A cache that is built on a registry finds the two shared vectors there or makes
them, and finds its rows or makes them.  Nothing that was filed before is lost,
and a build that is refused is not noticed.
-/

open NavState.Metric (Library)

namespace Act

variable {α β : Type}

/-- What comes after an action that goes well starts from its value and world. -/
theorem run_bind
    {act : Act α}
    {next : α → Act β}
    {world later : World}
    {value : α}
    (first : act.run.run world = (.ok value, later)) :
    (act >>= next).run.run world = (next value).run.run later := by
  change
    ExceptT.bindCont next (act.run.run world).1 (act.run.run world).2 = _
  rw [first]
  rfl

/-- What an action comes to: a value and a world, or a world it failed in. -/
def Meets
    (act : Act α)
    (world : World)
    (ended : α → World → Prop)
    (failed : World → Prop) :
    Prop :=
  match act.run.run world with
  | (.ok value, later) => ended value later
  | (.error _, later) => failed later

variable
  {world : World}
  {between : α → World → Prop}
  {ended : β → World → Prop}
  {failed : World → Prop}

/-- What comes after an action starts from what the action came to. -/
theorem meets_bind
    {act : Act α}
    {next : α → Act β}
    (first : act.Meets world between failed)
    (second :
      ∀ value later, between value later → (next value).Meets later ended failed) :
    (act >>= next).Meets world ended failed := by
  change
    match
      ExceptT.bindCont next (act.run.run world).1 (act.run.run world).2
    with
    | (.ok value, later) => ended value later
    | (.error _, later) => failed later
  rw [Meets] at first
  cases result : act.run.run world with
  | mk outcome later =>
      rw [result] at first
      cases outcome with
      | ok value =>
          exact second value later first
      | error fault =>
          exact first

theorem meets_get_bind
    {next : World → Act β}
    (after : (next world).Meets world ended failed) :
    (get >>= next).Meets world ended failed :=
  after

theorem meets_modify_bind
    {change : World → World}
    {next : Unit → Act β}
    (after : (next ()).Meets (change world) ended failed) :
    (modify change >>= next).Meets world ended failed :=
  after

theorem meets_set_bind
    {later : World}
    {next : Unit → Act β}
    (after : (next ()).Meets later ended failed) :
    (set later >>= next).Meets world ended failed :=
  after

theorem meets_require_bind
    {fault : Fault}
    {value? : Option α}
    {next : α → Act β}
    (missing : failed world)
    (after : ∀ value, value? = some value → (next value).Meets world ended failed) :
    (require fault value? >>= next).Meets world ended failed := by
  cases value? with
  | none =>
      exact missing
  | some value =>
      exact after value rfl

theorem meets_ofExcept_bind
    {result : Except Fault α}
    {next : α → Act β}
    (failing : failed world)
    (after : ∀ value, result = .ok value → (next value).Meets world ended failed) :
    (ofExcept result >>= next).Meets world ended failed := by
  cases result with
  | error fault =>
      exact failing
  | ok value =>
      exact after value rfl

/-- What an action comes to may be said more loosely. -/
theorem Meets.mono
    {act : Act β}
    (meets : act.Meets world ended failed)
    {loosely : β → World → Prop}
    {failedLoosely : World → Prop}
    (ends : ∀ value later, ended value later → loosely value later)
    (fails : ∀ later, failed later → failedLoosely later) :
    act.Meets world loosely failedLoosely := by
  rw [Meets] at meets ⊢
  cases result : act.run.run world with
  | mk outcome later =>
      rw [result] at meets
      cases outcome with
      | ok value =>
          exact ends value later meets
      | error fault =>
          exact fails later meets

/-- An action that meets one thing either way leads to it. -/
theorem Meets.reply
    {act : Act Reply}
    (meets : act.Meets world (fun _ later => failed later) failed) :
    failed (act.reply world).2 := by
  rw [Meets] at meets
  rw [Act.reply]
  cases result : act.run.run world with
  | mk outcome later =>
      rw [result] at meets
      cases outcome <;> exact meets

end Act

open Act

/-! ## Setting up metrics -/

/-- A trace is nothing but an entry of the log. -/
theorem World.trace_eq (event : TraceEvent) (world : World) :
    world.trace event = { world with log := (world.trace event).log } := by
  simp only [trace]
  split <;> rfl

variable
  {library : Library}
  {rows : Shared → List (List String)}
  {filed : List Filing}
  {world : World}
  {failed : World → Prop}

/--
Another depot has the shared vectors, and everything else is the same but the
log, where a vector that the exporter refused is traced.
-/
structure World.Restocks
    (library : Library)
    (rows : Shared → List (List String))
    (filed : List Filing)
    (before ended : World) :
    Prop where
  same : ended = { before with depot := ended.depot, log := ended.log }
  stocks : Stocks library rows filed ended.depot
  grows : before.depot.Grows ended.depot

theorem World.Restocks.trans
    {rows between : Shared → List (List String)}
    {before middle ended : World}
    (first : before.Restocks library between filed middle)
    (second : middle.Restocks library rows filed ended) :
    before.Restocks library rows filed ended where
  same := by
    rw [second.same, first.same]
  stocks := second.stocks
  grows := first.grows.trans second.grows

theorem meets_register
    (stocks : Stocks library rows filed world.depot)
    (valid : Shared.Valid library)
    (shared : Shared) :
    ((Registry.exporting 0).register shared.kind shared.definition).Meets world
      (fun vector later =>
        ∃ number,
          vector = .stored number ∧
            later.depot.numberOf? shared.definition.name = some number ∧
            world.Restocks library rows filed later)
      failed := by
  obtain ⟨registered, succeeds, stocked, grows, bound⟩ :=
    stocks.register valid shared
  refine meets_get_bind ?_
  rw [succeeds]
  refine meets_modify_bind ?_
  cases registered.refused with
  | false =>
      exact ⟨registered.vector, rfl, bound, rfl, stocked, grows⟩
  | true =>
      refine meets_modify_bind ?_
      rw [World.trace_eq]
      exact ⟨registered.vector, rfl, bound, rfl, stocked, grows⟩

theorem meets_child
    (stocks : Stocks library rows filed world.depot)
    {shared : Shared}
    {number : Nat}
    (bound : world.depot.numberOf? shared.definition.name = some number)
    {values : List String}
    (fits : values.length = shared.definition.labels.length) :
    ((MeterVector.stored number).child values).Meets world
      (fun meter later =>
        meter = .stored number (shared.address library values) ∧
          world.Restocks library
            (Function.update rows shared
              (Metric.Vector.withRow (shared.address library) values
                (rows shared)))
            filed later)
      failed := by
  obtain ⟨depot, made, stocked, grows⟩ := stocks.child? bound fits
  refine meets_get_bind ?_
  rw [made]
  exact meets_modify_bind ⟨rfl, rfl, stocked, grows⟩

/-- Ask for the row of a tally. -/
def askTally
    (number : Nat)
    (name : String)
    (tally : Tally) :
    Act (Tally × Meter) := do
  return (tally, ← (MeterVector.stored number).child [name, tally.label])

/-- A cache asks for the rows of its tallies one by one. -/
theorem meets_tallies
    (name : String)
    (tallies : List Tally)
    (stocks : Stocks library rows filed world.depot)
    {number : Nat}
    (bound :
      world.depot.numberOf? Shared.operations.definition.name = some number) :
    (tallies.mapM (askTally number name)).Meets world
      (fun meters later =>
        meters = tallies.map (fun tally =>
            (tally,
              Meter.stored number
                (Shared.operations.address library [name, tally.label]))) ∧
          world.Restocks library
            (Function.update rows .operations
              (Metric.Vector.withRows (Shared.operations.address library)
                (tallies.map fun tally => [name, tally.label])
                (rows .operations)))
            filed later)
      failed := by
  induction tallies generalizing rows world with
  | nil =>
      refine ⟨rfl, rfl, ?_, stocks.sound.grows⟩
      have same :
          Function.update rows .operations
              (Metric.Vector.withRows (Shared.operations.address library) []
                (rows .operations)) =
            rows :=
        Function.update_eq_self _ _
      exact same.symm ▸ stocks
  | cons tally rest inductionHypothesis =>
      have asked :
          (askTally number name tally).Meets world
            (fun made later =>
              made =
                  (tally,
                    Meter.stored number
                      (Shared.operations.address library
                        [name, tally.label])) ∧
                world.Restocks library
                  (Function.update rows .operations
                    (Metric.Vector.withRow (Shared.operations.address library)
                      [name, tally.label] (rows .operations)))
                  filed later)
            failed := by
        refine meets_bind (meets_child stocks bound rfl) ?_
        rintro _ later ⟨rfl, restocked⟩
        exact ⟨rfl, restocked⟩
      rw [List.mapM_cons]
      refine meets_bind asked ?_
      rintro _ between ⟨rfl, restocked⟩
      refine meets_bind
        (inductionHypothesis restocked.stocks
          (restocked.grows.bound _ _ bound)) ?_
      rintro _ later ⟨rfl, restockedAll⟩
      refine ⟨rfl, restocked.trans ?_⟩
      rw [Function.update_idem, Function.update_self] at restockedAll
      exact restockedAll

/-- The rows once a cache with some name has asked for its own. -/
def Shared.rowsWith
    (library : Library)
    (name : String)
    (rows : Shared → List (List String))
    (shared : Shared) :
    List (List String) :=
  Metric.Vector.withRows (shared.address library) (shared.rows name)
    (rows shared)

/-- A cache has its metrics in the shared vectors once it has set them up. -/
theorem meets_setUp
    (stocks : Stocks library rows filed world.depot)
    (valid : Shared.Valid library)
    (name : String) :
    (Meters.setUp name (.exporting 0)).Meets world
      (fun meters later =>
        ∃ numbers,
          meters = .within library numbers name ∧
            Binds numbers later.depot ∧
            world.Restocks library (Shared.rowsWith library name rows) filed later)
      failed := by
  refine meets_bind (meets_register stocks valid .operations) ?_
  rintro _ registered ⟨counters, rfl, boundCounters, first⟩
  refine meets_bind (meets_register first.stocks valid .retained) ?_
  rintro _ ready ⟨gauges, rfl, boundGauges, second⟩
  have stillCounters := second.grows.bound _ _ boundCounters
  refine meets_bind
    (meets_tallies name Tally.all second.stocks stillCounters) ?_
  rintro _ counted ⟨rfl, third⟩
  have stillGauges := third.grows.bound _ _ boundGauges
  refine meets_bind (meets_child third.stocks stillGauges rfl) ?_
  rintro _ later ⟨rfl, last⟩
  let numbers (shared : Shared) : Nat :=
    if shared = .operations then
      counters
    else
      gauges
  have reached := first.trans (second.trans (third.trans last))
  have sameRows :
      Function.update
          (Function.update rows .operations
            (Metric.Vector.withRows (Shared.operations.address library)
              (Tally.all.map fun tally => [name, tally.label])
              (rows .operations)))
          .retained
          (Metric.Vector.withRow (Shared.retained.address library) [name]
            (Function.update rows .operations
              (Metric.Vector.withRows (Shared.operations.address library)
                (Tally.all.map fun tally => [name, tally.label])
                (rows .operations)) .retained)) =
        Shared.rowsWith library name rows := by
    funext shared
    cases shared <;> rfl
  rw [sameRows] at reached
  refine ⟨numbers, rfl, fun shared => ?_, reached⟩
  cases shared with
  | operations =>
      exact last.grows.bound _ _ (third.grows.bound _ _ stillCounters)
  | retained =>
      exact last.grows.bound _ _ stillGauges

/-! ## Building caches -/

/-- The cache that a request asks for, at the page that a host shows. -/
def BuildRequest.opens?
    (host : Nat)
    (request : BuildRequest Step)
    (world : World) :
    Option (Cache PageId String String) := do
  let config ← request.config?.toOption
  let shown ← world.hosts[host]?
  Cache.empty? config.capacity shown.shown

theorem BuildRequest.empty?_of_opens?
    {host : Nat}
    {request : BuildRequest Step}
    {world : World}
    {cache : Cache PageId String String}
    (opens : request.opens? host world = some cache) :
    ∃ capacity page, Cache.empty? capacity page = some cache := by
  obtain ⟨config, _, opens⟩ := Option.bind_eq_some_iff.mp opens
  obtain ⟨shown, _, built⟩ := Option.bind_eq_some_iff.mp opens
  exact ⟨config.capacity, shown.shown, built⟩

/-- A new cache, as it was asked for, with its metrics in the shared vectors. -/
structure World.Gains
    (library : Library)
    (rows : Shared → List (List String))
    (filed : List Filing)
    (host : Nat)
    (request : BuildRequest Step)
    (cache : Cache PageId String String)
    (before ended : World) :
    Prop where
  stocks :
    Stocks library (Shared.rowsWith library request.name rows) filed ended.depot
  grows : before.depot.Grows ended.depot
  cell :
    ∃ (cell : Cell) (numbers : Shared → Nat),
      ended.cells = before.cells ++ [cell] ∧
        cell.name = request.name ∧
        cell.cache = cache ∧
        cell.meters = .within library numbers request.name ∧
        Binds numbers ended.depot
  opens : request.opens? host before = some cache
  named : (ended.counters, ended.gauges) = (before.counters, before.gauges)

/-- A build that is refused is not noticed, and one that succeeds gives a new cache. -/
theorem gains_build
    (stocks : Stocks library rows filed world.depot)
    (valid : Shared.Valid library)
    (host : Nat)
    {request : BuildRequest Step}
    (clone :
      (request.registry.bind fun index => world.registries[index]?) =
        some (.exporting 0)) :
    let ended := ((build host request).reply world).2
    ended = world ∨ ∃ cache, world.Gains library rows filed host request cache ended := by
  obtain ⟨index, asked, found⟩ := Option.bind_eq_some_iff.mp clone
  let outcome (later : World) : Prop :=
    later = world ∨ ∃ cache, world.Gains library rows filed host request cache later
  suffices reached :
      (build host request).Meets world (fun _ later => outcome later) outcome from
    reached.reply
  refine meets_ofExcept_bind (.inl rfl) fun config isRead => ?_
  refine meets_get_bind (meets_require_bind (.inl rfl) fun shown isShown => ?_)
  have looked :
      (request.registry? : Act Registry).Meets world
        (fun registry later => registry = .exporting 0 ∧ world = later)
        outcome := by
    rw [BuildRequest.registry?, asked]
    refine meets_get_bind ?_
    rw [found]
    exact ⟨rfl, rfl⟩
  refine meets_bind looked ?_
  rintro _ _ ⟨rfl, rfl⟩
  refine meets_require_bind (.inl rfl) fun cache built => ?_
  have opens : request.opens? host world = some cache := by
    simp [BuildRequest.opens?, isRead, isShown, built, Except.toOption]
  refine meets_bind (meets_setUp stocks valid request.name) ?_
  rintro _ later ⟨numbers, rfl, binds, restocked⟩
  refine meets_modify_bind (meets_get_bind (meets_set_bind (.inr ⟨cache, ?_⟩)))
  rw [World.trace_eq, restocked.same]
  exact {
    stocks := restocked.stocks
    grows := restocked.grows
    cell := ⟨_, numbers, rfl, rfl, rfl, rfl, binds⟩
    opens := opens
    named := rfl
  }

end NavState.Session
