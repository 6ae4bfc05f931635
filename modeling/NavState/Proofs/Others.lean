import NavState.Proofs.Outcomes
import NavState.Session.Metrics

namespace NavState.Metric

/-!
# Metrics under other names

Whoever else uses a registry registers vectors under other names than those of
the shared vectors, publishes vectors of other names, and changes their metrics.
Other registries may be made before the same exporter.  None of this is noticed
in the shared vectors.
-/

/-- A name of none of the shared vectors. -/
def IsSpare (name : String) : Prop :=
  ∀ shared : Session.Shared, name ≠ shared.definition.name

instance (name : String) : Decidable (IsSpare name) :=
  decidable_of_iff
    (∀ shared ∈ [Session.Shared.operations, .retained],
      name ≠ shared.definition.name)
    ⟨fun spared shared => spared shared (by cases shared <;> simp),
      fun spared shared _ => spared shared⟩

/-- What is described and collected under none of the names of the shared vectors. -/
structure Collector.Spares (collector : Collector) : Prop where
  descriptors :
    ∀ descriptor ∈ collector.descriptors, IsSpare descriptor.definition.name
  families : ∀ family ∈ collector.families, IsSpare family.name

instance (collector : Collector) : Decidable collector.Spares :=
  decidable_of_iff
    ((∀ descriptor ∈ collector.descriptors, IsSpare descriptor.definition.name) ∧
      ∀ family ∈ collector.families, IsSpare family.name)
    ⟨fun spared => ⟨spared.1, spared.2⟩,
      fun spared => ⟨spared.descriptors, spared.families⟩⟩

/-- A vector that is none of the shared ones. -/
def Depot.Foreign (number : Nat) (depot : Depot) : Prop :=
  ∃ name, depot.names[number]? = some name ∧ IsSpare name

theorem Depot.Foreign.of_grows
    {number : Nat}
    {before ended : Depot}
    (foreign : before.Foreign number)
    (grows : before.Grows ended) :
    ended.Foreign number := by
  obtain ⟨name, known, apart⟩ := foreign
  exact ⟨name, grows.name known, apart⟩

theorem Depot.Foreign.not_goesBy
    {number : Nat}
    {depot : Depot}
    (foreign : depot.Foreign number)
    (shared : Session.Shared) :
    depot.goesBy shared.definition.name (.vector number) = false := by
  obtain ⟨name, known, apart⟩ := foreign
  rw [goesBy, known]
  simpa using apart shared

end NavState.Metric

namespace NavState.Session

/-- A metric in none of the shared vectors. -/
def Meter.Foreign (depot : Metric.Depot) : Meter → Prop
  | .silent => True
  | .recorded _ _ => True
  | .stored number _ => depot.Foreign number

theorem Meter.Foreign.of_grows
    {meter : Meter}
    {before ended : Metric.Depot}
    (foreign : meter.Foreign before)
    (grows : before.Grows ended) :
    meter.Foreign ended := by
  cases meter with
  | stored number address =>
      exact Metric.Depot.Foreign.of_grows foreign grows
  | _ =>
      trivial

/-- A command that registers nothing under the names of the shared vectors. -/
def MetricCommand.Spares : MetricCommand → Prop
  | .register _ _ definition _ => Metric.IsSpare definition.name
  | .publish _ collector? => ∀ collector ∈ collector?, collector.Spares
  | _ => True

instance (command : MetricCommand) : Decidable command.Spares :=
  match command with
  | .create _ => isTrue trivial
  | .register _ _ definition _ =>
      inferInstanceAs (Decidable (Metric.IsSpare definition.name))
  | .change _ _ _ => isTrue trivial
  | .publish _ collector? =>
      inferInstanceAs (Decidable (∀ collector ∈ collector?, collector.Spares))
  | .gather _ => isTrue trivial
  | .exposition _ => isTrue trivial

namespace World

/-- The metrics that were asked for by name are in none of the shared vectors. -/
def NamesOthers (world : World) : Prop :=
  ∀ meter ∈ world.counters ++ world.gauges, meter.Foreign world.depot

/-- Caches and shared vectors are left as they are. -/
structure Spares (before ended : World) : Prop where
  cells : ended.cells = before.cells
  grows : before.depot.Grows ended.depot
  leaves :
    ∀ shared : Shared, before.depot.Leaves shared.definition.name ended.depot
  others : ended.NamesOthers

theorem Spares.trans
    {before between ended : World}
    (first : before.Spares between)
    (second : between.Spares ended) :
    before.Spares ended where
  cells := second.cells.trans first.cells
  grows := first.grows.trans second.grows
  leaves := fun shared => (first.leaves shared).trans (second.leaves shared)
  others := second.others

theorem NamesOthers.of_grows
    {world : World}
    (others : world.NamesOthers)
    {depot : Metric.Depot}
    (grows : world.depot.Grows depot) :
    ({ world with depot := depot } : World).NamesOthers :=
  fun meter member => (others meter member).of_grows grows

theorem spares_depot
    {world : World}
    (others : world.NamesOthers)
    {depot : Metric.Depot}
    (grows : world.depot.Grows depot)
    (leaves :
      ∀ shared : Shared, world.depot.Leaves shared.definition.name depot) :
    world.Spares { world with depot := depot } where
  cells := rfl
  grows := grows
  leaves := leaves
  others := others.of_grows grows

/-- What concerns neither caches nor metrics spares both. -/
theorem spares_of_eq
    {before ended : World}
    (sound : before.depot.Sound)
    (others : before.NamesOthers)
    (same :
      (ended.cells, ended.depot, ended.counters, ended.gauges) =
        (before.cells, before.depot, before.counters, before.gauges)) :
    before.Spares ended := by
  simp only [Prod.mk.injEq] at same
  obtain ⟨cells, depot, counters, gauges⟩ := same
  refine ⟨cells, ?_, fun shared => ?_, ?_⟩
  · rw [depot]
    exact sound.grows
  · rw [depot]
    exact .refl _ _
  · rw [NamesOthers, depot, counters, gauges]
    exact others

theorem spares_change
    {world : World}
    (sound : world.depot.Sound)
    (others : world.NamesOthers)
    {meter : Meter}
    (foreign : meter.Foreign world.depot)
    (change : Metric.Change) :
    world.Spares (world.change meter change) := by
  cases meter with
  | stored number address =>
      refine spares_depot others
        ((Metric.Depot.refills_update number address change _).grows sound)
        fun shared => ?_
      exact sound.leaves_update
        (Metric.Depot.Foreign.not_goesBy foreign shared) address change
  | _ =>
      exact spares_of_eq sound others rfl

theorem spares_publish
    {world : World}
    (sound : world.depot.Sound)
    (others : world.NamesOthers)
    (exporter : Nat)
    {collector : Metric.Collector}
    (spared : collector.Spares) :
    world.Spares { world with depot := world.depot.publish exporter collector } := by
  refine spares_depot others (sound.grows_offer exporter _ nofun) fun shared => ?_
  refine Metric.Depot.leaves_offer ?_ ?_ exporter
  · intro descriptor member
    exact spared.descriptors descriptor member shared
  · rw [Metric.Depot.goesBy, List.any_eq_false]
    intro family member
    simpa using spared.families family member shared

end World

open Act World

variable {world : World}

/-! ## Commands on metrics -/

theorem meets_registryOf
    {index : Nat}
    {ended : Registry → World → Prop}
    {failed : World → Prop}
    (missing : failed world)
    (found : ∀ registry, ended registry world) :
    (registryOf index).Meets world ended failed := by
  have required : (Act.require Fault.inapplicable world.registries[index]?).Meets
      world ended failed := by
    cases world.registries[index]? with
    | none =>
        exact missing
    | some registry =>
        exact found registry
  exact required

theorem meets_exporterOf
    {index : Nat}
    {ended : Nat → World → Prop}
    {failed : World → Prop}
    (missing : failed world)
    (found : ∀ exporter, ended exporter world) :
    (exporterOf index).Meets world ended failed := by
  have looked :
      (registryOf index).Meets world (fun _ later => world = later) failed :=
    meets_registryOf missing fun _ => rfl
  refine meets_bind looked ?_
  rintro registry _ rfl
  cases registry with
  | exporting catalogue =>
      exact meets_get_bind (meets_require_bind missing fun entry _ => found _)
  | _ =>
      exact missing

theorem meets_registerOther
    {kind : Metric.Kind}
    {definition : Metric.Definition}
    (spared : Metric.IsSpare definition.name)
    (sound : world.depot.Sound)
    (others : world.NamesOthers)
    (registry : Registry) :
    (registry.register kind definition).Meets world
      (fun vector later =>
        world.Spares later ∧
          ∀ number, vector = .stored number → later.depot.Foreign number)
      world.Spares := by
  have unchanged : world.Spares world := spares_of_eq sound others rfl
  cases registry with
  | silent =>
      exact ⟨unchanged, fun _ stored => nomatch stored⟩
  | recording =>
      exact ⟨spares_of_eq sound others rfl, fun _ stored => nomatch stored⟩
  | exporting catalogue =>
      refine meets_get_bind ?_
      split
      · exact unchanged
      · next registered succeeds =>
          obtain ⟨grows, known⟩ := sound.register succeeds
          have spares :
              world.Spares { world with depot := registered.depot } :=
            spares_depot others grows fun shared =>
              sound.leaves_register (spared shared) succeeds
          have foreign : registered.depot.Foreign registered.vector :=
            ⟨definition.name, known, spared⟩
          refine meets_modify_bind ?_
          split
          · refine meets_modify_bind ?_
            rw [World.trace_eq]
            refine ⟨spares.trans
              (spares_of_eq spares.grows.sound spares.others rfl), ?_⟩
            rintro _ ⟨⟩
            exact foreign
          · refine ⟨spares, ?_⟩
            rintro _ ⟨⟩
            exact foreign

theorem meets_childOther
    (sound : world.depot.Sound)
    (others : world.NamesOthers)
    {vector : MeterVector}
    (foreign : ∀ number, vector = .stored number → world.depot.Foreign number)
    (values : List String) :
    (vector.child values).Meets world
      (fun meter later =>
        world.Spares later ∧ meter.Foreign later.depot)
      world.Spares := by
  have unchanged : world.Spares world := spares_of_eq sound others rfl
  cases vector with
  | silent =>
      exact ⟨unchanged, trivial⟩
  | recorded name =>
      exact ⟨spares_of_eq sound others rfl, trivial⟩
  | stored number =>
      have isForeign := foreign number rfl
      refine meets_get_bind ?_
      split
      · exact unchanged
      · next address depot made =>
          have grows := (Metric.Depot.refills_child? made).grows sound
          have spares : world.Spares { world with depot := depot } :=
            spares_depot others grows fun shared =>
              sound.leaves_child? (isForeign.not_goesBy shared) made
          exact meets_modify_bind ⟨spares, isForeign.of_grows grows⟩

theorem meets_keepMeter
    (sound : world.depot.Sound)
    (others : world.NamesOthers)
    {meter : Meter}
    (foreign : meter.Foreign world.depot)
    (kind : Metric.Kind) :
    (keepMeter kind meter).Meets world (fun _ => world.Spares) world.Spares := by
  have kept {counters gauges : List Meter}
      (named :
        ∀ other ∈ counters ++ gauges,
          other ∈ world.counters ++ world.gauges ∨ other = meter) :
      world.Spares { world with counters := counters, gauges := gauges } := by
    refine ⟨rfl, sound.grows, fun shared => .refl _ _, fun other member => ?_⟩
    rcases named other member with before | rfl
    · exact others other before
    · exact foreign
  cases kind with
  | counter =>
      refine kept fun other member => ?_
      simp only [List.mem_append, List.mem_singleton] at member ⊢
      tauto
  | gauge =>
      refine kept fun other member => ?_
      simp only [List.mem_append, List.mem_singleton] at member ⊢
      tauto

theorem createRegistry_spares
    (sound : world.depot.Sound)
    (others : world.NamesOthers)
    (request : RegistryRequest) :
    (createRegistry request).Meets world (fun _ => world.Spares)
      world.Spares := by
  have unchanged : world.Spares world := spares_of_eq sound others rfl
  cases request with
  | silent =>
      exact unchanged
  | recording =>
      exact unchanged
  | clone registry =>
      exact meets_registryOf unchanged fun _ => unchanged
  | exporting =>
      exact spares_depot others sound.grows_addExporter fun shared =>
        Metric.Depot.leaves_addExporter _ _
  | «over» registry =>
      have looked :
          (exporterOf registry).Meets world (fun _ later => world = later)
            world.Spares :=
        meets_exporterOf unchanged fun _ => rfl
      refine meets_bind looked ?_
      rintro exporter _ rfl
      exact spares_depot others (sound.grows_addCatalogue exporter)
        fun shared => Metric.Depot.leaves_addCatalogue _ exporter _

/-- A command that spares the names of the shared vectors spares the vectors. -/
theorem spares_performMetric
    (sound : world.depot.Sound)
    (others : world.NamesOthers)
    {command : MetricCommand}
    (spared : command.Spares) :
    world.Spares ((performMetric command).reply world).2 := by
  have unchanged : world.Spares world := spares_of_eq sound others rfl
  suffices reached :
      (performMetric command).Meets world (fun _ => world.Spares)
        world.Spares from
    reached.reply
  have looked (registry : Nat) :
      (exporterOf registry).Meets world (fun _ later => world = later)
        world.Spares :=
    meets_exporterOf unchanged fun _ => rfl
  cases command with
  | create request =>
      refine meets_bind (createRegistry_spares sound others request) ?_
      intro registry later spares
      exact spares.trans (spares_of_eq spares.grows.sound spares.others rfl)
  | register registry kind definition values =>
      have looked :
          (registryOf registry).Meets world (fun _ later => world = later)
            world.Spares :=
        meets_registryOf unchanged fun _ => rfl
      refine meets_bind looked ?_
      rintro found _ rfl
      refine meets_bind (meets_registerOther spared sound others found) ?_
      rintro vector registered ⟨first, foreign⟩
      have asked :
          (vector.child values).Meets registered
            (fun meter later => world.Spares later ∧ meter.Foreign later.depot)
            world.Spares :=
        (meets_childOther first.grows.sound first.others foreign values).mono
          (fun _ _ met => ⟨first.trans met.1, met.2⟩) fun _ => first.trans
      refine meets_bind asked ?_
      rintro meter later ⟨second, isForeign⟩
      have kept :=
        meets_keepMeter second.grows.sound second.others isForeign kind
      exact kept.mono (fun _ _ => second.trans) fun _ => second.trans
  | change kind meter change =>
      refine meets_get_bind (meets_require_bind unchanged fun found isKept => ?_)
      have named : found ∈ world.counters ++ world.gauges := by
        rw [List.mem_append]
        cases kind with
        | counter =>
            exact .inl (List.mem_of_getElem? isKept)
        | gauge =>
            exact .inr (List.mem_of_getElem? isKept)
      exact spares_change sound others (others found named) change
  | publish registry collector? =>
      refine meets_require_bind unchanged fun collector isGiven => ?_
      refine meets_bind (looked registry) ?_
      rintro exporter _ rfl
      exact spares_publish sound others exporter (spared collector isGiven)
  | gather registry =>
      refine meets_bind (looked registry) ?_
      rintro exporter _ rfl
      exact unchanged
  | exposition registry =>
      refine meets_bind (looked registry) ?_
      rintro exporter _ rfl
      exact unchanged

end NavState.Session
