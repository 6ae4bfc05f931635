import NavState.Proofs.Depots
import NavState.Proofs.Outcomes
import NavState.Proofs.Sessions

namespace NavState.Session

/-!
# Metrics on request

Commands on metrics act on the depot through registries.  A registry that hands
out the metrics of a catalogue, and every clone of it, registers vectors there
and keeps a handle for each metric that it gives; the handles of one metric all
lead to it.

A command that fails to register a vector leaves everything as it is, and of the
other commands each does what its actions do with the depot, and no more.
-/

open NavState.Metric (Action Kind Definition RegistrationError Registered)

/-- The exporter behind a registry, if it has one. -/
def World.exporter? (registry : Nat) (world : World) : Option Nat :=
  match world.registries[registry]? with
  | some (.exporting catalogue) =>
      world.depot.catalogues[catalogue]?.map Metric.Catalogue.exporter
  | _ => none

namespace MetricCommand

/-- What a registration does: the vector that is found or made is asked for a metric. -/
def registering
    (catalogue : Nat)
    (kind : Kind)
    (definition : Definition)
    (values : List String)
    (depot : Metric.Depot) :
    List Action :=
  match depot.register catalogue kind definition with
  | .ok registered =>
      [.registers catalogue kind definition, .asks registered.vector values]
  | .error _ => []

/-- What a command on metrics does with the depot of a world. -/
def actions (world : World) : MetricCommand → List Action
  | .create .exporting => [.addsExporter]
  | .create (.over registry) =>
      ((world.exporter? registry).map Action.addsCatalogue).toList
  | .register registry kind definition values =>
      match world.registries[registry]? with
      | some (.exporting catalogue) =>
          registering catalogue kind definition values world.depot
      | _ => []
  | .change kind index move =>
      match (metersOf kind world)[index]? with
      | some (.stored vector address) => [.changes vector address move]
      | _ => []
  | .publish registry collector? =>
      ((world.exporter? registry).bind fun exporter =>
        collector?.map (Action.publishes exporter)).toList
  | _ => []

end MetricCommand

/-! ## Looking up registries -/

section Lookups

variable
  {world : World}
  {registry : Nat}

theorem reply_require_bind_of_none
    {α : Type}
    {value? : Option α}
    (missing : value? = none)
    (fault : Fault)
    (next : α → Act Reply)
    (world : World) :
    Act.reply (Act.require fault value? >>= next) world = (.fault fault, world) := by
  rw [missing]
  rfl

theorem reply_registryOf_bind
    {entry : Registry}
    (found : world.registries[registry]? = some entry)
    (next : Registry → Act Reply) :
    Act.reply (registryOf registry >>= next) world = (next entry).reply world := by
  simp only [registryOf, bind_assoc]
  rw [reply_get_bind, reply_require_bind found]

theorem reply_registryOf_bind_of_none
    (missing : world.registries[registry]? = none)
    (next : Registry → Act Reply) :
    Act.reply (registryOf registry >>= next) world =
      (.fault .inapplicable, world) := by
  simp only [registryOf, bind_assoc]
  rw [reply_get_bind, reply_require_bind_of_none missing]

theorem reply_exporterOf_bind
    {exporter : Nat}
    (found : world.exporter? registry = some exporter)
    (next : Nat → Act Reply) :
    Act.reply (exporterOf registry >>= next) world =
      (next exporter).reply world := by
  rw [World.exporter?] at found
  split at found
  · next catalogue isThere =>
      obtain ⟨entry, isEntry, rfl⟩ := Option.map_eq_some_iff.mp found
      simp only [exporterOf, bind_assoc]
      rw [reply_registryOf_bind isThere]
      simp only [bind_assoc]
      rw [reply_get_bind, reply_require_bind isEntry, pure_bind]
  · cases found

theorem reply_exporterOf_bind_of_none
    (missing : world.exporter? registry = none)
    (next : Nat → Act Reply) :
    Act.reply (exporterOf registry >>= next) world =
      (.fault .inapplicable, world) := by
  simp only [exporterOf, bind_assoc]
  cases found : world.registries[registry]? with
  | none =>
      rw [reply_registryOf_bind_of_none found]
  | some entry =>
      rw [reply_registryOf_bind found]
      cases entry with
      | exporting catalogue =>
          simp only [World.exporter?, found, Option.map_eq_none_iff] at missing
          simp only [bind_assoc]
          rw [reply_get_bind, reply_require_bind_of_none missing]
      | _ =>
          rfl

end Lookups

/-! ## Registering vectors -/

/-- The world after a registration that went well; a refusal is traced. -/
def World.enrolled
    (definition : Definition)
    (registered : Registered)
    (world : World) :
    World :=
  let kept := { world with depot := registered.depot }
  if registered.refused then
    kept.trace (.refused definition.name)
  else
    kept

theorem enrolled_eq
    (definition : Definition)
    (registered : Registered)
    (world : World) :
    world.enrolled definition registered =
      { world with
        depot := registered.depot
        log := (world.enrolled definition registered).log } := by
  simp only [World.enrolled]
  split
  · exact World.trace_eq _ _
  · rfl

section Registering

variable
  {world : World}
  {catalogue : Nat}
  {kind : Kind}
  {definition : Definition}

theorem reply_register_bind
    {registered : Registered}
    (succeeds : world.depot.register catalogue kind definition = .ok registered)
    (next : MeterVector → Act Reply) :
    Act.reply ((Registry.exporting catalogue).register kind definition >>= next) world =
      (next (.stored registered.vector)).reply
        (world.enrolled definition registered) := by
  simp only [Registry.register, bind_assoc]
  rw [reply_get_bind, succeeds]
  obtain ⟨depot, vector, refused⟩ := registered
  cases refused <;> rfl

theorem reply_register_bind_of_error
    {error : RegistrationError}
    (fails : world.depot.register catalogue kind definition = .error error)
    (next : MeterVector → Act Reply) :
    Act.reply ((Registry.exporting catalogue).register kind definition >>= next) world =
      (.fault (.registration error), world) := by
  simp only [Registry.register, bind_assoc]
  rw [reply_get_bind, fails]
  rfl

variable
  {vector : Nat}
  {values : List String}

theorem reply_child_bind
    {address : Nat}
    {depot : Metric.Depot}
    (asked : world.depot.child? vector values = some (address, depot))
    (next : Meter → Act Reply) :
    Act.reply ((MeterVector.stored vector).child values >>= next) world =
      (next (.stored vector address)).reply { world with depot := depot } := by
  simp only [MeterVector.child, bind_assoc]
  rw [reply_get_bind, asked]
  rfl

theorem reply_child_bind_of_none
    (refused : world.depot.child? vector values = none)
    (next : Meter → Act Reply) :
    Act.reply ((MeterVector.stored vector).child values >>= next) world =
      (.fault .labelMismatch, world) := by
  simp only [MeterVector.child, bind_assoc]
  rw [reply_get_bind, refused]
  rfl

/-- A handle that is kept is kept last. -/
theorem reply_keepMeter (kind : Kind) (meter : Meter) (world : World) :
    ∃ later,
      (keepMeter kind meter).reply world =
          (.number (metersOf kind world).length, later) ∧
        later.depot = world.depot ∧
        metersOf kind later = metersOf kind world ++ [meter] := by
  cases kind with
  | counter =>
      exact ⟨{ world with counters := world.counters ++ [meter] }, rfl, rfl, rfl⟩
  | gauge =>
      exact ⟨{ world with gauges := world.gauges ++ [meter] }, rfl, rfl, rfl⟩

/-- Whoever fails to register a vector leaves everything as it is. -/
theorem reply_performMetric_register_of_error
    {registry : Nat}
    (found : world.registries[registry]? = some (.exporting catalogue))
    {error : RegistrationError}
    (fails : world.depot.register catalogue kind definition = .error error)
    (values : List String) :
    (performMetric (.register registry kind definition values)).reply world =
      (.fault (.registration error), world) := by
  rw [performMetric, reply_registryOf_bind found, reply_register_bind_of_error fails]

/-- Whoever registers a vector is given a handle of a metric of it. -/
theorem reply_performMetric_register
    {registry : Nat}
    (found : world.registries[registry]? = some (.exporting catalogue))
    {registered : Registered}
    (succeeds : world.depot.register catalogue kind definition = .ok registered)
    {address : Nat}
    {depot : Metric.Depot}
    (asked : registered.depot.child? registered.vector values = some (address, depot)) :
    ∃ later,
      (performMetric (.register registry kind definition values)).reply world =
          (.number (metersOf kind world).length, later) ∧
        later.depot = depot ∧
        metersOf kind later =
          metersOf kind world ++ [.stored registered.vector address] := by
  rw [performMetric, reply_registryOf_bind found, reply_register_bind succeeds,
    enrolled_eq, reply_child_bind asked]
  obtain ⟨later, replied, kept, handles⟩ :=
    reply_keepMeter kind (.stored registered.vector address)
      { world with
        depot := depot
        log := (world.enrolled definition registered).log }
  refine ⟨later, ?_, kept, ?_⟩
  · rw [replied]
    cases kind <;> rfl
  · rw [handles]
    cases kind <;> rfl

end Registering

/-! ## What commands do with the depot -/

theorem depot_register
    (registry : Nat)
    (kind : Kind)
    (definition : Definition)
    (values : List String)
    (world : World) :
    ((performMetric (.register registry kind definition values)).reply world).2.depot =
      world.depot.after
        ((MetricCommand.register registry kind definition values).actions world) := by
  rw [MetricCommand.actions]
  cases found : world.registries[registry]? with
  | none =>
      rw [performMetric, reply_registryOf_bind_of_none found]
      rfl
  | some entry =>
      cases entry with
      | silent =>
          rw [performMetric, reply_registryOf_bind found]
          cases kind <;> rfl
      | recording =>
          rw [performMetric, reply_registryOf_bind found]
          cases kind <;> rfl
      | exporting catalogue =>
          simp only [MetricCommand.registering]
          cases result : world.depot.register catalogue kind definition with
          | error error =>
              rw [reply_performMetric_register_of_error found result]
              rfl
          | ok registered =>
              have made :
                  world.depot.perform (.registers catalogue kind definition) =
                    registered.depot := by
                rw [Metric.Depot.perform, result]
              rw [Metric.Depot.after, List.foldl_cons, List.foldl_cons,
                List.foldl_nil, made, Metric.Depot.perform]
              cases asked : registered.depot.child? registered.vector values with
              | some child =>
                  obtain ⟨later, replied, kept, _⟩ :=
                    reply_performMetric_register found result asked
                  rw [replied]
                  exact kept
              | none =>
                  rw [performMetric, reply_registryOf_bind found,
                    reply_register_bind result, enrolled_eq,
                    reply_child_bind_of_none asked]

theorem depot_publish
    (registry : Nat)
    (collector? : Option Metric.Collector)
    (world : World) :
    ((performMetric (.publish registry collector?)).reply world).2.depot =
      world.depot.after
        ((MetricCommand.publish registry collector?).actions world) := by
  rw [MetricCommand.actions, performMetric]
  cases collector? with
  | none =>
      rw [reply_require_bind_of_none rfl]
      cases world.exporter? registry <;> rfl
  | some collector =>
      rw [reply_require_bind rfl]
      cases found : world.exporter? registry with
      | none =>
          rw [reply_exporterOf_bind_of_none found]
          rfl
      | some exporter =>
          rw [reply_exporterOf_bind found]
          rfl

theorem depot_create (request : RegistryRequest) (world : World) :
    ((performMetric (.create request)).reply world).2.depot =
      world.depot.after ((MetricCommand.create request).actions world) := by
  rw [performMetric]
  cases request with
  | silent =>
      rfl
  | recording =>
      rfl
  | exporting =>
      rfl
  | clone registry =>
      rw [createRegistry]
      cases found : world.registries[registry]? with
      | none =>
          rw [reply_registryOf_bind_of_none found]
          rfl
      | some entry =>
          rw [reply_registryOf_bind found]
          rfl
  | «over» registry =>
      simp only [createRegistry, bind_assoc]
      rw [MetricCommand.actions]
      cases found : world.exporter? registry with
      | none =>
          rw [reply_exporterOf_bind_of_none found]
          rfl
      | some exporter =>
          rw [reply_exporterOf_bind found]
          rfl

/-- A command on metrics does with the depot what its actions do. -/
theorem depot_performMetric (command : MetricCommand) (world : World) :
    ((performMetric command).reply world).2.depot =
      world.depot.after (command.actions world) := by
  cases command with
  | create request =>
      exact depot_create request world
  | register registry kind definition values =>
      exact depot_register registry kind definition values world
  | change kind index move =>
      rw [performMetric, reply_get_bind, MetricCommand.actions]
      cases found : (metersOf kind world)[index]? with
      | none =>
          rw [reply_require_bind_of_none rfl]
          rfl
      | some meter =>
          rw [reply_require_bind rfl]
          cases meter <;> rfl
  | publish registry collector? =>
      exact depot_publish registry collector? world
  | gather registry
  | exposition registry =>
      rw [performMetric]
      cases found : world.exporter? registry with
      | none =>
          rw [reply_exporterOf_bind_of_none found]
          rfl
      | some exporter =>
          rw [reply_exporterOf_bind found]
          rfl

end NavState.Session
