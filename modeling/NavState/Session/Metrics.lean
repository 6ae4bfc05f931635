import NavState.Session.Meters

namespace NavState.Session

/-!
# Commands on metrics

Registries are made one after the other, and the metrics asked of them are kept
in two lists, one of counters and one of gauges.
-/

/-- The registry at an index. -/
def registryOf (index : Nat) : Act Registry := do
  Act.require .inapplicable (← get).registries[index]?

/-- The exporter behind the registry at an index. -/
def exporterOf (index : Nat) : Act Nat := do
  match ← registryOf index with
  | .exporting catalogue =>
      let entry ← Act.require .inapplicable (← get).depot.catalogues[catalogue]?
      return entry.exporter
  | _ => throw .inapplicable

/-- Make a registry. -/
def createRegistry (request : RegistryRequest) : Act Registry := do
  match request with
  | .silent => return .silent
  | .recording => return .recording
  | .clone registry => registryOf registry
  | .exporting =>
      let (catalogue, depot) := (← get).depot.addExporter
      modify fun world => { world with depot := depot }
      return .exporting catalogue
  | .over registry =>
      let exporter ← exporterOf registry
      let (catalogue, depot) := (← get).depot.addCatalogue exporter
      modify fun world => { world with depot := depot }
      return .exporting catalogue

/-- The metrics of a kind that were asked for by name. -/
def metersOf (kind : Metric.Kind) (world : World) : List Meter :=
  match kind with
  | .counter => world.counters
  | .gauge => world.gauges

/-- Keep a metric that was asked for by name. -/
def keepMeter (kind : Metric.Kind) (meter : Meter) : Act Reply := do
  let world ← get
  match kind with
  | .counter => set { world with counters := world.counters ++ [meter] }
  | .gauge => set { world with gauges := world.gauges ++ [meter] }
  return .number (metersOf kind world).length

/-- Perform a command on metrics. -/
def performMetric (command : MetricCommand) : Act Reply := do
  match command with
  | .create request =>
      let registry ← createRegistry request
      let world ← get
      set { world with registries := world.registries ++ [registry] }
      return .number world.registries.length
  | .register registry kind definition values =>
      let vector ← (← registryOf registry).register kind definition
      keepMeter kind (← vector.child values)
  | .change kind meter change =>
      let meter ← Act.require .inapplicable (metersOf kind (← get))[meter]?
      modify (World.change meter change)
      return .nothing
  | .publish registry collector? =>
      let collector ← Act.require .labelMismatch collector?
      let exporter ← exporterOf registry
      let depot := (← get).depot
      modify fun world => { world with depot := depot.publish exporter collector }
      return .flag (depot.admits exporter collector.descriptors)
  | .gather registry =>
      let exporter ← exporterOf registry
      return .families ((← get).depot.gather exporter)
  | .exposition registry =>
      let exporter ← exporterOf registry
      return .text ((← get).depot.exposition exporter)

end NavState.Session
