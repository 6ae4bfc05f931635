import NavState.Session.Act

namespace NavState.Session

/-!
# Asking registries for metrics

A silent registry gives metrics that lead nowhere, a recording one logs every
call, and an exporting one hands out the metrics of a catalogue.
-/

/-- A vector of metrics as a registry gives it. -/
inductive MeterVector where
  | silent
  | recorded (name : String)
  | stored (vector : Nat)
  deriving Repr, DecidableEq

namespace Registry

/-- Register a vector. -/
def register
    (kind : Metric.Kind)
    (definition : Metric.Definition) :
    Registry →
    Act MeterVector
  | silent => pure .silent
  | recording => do
      modify (World.record (.metric (.vector kind definition)))
      return .recorded definition.name
  | exporting catalogue => do
      match (← get).depot.register catalogue kind definition with
      | .error error => throw (.registration error)
      | .ok registered =>
          modify fun world => { world with depot := registered.depot }
          if registered.refused then
            modify (World.trace (.refused definition.name))
          return .stored registered.vector

end Registry

namespace MeterVector

/-- The metric of a vector for some label values. -/
def child (values : List String) : MeterVector → Act Meter
  | silent => pure .silent
  | recorded name => do
      modify (World.record (.metric (.child name values)))
      return .recorded name values
  | stored vector => do
      match (← get).depot.child? vector values with
      | none => throw .labelMismatch
      | some (address, depot) =>
          modify fun world => { world with depot := depot }
          return .stored vector address

end MeterVector

namespace Meters

/-- The vector that counts the operations of all caches. -/
def operations : Metric.Definition where
  name := "navstore_op_total"
  help := "navstore navigation cache operations"
  labels := ["name", "op"]

/-- The vector of the numbers of pages that caches retain. -/
def retained : Metric.Definition where
  name := "navstore_entries"
  help := "navstore durable table entries"
  labels := ["name"]

/-- Set up the metrics of a cache under its name. -/
def setUp (name : String) (registry : Registry) : Act Meters := do
  let counters ← registry.register .counter operations
  let gauges ← registry.register .gauge retained
  let tallies ← Tally.all.mapM fun tally => do
    return (tally, ← counters.child [name, tally.label])
  let pages ← gauges.child [name]
  return { tallies := tallies, pages := pages }

end Meters

end NavState.Session
