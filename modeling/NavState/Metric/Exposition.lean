import NavState.Metric.Catalogue

namespace NavState.Metric

/-!
# Exposition of metrics

Whatever an exporter took is collected in the order in which it was offered, and
the library makes of it what the exporter shows.  A vector comes as one family,
with a row for each child.
-/

/-- The row of a child, labels sorted by name. -/
def Row.ofChild (vector : Vector) (child : Child) : Row where
  labels :=
    (vector.definition.labels.zip child.values).mergeSort
      fun left right => left.1 ≤ right.1
  reading := .ofInt (vector.reading child)

/-- The family of a vector. -/
def Family.ofVector (vector : Vector) : Family where
  name := vector.definition.name
  help := vector.definition.help
  kind := vector.kind
  rows := vector.children.map fun entry => Row.ofChild vector entry.2

namespace Depot

/-- The families of something that an exporter took. -/
def collect (depot : Depot) : Collected → List Family
  | .vector number => (depot.vectors[number]?).toList.map Family.ofVector
  | .foreign families => families

/-- The families of everything that an exporter took. -/
def collected (exporter : Nat) (depot : Depot) : List Family :=
  (depot.exporter exporter).taken.flatMap depot.collect

/-- What an exporter shows. -/
def gather (exporter : Nat) (depot : Depot) : List Family :=
  depot.library.gather (depot.collected exporter)

/-- What an exporter shows, as a text. -/
def exposition (exporter : Nat) (depot : Depot) : String :=
  depot.library.render (depot.gather exporter)

end Depot

end NavState.Metric
