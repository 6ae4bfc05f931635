import NavState.Departure

namespace NavState.Metric

/-!
# Metric definitions

A vector of metrics is defined by a name, a help text and the names of its
labels.  Whoever publishes metrics describes them by such definitions, each with
the labels whose values never change.
-/

/-- Whether the metrics of a vector only grow or move freely. -/
inductive Kind where
  | counter
  | gauge
  deriving Repr, DecidableEq

/-- The name of a kind. -/
def Kind.label : Kind → String
  | counter => "counter"
  | gauge => "gauge"

/-- The name of a kind as a word of its own. -/
def Kind.title : Kind → String
  | counter => "Counter"
  | gauge => "Gauge"

/-- Name, help text and label names of a vector of metrics. -/
structure Definition where
  name : String
  help : String
  labels : List String
  deriving Repr, DecidableEq

/-- A definition with the labels that have the same value in every metric. -/
structure Descriptor where
  definition : Definition
  constants : List (String × String) := []
  deriving Repr, DecidableEq

end NavState.Metric
