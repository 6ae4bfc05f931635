import NavState.Metric.Definition
import NavState.Number.Decimal

namespace NavState.Metric

/-!
# Libraries of metrics

Vectors are checked, told apart, published and gathered by a library of metrics.
What a program knows of its library is what the library answers: whether a
definition is valid, where the metric for some label values is found, whether an
exporter takes what is offered to it, and what it makes of everything that was
collected.

What is gathered are readings in floating point, so a number that 53 bits do not
hold is rounded.
-/

/-- What a metric reads, in floating point. -/
structure Reading where
  negative : Bool
  magnitude : Number.Binary64
  deriving Repr, DecidableEq

namespace Reading

/-- The nearest reading to a number. -/
def ofInt (value : Int) : Reading where
  negative := value < 0
  magnitude := (Number.Binary64.ofRatio? value.natAbs 1).getD ⟨0, 0⟩

/-- The text of a reading has the shortest digits, and no exponent. -/
def text (reading : Reading) : String :=
  (if reading.negative then "-" else "") ++
    (Number.Decimal.shortest reading.magnitude).positional ""

end Reading

/-- One metric as it is gathered, with its labels in the order of their names. -/
structure Row where
  labels : List (String × String)
  reading : Reading
  deriving Repr, DecidableEq

/-- The metrics of one name as they are gathered. -/
structure Family where
  name : String
  help : String
  kind : Kind
  rows : List Row
  deriving Repr, DecidableEq

/-- Metrics that are published ready to be gathered, as they are described. -/
structure Collector where
  descriptors : List Descriptor
  families : List Family
  deriving Repr, DecidableEq

/-- A library of metrics, by its answers. -/
structure Library where
  /-- What is wrong with the definition of a vector. -/
  fault? : Kind → Definition → Option String
  /-- The place of the metric for some label values in its vector. -/
  address : Definition → List String → Nat
  /--
  Whether an exporter takes what is described by some descriptors, given the
  descriptors of everything it was offered before.
  -/
  admits : List (List Descriptor) → List Descriptor → Bool
  /-- What an exporter shows of all families that were collected, in order. -/
  gather : List Family → List Family
  /-- The text of what an exporter shows. -/
  render : List Family → String

end NavState.Metric
