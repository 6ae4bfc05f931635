import NavState.Metric.Library
import NavState.Assoc

namespace NavState.Metric

/-!
# Vectors of metrics

A vector holds one child per address, which the library makes up of the label
values.  Lists of values with the same address share a child, which keeps the
values it was created with.

Every child is a 64-bit word.  A counter reads its word as a natural number and
a gauge as a two's complement number, so both kinds share one wrapping
arithmetic.
-/

/-- One metric of a vector. -/
structure Child where
  values : List String
  word : UInt64
  deriving Repr, DecidableEq

/-- A change of one metric. -/
inductive Change where
  | increase (amount : UInt64)
  | decrease (amount : UInt64)
  | absolute (amount : UInt64)
  deriving Repr, DecidableEq

/-- The word of a metric after a change. -/
def Change.apply (word : UInt64) : Change → UInt64
  | increase amount => word + amount
  | decrease amount => word - amount
  | absolute amount => amount

/-- A vector of metrics with its children, under their addresses. -/
structure Vector where
  kind : Kind
  definition : Definition
  children : Assoc Nat Child
  deriving Repr, DecidableEq

namespace Vector

/-- A vector without children. -/
def empty (kind : Kind) (definition : Definition) : Vector where
  kind := kind
  definition := definition
  children := []

/--
The address of the child for some label values, which is created at zero if
there is none yet.  Nothing if the number of values is not that of the labels.
-/
def child?
    (library : Library)
    (values : List String)
    (vector : Vector) :
    Option (Nat × Vector) :=
  if values.length = vector.definition.labels.length then
    let key := library.address vector.definition values
    if Assoc.contains key vector.children then
      some (key, vector)
    else
      some (key,
        { vector with children := vector.children ++ [(key, ⟨values, 0⟩)] })
  else
    none

/-- Change the child at an address. -/
def update
    (key : Nat)
    (change : Change)
    (vector : Vector) :
    Vector :=
  { vector with
    children :=
      Assoc.adjust key
        (fun child => { child with word := change.apply child.word })
        vector.children }

/-- What the word of a metric says. -/
def reading (vector : Vector) (child : Child) : Int :=
  match vector.kind with
  | .counter => child.word.toNat
  | .gauge => child.word.toInt64.toInt

end Vector

end NavState.Metric
