import NavState.Metric.Vector
import NavState.Text.Quoted
import NavState.Text.Record

namespace NavState.Metric

/-!
# Catalogues and exporters

An exporter publishes what it is offered, unless the library refuses it for what
was offered before.  A catalogue stands in front of an exporter and binds each
name to the vector that was first registered under it, so registering a name
again gives the same vector.  Several catalogues may share one exporter, and
others may offer it metrics of their own.  A vector that the exporter refuses is
bound all the same and works unpublished.

All vectors of a depot are numbered, and catalogues and exporters hold numbers.
-/

/-- The names bound in front of one exporter. -/
structure Catalogue where
  exporter : Nat
  bound : Assoc String Nat
  deriving Repr, DecidableEq

/-- What an exporter took: a vector of the depot, or families from elsewhere. -/
inductive Collected where
  | vector (number : Nat)
  | foreign (families : List Family)
  deriving Repr, DecidableEq

/-- What an exporter was offered, and what it took of it. -/
structure Exporter where
  offered : List (List Descriptor) := []
  taken : List Collected := []
  deriving Repr, DecidableEq

/-- All vectors, the exporters and the catalogues, over a library of metrics. -/
structure Depot where
  library : Library
  vectors : List Vector := []
  exporters : List Exporter := []
  catalogues : List Catalogue := []

/-- Why a vector was not registered. -/
inductive RegistrationError where
  /-- The name is bound to a vector of the other kind. -/
  | otherKind (name : String) (kind : Kind)
  /-- The library finds something wrong with the definition. -/
  | invalid (name : String) (text : String)
  deriving Repr, DecidableEq

/-- The message of a registration error. -/
def RegistrationError.message : RegistrationError → String
  | otherKind name kind =>
      "metric " ++ name ++ " is already registered as a " ++ kind.label ++
        " vector"
  | invalid name text =>
      "invalid metric definition " ++ name ++ ": " ++ text

/-- The outcome of a registration that went through. -/
structure Registered where
  depot : Depot
  vector : Nat
  /-- Whether the exporter refused to publish the vector. -/
  refused : Bool

namespace Depot

/-- Add an exporter with a catalogue in front of it, giving the catalogue. -/
def addExporter (depot : Depot) : Nat × Depot :=
  (depot.catalogues.length,
    { depot with
      exporters := depot.exporters ++ [{}]
      catalogues := depot.catalogues ++ [⟨depot.exporters.length, []⟩] })

/-- Put another catalogue in front of an exporter. -/
def addCatalogue (exporter : Nat) (depot : Depot) : Nat × Depot :=
  (depot.catalogues.length,
    { depot with catalogues := depot.catalogues ++ [⟨exporter, []⟩] })

/--
The catalogue at an index.  A catalogue that was never added has nothing bound
and stands in front of the first exporter.
-/
def catalogue (depot : Depot) (index : Nat) : Catalogue :=
  (depot.catalogues[index]?).getD ⟨0, []⟩

/-- The exporter at an index.  One that was never added has been offered nothing. -/
def exporter (depot : Depot) (index : Nat) : Exporter :=
  (depot.exporters[index]?).getD {}

/-- Whether an exporter takes what is described by some descriptors. -/
def admits
    (exporter : Nat)
    (descriptors : List Descriptor)
    (depot : Depot) :
    Bool :=
  depot.library.admits (depot.exporter exporter).offered descriptors

/-- Offer something to an exporter, which takes it if the library admits it. -/
def offer
    (exporter : Nat)
    (descriptors : List Descriptor)
    (collected : Collected)
    (depot : Depot) :
    Depot :=
  { depot with
    exporters := depot.exporters.modify exporter fun entry =>
      { offered := entry.offered ++ [descriptors]
        taken :=
          if depot.admits exporter descriptors then
            entry.taken ++ [collected]
          else
            entry.taken } }

/-- Publish what is not from a catalogue. -/
def publish (exporter : Nat) (collector : Collector) (depot : Depot) : Depot :=
  depot.offer exporter collector.descriptors (.foreign collector.families)

/-- Add a vector, which is offered to an exporter. -/
def addVector
    (exporter : Nat)
    (vector : Vector)
    (depot : Depot) :
    Registered :=
  let number := depot.vectors.length
  let descriptors : List Descriptor := [⟨vector.definition, []⟩]
  { depot :=
      { depot.offer exporter descriptors (.vector number) with
        vectors := depot.vectors ++ [vector] }
    vector := number
    refused := !depot.admits exporter descriptors }

/-- Bind a name in a catalogue. -/
def bindName
    (catalogue : Nat)
    (name : String)
    (vector : Nat)
    (depot : Depot) :
    Depot :=
  { depot with
    catalogues := depot.catalogues.modify catalogue fun entry =>
      { entry with bound := entry.bound ++ [(name, vector)] } }

/--
Register a vector under its name.  A name that is bound already gives the vector
it is bound to, whatever the definition, if that vector is of the same kind.
-/
def register
    (catalogue : Nat)
    (kind : Kind)
    (definition : Definition)
    (depot : Depot) :
    Except RegistrationError Registered :=
  let entry := depot.catalogue catalogue
  match Assoc.find? definition.name entry.bound with
  | some number =>
      match depot.vectors[number]? with
      | some vector =>
          if vector.kind = kind then
            .ok ⟨depot, number, false⟩
          else
            .error (.otherKind definition.name vector.kind)
      | none => .ok ⟨depot, number, false⟩
  | none =>
      match depot.library.fault? kind definition with
      | some text => .error (.invalid definition.name text)
      | none =>
          let added := depot.addVector entry.exporter (.empty kind definition)
          .ok { added with
            depot := added.depot.bindName catalogue definition.name added.vector }

/-- The address of a child of a vector, created if need be. -/
def child?
    (vector : Nat)
    (values : List String)
    (depot : Depot) :
    Option (Nat × Depot) := do
  let (key, changed) ← (← depot.vectors[vector]?).child? depot.library values
  return (key, { depot with vectors := depot.vectors.set vector changed })

/-- Change a metric. -/
def update
    (vector : Nat)
    (key : Nat)
    (change : Change)
    (depot : Depot) :
    Depot :=
  { depot with
    vectors := depot.vectors.modify vector (Vector.update key change) }

/-- The diagnostic text of a bound name. -/
def describeBound (depot : Depot) (bound : String × Nat) : String :=
  let kind :=
    match depot.vectors[bound.2]? with
    | some vector => vector.kind.title
    | none => ""
  Text.quote bound.1 ++ ": " ++ kind ++ "(MetricVec)"

/-- The diagnostic text of a catalogue: its exporter by its size, and its names. -/
def describe (catalogue : Nat) (depot : Depot) : String :=
  let entry := depot.catalogue catalogue
  let taken := (depot.exporter entry.exporter).taken.length
  let core := "RegistryCore (" ++ toString taken ++ " collectors)"
  let names := entry.bound.map depot.describeBound
  Text.record "PrometheusMetricsRegistry" [
    ("registry", Text.record "Registry" [
      ("r", Text.record "RwLock" [("data", core)])]),
    ("vecs", Text.record "Mutex" [
      ("data", "\x7b" ++ ", ".intercalate names ++ "\x7d")])]

end Depot

end NavState.Metric
