import NavState.Proofs.Bindings
import NavState.Proofs.Rows

namespace NavState.Metric

/-!
# What is done with a depot

Exporters are made and catalogues put in front of them, vectors are registered
through catalogues, others publish metrics past them that may come to read
otherwise, and the metrics of vectors are asked for and changed.  Whatever cannot
be done leaves the depot as it is.

There are five ways in which an action changes a depot, and what all of them keep
every run keeps: no name is bound twice or to another vector, no vector changes
its form, and whoever publishes it goes on doing so.  What a catalogue has bound
after a run can be read off the registrations of the run, and what a metric says
off its changes.  All of this is so over any library of metrics.
-/

/-- One thing that is done with a depot. -/
inductive Action where
  /-- An exporter is made with a catalogue in front of it. -/
  | addsExporter
  /-- Another catalogue is put in front of an exporter. -/
  | addsCatalogue (exporter : Nat)
  /-- A vector is registered through a catalogue. -/
  | registers (catalogue : Nat) (kind : Kind) (definition : Definition)
  /-- A vector is asked for a metric. -/
  | asks (vector : Nat) (values : List String)
  | changes (vector : Nat) (address : Nat) (change : Change)
  /-- Somebody publishes metrics of their own. -/
  | publishes (exporter : Nat) (collector : Collector)
  /-- What an exporter took from somebody at some place reads otherwise. -/
  | renews (exporter place : Nat) (families : List Family)
  deriving Repr, DecidableEq

/-- Kind and definition of a vector. -/
abbrev Form := Kind × Definition

/-- The form of a vector, which it keeps. -/
def Vector.form (vector : Vector) : Form :=
  (vector.kind, vector.definition)

namespace Action

/--
The form that a registration proposes for a name, if the library finds nothing
wrong with it.
-/
def proposal?
    (library : Library)
    (catalogue : Nat)
    (name : String) :
    Action →
    Option Form
  | registers place kind definition =>
      if place = catalogue ∧ definition.name = name ∧
          library.fault? kind definition = none then
        some (kind, definition)
      else
        none
  | _ => none

/-- The change of one metric. -/
def changeAt? (vector address : Nat) : Action → Option Change
  | changes place key change =>
      if (place, key) = (vector, address) then
        some change
      else
        none
  | _ => none

/-- The form in which a name was first registered through a catalogue. -/
def first?
    (library : Library)
    (catalogue : Nat)
    (name : String)
    (actions : List Action) :
    Option Form :=
  actions.findSome? (proposal? library catalogue name)

/-- All changes of one metric, in order. -/
def changesAt
    (vector address : Nat)
    (actions : List Action) :
    List Change :=
  actions.filterMap (changeAt? vector address)

end Action

/-- Families from elsewhere read otherwise. -/
def Collected.renew (families : List Family) : Collected → Collected
  | vector number => .vector number
  | foreign _ => .foreign families

/-- Nothing is a vector that was not one before. -/
theorem Collected.renew_eq_vector
    {families : List Family}
    {collected : Collected}
    {number : Nat} :
    collected.renew families = .vector number ↔ collected = .vector number := by
  cases collected <;> simp [renew]

namespace Depot

/-- What an exporter took from somebody at some place reads otherwise. -/
def renew
    (exporter place : Nat)
    (families : List Family)
    (depot : Depot) :
    Depot :=
  { depot with
    exporters := depot.exporters.modify exporter fun entry =>
      { entry with taken := entry.taken.modify place (Collected.renew families) } }

/-- The depot after an action. -/
def perform (action : Action) (depot : Depot) : Depot :=
  match action with
  | .addsExporter => depot.addExporter.2
  | .addsCatalogue exporter => (depot.addCatalogue exporter).2
  | .registers catalogue kind definition =>
      match depot.register catalogue kind definition with
      | .ok registered => registered.depot
      | .error _ => depot
  | .asks vector values =>
      match depot.child? vector values with
      | some (_, later) => later
      | none => depot
  | .changes vector address change => depot.update vector address change
  | .publishes exporter collector => depot.publish exporter collector
  | .renews exporter place families => depot.renew exporter place families

/-- The depot after a run of actions. -/
def after (actions : List Action) (depot : Depot) : Depot :=
  actions.foldl (fun depot action => depot.perform action) depot

/-- A depot with one exporter and one catalogue in front of it. -/
def opened (library : Library) : Depot :=
  ({ library := library } : Depot).addExporter.2

/-- The forms of all vectors, under their numbers. -/
def forms (depot : Depot) : List Form :=
  depot.vectors.map Vector.form

/-- The number that a catalogue has bound to a name. -/
def boundNumber? (catalogue : Nat) (name : String) (depot : Depot) : Option Nat :=
  Assoc.find? name (depot.catalogue catalogue).bound

/-- The form of the vector that a catalogue has bound to a name. -/
def boundForm? (catalogue : Nat) (name : String) (depot : Depot) : Option Form :=
  (depot.boundNumber? catalogue name).bind fun number => depot.forms[number]?

/-! ## Registering -/

/-- A new vector is registered under a name. -/
def enroll
    (catalogue : Nat)
    (kind : Kind)
    (definition : Definition)
    (depot : Depot) :
    Registered :=
  let added :=
    depot.addVector (depot.catalogue catalogue).exporter (.empty kind definition)
  { added with
    depot := added.depot.bindName catalogue definition.name added.vector }

section Registering

variable
  {depot : Depot}
  {catalogue : Nat}
  {definition : Definition}

/-- A name that is bound gives its vector, or is refused for its kind. -/
theorem register_of_bound
    {number : Nat}
    {own : Kind}
    {first : Definition}
    (bound : depot.boundNumber? catalogue definition.name = some number)
    (isThere : depot.forms[number]? = some (own, first))
    (kind : Kind) :
    depot.register catalogue kind definition =
      if own = kind then
        .ok ⟨depot, number, false⟩
      else
        .error (.otherKind definition.name own) := by
  rw [forms, List.getElem?_map] at isThere
  obtain ⟨vector, found, form⟩ := Option.map_eq_some_iff.mp isThere
  cases form
  rw [boundNumber?] at bound
  simp only [register, bound, found]

theorem register_of_invalid
    {kind : Kind}
    {text : String}
    (unbound : depot.boundNumber? catalogue definition.name = none)
    (invalid : depot.library.fault? kind definition = some text) :
    depot.register catalogue kind definition =
      .error (.invalid definition.name text) := by
  rw [boundNumber?] at unbound
  simp only [register, unbound, invalid]

theorem register_of_valid
    {kind : Kind}
    (unbound : depot.boundNumber? catalogue definition.name = none)
    (valid : depot.library.fault? kind definition = none) :
    depot.register catalogue kind definition =
      .ok (depot.enroll catalogue kind definition) := by
  rw [boundNumber?] at unbound
  simp only [register, unbound, valid, enroll]

/-- Only a name that is not bound yet is given a new vector. -/
theorem perform_registers
    (catalogue : Nat)
    (kind : Kind)
    (definition : Definition)
    (depot : Depot) :
    depot.perform (.registers catalogue kind definition) =
      if depot.boundNumber? catalogue definition.name = none ∧
          depot.library.fault? kind definition = none then
        (depot.enroll catalogue kind definition).depot
      else
        depot := by
  cases bound : depot.boundNumber? catalogue definition.name with
  | some number =>
      rw [if_neg (by simp)]
      rw [boundNumber?] at bound
      simp only [perform, register, bound]
      cases depot.vectors[number]? with
      | none =>
          rfl
      | some vector =>
          by_cases same : vector.kind = kind <;> simp [same]
  | none =>
      cases checked : depot.library.fault? kind definition with
      | some text =>
          rw [if_neg (by simp), perform, register_of_invalid bound checked]
      | none =>
          rw [if_pos ⟨rfl, rfl⟩, perform, register_of_valid bound checked]

end Registering

/-! ## Forms -/

theorem forms_addVector (exporter : Nat) (vector : Vector) (depot : Depot) :
    (depot.addVector exporter vector).depot.forms = depot.forms ++ [vector.form] := by
  simp [forms, addVector]

theorem forms_enroll
    (catalogue : Nat)
    (kind : Kind)
    (definition : Definition)
    (depot : Depot) :
    (depot.enroll catalogue kind definition).depot.forms =
      depot.forms ++ [(kind, definition)] :=
  forms_addVector (depot.catalogue catalogue).exporter (.empty kind definition)
    depot

/-- A vector keeps its form when a child is asked for. -/
theorem form_child?
    {library : Library}
    {values : List String}
    {vector changed : Vector}
    {key : Nat}
    (asked : vector.child? library values = some (key, changed)) :
    changed.form = vector.form := by
  simp only [Vector.child?] at asked
  split at asked
  · split at asked <;> cases asked <;> rfl
  · cases asked

theorem forms_child?
    {number : Nat}
    {values : List String}
    {depot : Depot}
    {made : Nat × Depot}
    (succeeds : depot.child? number values = some made) :
    made.2.forms = depot.forms := by
  obtain ⟨vector, changed, found, asked, same⟩ := eq_of_child? succeeds
  have kept : depot.forms[number]? = some changed.form := by
    rw [form_child? asked, forms, List.getElem?_map, found]
    rfl
  rw [same, forms, List.map_set]
  obtain ⟨inside, isForm⟩ := List.getElem?_eq_some_iff.mp kept
  rw [← isForm]
  exact List.set_getElem_self inside

theorem forms_update
    (number key : Nat)
    (change : Change)
    (depot : Depot) :
    (depot.update number key change).forms = depot.forms := by
  refine List.ext_getElem? fun index => ?_
  simp only [forms, update, List.getElem?_map, List.getElem?_modify]
  cases depot.vectors[index]? with
  | none =>
      rfl
  | some vector =>
      by_cases same : number = index <;> simp [same, Vector.update, Vector.form]

/-! ## What others publish -/

/-- Only the families from elsewhere at one place of one exporter change. -/
theorem exporter_renew
    (exporter place : Nat)
    (families : List Family)
    (depot : Depot)
    (index : Nat) :
    (depot.renew exporter place families).exporter index =
      if exporter = index then
        { depot.exporter index with
          taken :=
            (depot.exporter index).taken.modify place (Collected.renew families) }
      else
        depot.exporter index := by
  simp only [Depot.exporter, renew, List.getElem?_modify]
  split
  · cases depot.exporters[index]? <;> simp
  · simp

/-- The vectors that are published are those that were. -/
theorem publishes_renew_iff
    (exporter place : Nat)
    (families : List Family)
    (depot : Depot)
    (index number : Nat) :
    (depot.renew exporter place families).Publishes index number ↔
      depot.Publishes index number := by
  rw [Publishes, exporter_renew, Publishes]
  split
  · simp only [List.mem_iff_getElem?, List.getElem?_modify]
    refine exists_congr fun position => ?_
    split
    · simp [Collected.renew_eq_vector]
    · simp
  · exact Iff.rfl

theorem Sound.grows_renew
    {depot : Depot}
    (sound : depot.Sound)
    (exporter place : Nat)
    (families : List Family) :
    depot.Grows (depot.renew exporter place families) where
  sound := {
    exporter := by
      rw [renew, List.length_modify]
      exact sound.exporter
    catalogue := sound.catalogue
    first := sound.first
    bound := sound.bound
    published := by
      intro index number published
      rw [publishes_renew_iff] at published
      exact sound.published index number published
  }
  library := rfl
  offered := by
    rw [exporter_renew]
    split <;> exact List.prefix_rfl
  names := List.prefix_rfl
  bound := fun _ _ found => found

/-! ## What an action can do -/

/-- A depot before and after an action. -/
inductive Develops (before : Depot) : Depot → Prop where
  /-- Another catalogue stands in front of an exporter, which may be new. -/
  | opens
      (exporter : Nat)
      (more : List Exporter)
      (fresh : ∀ other ∈ more, other = {}) :
      Develops before
        { before with
          exporters := before.exporters ++ more
          catalogues := before.catalogues ++ [⟨exporter, []⟩] }
  /-- A name that was not bound is bound to a new vector. -/
  | enrolls
      (catalogue : Nat)
      (kind : Kind)
      (definition : Definition)
      (unbound : before.boundNumber? catalogue definition.name = none)
      (valid : before.library.fault? kind definition = none) :
      Develops before (before.enroll catalogue kind definition).depot
  | publishes (exporter : Nat) (collector : Collector) :
      Develops before (before.publish exporter collector)
  | renews (exporter place : Nat) (families : List Family) :
      Develops before (before.renew exporter place families)
  /-- Children were asked for or changed, if anything happened. -/
  | refills
      {ended : Depot}
      (refills : before.Refills ended)
      (forms : ended.forms = before.forms) :
      Develops before ended

theorem develops_self (depot : Depot) : depot.Develops depot :=
  .refills ⟨rfl, rfl, rfl, rfl⟩ rfl

theorem develops_perform (action : Action) (depot : Depot) :
    depot.Develops (depot.perform action) := by
  cases action with
  | addsExporter =>
      exact .opens depot.exporters.length [{}] (by simp)
  | addsCatalogue exporter =>
      have opened := @Develops.opens depot exporter [] (by simp)
      rw [List.append_nil] at opened
      exact opened
  | registers catalogue kind definition =>
      rw [perform_registers]
      split
      · next isNew =>
          exact .enrolls catalogue kind definition isNew.1 isNew.2
      · exact develops_self depot
  | asks vector values =>
      rw [perform]
      split
      · next key later made =>
          exact .refills (refills_child? made) (forms_child? made)
      · exact develops_self depot
  | changes vector address change =>
      exact .refills (refills_update vector address change depot)
        (forms_update vector address change depot)
  | publishes exporter collector =>
      exact .publishes exporter collector
  | renews exporter place families =>
      exact .renews exporter place families

/-- What every action keeps, a run of actions keeps. -/
theorem induction_after
    {motive : Depot → Prop}
    {depot : Depot}
    (start : motive depot)
    (step : ∀ before ended, before.Develops ended → motive before → motive ended)
    (actions : List Action) :
    motive (depot.after actions) := by
  induction actions generalizing depot with
  | nil =>
      exact start
  | cons action rest inductionHypothesis =>
      exact inductionHypothesis
        (step depot (depot.perform action) (develops_perform action depot) start)

/-! ## What every action keeps -/

section Keeping

variable
  {before ended : Depot}
  (develops : before.Develops ended)

include develops

theorem Develops.grows (sound : before.Sound) : before.Grows ended := by
  cases develops with
  | opens exporter more fresh =>
      exact sound.grows_append exporter fresh
  | enrolls catalogue kind definition unbound valid =>
      exact (sound.register (register_of_valid unbound valid)).1
  | publishes exporter collector =>
      exact sound.grows_offer exporter _ nofun
  | renews exporter place families =>
      exact sound.grows_renew exporter place families
  | refills refills =>
      exact refills.grows sound

theorem Develops.library : ended.library = before.library := by
  cases develops with
  | refills refills =>
      exact refills.library
  | _ =>
      rfl

/-- Vectors are added, and those that are there keep their forms. -/
theorem Develops.forms : before.forms <+: ended.forms := by
  cases develops with
  | opens exporter more fresh =>
      exact List.prefix_rfl
  | enrolls catalogue kind definition unbound valid =>
      rw [forms_enroll]
      exact List.prefix_append _ _
  | publishes _ _ | renews _ _ _ =>
      exact List.prefix_rfl
  | refills refills forms =>
      rw [forms]

theorem Develops.form
    {number : Nat}
    {form : Form}
    (isThere : before.forms[number]? = some form) :
    ended.forms[number]? = some form := by
  obtain ⟨added, shape⟩ := develops.forms
  rw [← shape, List.getElem?_append_left (List.getElem?_eq_some_iff.mp isThere).1]
  exact isThere

/-- A name stays bound to its vector. -/
theorem Develops.boundNumber?
    {catalogue number : Nat}
    {name : String}
    (bound : before.boundNumber? catalogue name = some number) :
    ended.boundNumber? catalogue name = some number := by
  rw [Depot.boundNumber?] at bound ⊢
  cases develops with
  | opens exporter more fresh =>
      rw [bound_append]
      exact bound
  | enrolls place kind definition unbound valid =>
      exact find?_bindName_of_find? bound place _ definition.name
  | publishes _ _ | renews _ _ _ =>
      exact bound
  | refills refills =>
      rw [refills.catalogue]
      exact bound

/-- A catalogue binds no name twice. -/
theorem Develops.nodup_keys
    {catalogue : Nat}
    (distinct : (Assoc.keys (before.catalogue catalogue).bound).Nodup) :
    (Assoc.keys (ended.catalogue catalogue).bound).Nodup := by
  cases develops with
  | opens exporter more fresh =>
      rw [bound_append]
      exact distinct
  | enrolls place kind definition unbound valid =>
      have same (exporter : Nat) (vector : Vector) :
          (before.addVector exporter vector).depot.catalogue catalogue =
            before.catalogue catalogue :=
        rfl
      rw [enroll, catalogue_bindName, same]
      split
      · next own =>
          rw [Depot.boundNumber?, own.1, Assoc.find?_eq_none_iff] at unbound
          simp only [Assoc.keys, List.map_append, List.map_cons, List.map_nil]
          exact distinct.append (List.nodup_singleton _)
            (List.disjoint_singleton.mpr unbound)
      · exact distinct
  | publishes _ _ | renews _ _ _ =>
      exact distinct
  | refills refills =>
      rw [refills.catalogue]
      exact distinct

/-- Whoever publishes a vector took it when it was added. -/
theorem Develops.publishes_iff
    {number : Nat}
    (isThere : number < before.forms.length)
    (exporter : Nat) :
    ended.Publishes exporter number ↔ before.Publishes exporter number := by
  rw [Depot.forms, List.length_map] at isThere
  have isOld
      (depot : Depot)
      (place : Nat)
      (descriptors : List Descriptor)
      {collected : Collected}
      (other : collected ≠ .vector number) :
      (depot.offer place descriptors collected).Publishes exporter number ↔
        depot.Publishes exporter number := by
    rw [Publishes, exporter_offer, Publishes]
    split
    · split
      · rw [List.mem_append, List.mem_singleton, or_iff_left (Ne.symm other)]
      · exact Iff.rfl
    · exact Iff.rfl
  cases develops with
  | opens place more fresh =>
      rw [Publishes, exporter_append fresh, Publishes]
  | enrolls place kind definition unbound valid =>
      have isNew : Collected.vector before.vectors.length ≠ .vector number := by
        intro same
        cases same
        exact Nat.lt_irrefl _ isThere
      exact isOld (before.withVector (.empty kind definition)) _ _ isNew
  | publishes place collector =>
      exact isOld before place _ (by simp)
  | renews other place families =>
      exact publishes_renew_iff other place families before exporter number
  | refills refills =>
      exact refills.publishes_iff exporter number

end Keeping

theorem sound_opened (library : Library) : (opened library).Sound where
  exporter := Nat.zero_lt_one
  catalogue := Nat.zero_lt_one
  first := rfl
  bound := by
    intro index name number found
    rcases index with _ | index <;> cases found
  published := by
    intro index number member
    rcases index with _ | index <;> cases member

/-- A catalogue stands in front of an exporter, for good. -/
structure Stands (catalogue exporter : Nat) (depot : Depot) : Prop where
  inside : catalogue < depot.catalogues.length
  front : (depot.catalogue catalogue).exporter = exporter
  behind : exporter < depot.exporters.length

theorem stands_append
    {catalogue exporter : Nat}
    {depot : Depot}
    (stands : depot.Stands catalogue exporter)
    (more : List Exporter)
    (other : Nat) :
    Stands catalogue exporter
      { depot with
        exporters := depot.exporters ++ more
        catalogues := depot.catalogues ++ [⟨other, []⟩] } where
  inside := by
    rw [List.length_append]
    exact Nat.lt_add_right _ stands.inside
  front := by
    have front := stands.front
    rw [Depot.catalogue] at front ⊢
    rw [List.getElem?_append_left stands.inside]
    exact front
  behind := by
    rw [List.length_append]
    exact Nat.lt_add_right _ stands.behind

theorem Stands.offer
    {catalogue exporter : Nat}
    {depot : Depot}
    (stands : depot.Stands catalogue exporter)
    (other : Nat)
    (descriptors : List Descriptor)
    (collected : Collected) :
    (depot.offer other descriptors collected).Stands catalogue exporter where
  inside := stands.inside
  front := stands.front
  behind := by
    rw [Depot.offer, List.length_modify]
    exact stands.behind

theorem Stands.addVector
    {catalogue exporter : Nat}
    {depot : Depot}
    (stands : depot.Stands catalogue exporter)
    (other : Nat)
    (vector : Vector) :
    (depot.addVector other vector).depot.Stands catalogue exporter := by
  have added : (depot.withVector vector).Stands catalogue exporter :=
    ⟨stands.inside, stands.front, stands.behind⟩
  exact added.offer other _ _

theorem Stands.bindName
    {catalogue exporter : Nat}
    {depot : Depot}
    (stands : depot.Stands catalogue exporter)
    (place number : Nat)
    (name : String) :
    (depot.bindName place name number).Stands catalogue exporter where
  inside := by
    rw [Depot.bindName, List.length_modify]
    exact stands.inside
  front := by
    rw [catalogue_bindName]
    split <;> exact stands.front
  behind := stands.behind

theorem Develops.stands
    {before ended : Depot}
    (develops : before.Develops ended)
    {catalogue exporter : Nat}
    (stands : before.Stands catalogue exporter) :
    ended.Stands catalogue exporter := by
  cases develops with
  | opens place more fresh =>
      exact stands_append stands more place
  | enrolls place kind definition unbound valid =>
      exact (stands.addVector _ _).bindName place _ _
  | publishes place collector =>
      exact stands.offer place _ _
  | renews other place families =>
      refine ⟨stands.inside, stands.front, ?_⟩
      rw [renew, List.length_modify]
      exact stands.behind
  | refills refills =>
      exact ⟨by rw [refills.catalogues]; exact stands.inside,
        by rw [refills.catalogue]; exact stands.front,
        by rw [refills.exporters]; exact stands.behind⟩

/-! ## Names -/

/-- What a name is bound to is a vector. -/
theorem Sound.exists_form
    {depot : Depot}
    (sound : depot.Sound)
    {catalogue number : Nat}
    {name : String}
    (bound : depot.boundNumber? catalogue name = some number) :
    ∃ form, depot.forms[number]? = some form := by
  have named := sound.bound catalogue name number bound
  rw [names, List.getElem?_map] at named
  obtain ⟨vector, found, _⟩ := Option.map_eq_some_iff.mp named
  exact ⟨vector.form, by rw [forms, List.getElem?_map, found]; rfl⟩

/-- A new name is bound to the new vector. -/
theorem boundNumber?_enroll
    {catalogue : Nat}
    {depot : Depot}
    (isThere : catalogue < depot.catalogues.length)
    (place : Nat)
    (kind : Kind)
    (definition : Definition)
    (name : String) :
    (depot.enroll place kind definition).depot.boundNumber? catalogue name =
      (depot.boundNumber? catalogue name).or
        (if place = catalogue ∧ definition.name = name then
          some depot.vectors.length
        else
          none) := by
  have shape :=
    catalogue_bindName place catalogue depot.vectors.length definition.name
      (depot.addVector (depot.catalogue place).exporter
        (.empty kind definition)).depot
  have bound :
      (depot.enroll place kind definition).depot.boundNumber? catalogue name =
        Assoc.find? name
          ((depot.addVector (depot.catalogue place).exporter
            (.empty kind definition)).depot.bindName place definition.name
              depot.vectors.length |>.catalogue catalogue).bound :=
    rfl
  rw [bound, shape]
  by_cases own : place = catalogue
  · rw [if_pos ⟨own, isThere⟩, Assoc.find?_append]
    by_cases same : definition.name = name
    · simp only [own, same, Assoc.find?, and_self, if_true]
      rfl
    · simp only [own, same, Assoc.find?, and_false, if_false]
      rfl
  · rw [if_neg fun both => own both.1, if_neg fun both => own both.1,
      Option.or_none]
    rfl

/-- A new vector is offered to the exporter behind its catalogue. -/
theorem exporter_enroll
    (catalogue place : Nat)
    (kind : Kind)
    (definition : Definition)
    (depot : Depot) :
    (depot.enroll catalogue kind definition).depot.exporter place =
      if (depot.catalogue catalogue).exporter = place ∧
          place < depot.exporters.length then
        { offered := (depot.exporter place).offered ++ [[⟨definition, []⟩]]
          taken :=
            if depot.admits (depot.catalogue catalogue).exporter
                [⟨definition, []⟩] then
              (depot.exporter place).taken ++ [.vector depot.vectors.length]
            else
              (depot.exporter place).taken }
      else
        depot.exporter place :=
  exporter_offer (depot.catalogue catalogue).exporter place [⟨definition, []⟩]
    (.vector depot.vectors.length) (depot.withVector (.empty kind definition))

/-- An action binds a name that was not bound if it proposes a form for it. -/
theorem boundNumber?_perform
    {catalogue : Nat}
    {depot : Depot}
    (isThere : catalogue < depot.catalogues.length)
    (action : Action)
    (name : String) :
    (depot.perform action).boundNumber? catalogue name =
      (depot.boundNumber? catalogue name).or
        ((action.proposal? depot.library catalogue name).map fun _ =>
          depot.vectors.length) := by
  cases action with
  | addsExporter =>
      rw [boundNumber?, perform, addExporter, bound_append]
      exact (Option.or_none).symm
  | addsCatalogue exporter =>
      have same := bound_append catalogue exporter depot depot.exporters
      rw [boundNumber?, perform, addCatalogue, same]
      exact (Option.or_none).symm
  | registers place kind definition =>
      rw [perform_registers]
      split
      · next isNew =>
          rw [boundNumber?_enroll isThere]
          by_cases own : place = catalogue ∧ definition.name = name <;>
            simp [Action.proposal?, own, isNew.2]
      · next isOld =>
          by_cases own :
              place = catalogue ∧ definition.name = name ∧
                depot.library.fault? kind definition = none
          · obtain ⟨rfl, rfl, valid⟩ := own
            have bound : depot.boundNumber? place definition.name ≠ none :=
              fun unbound => isOld ⟨unbound, valid⟩
            obtain ⟨number, found⟩ := Option.ne_none_iff_exists'.mp bound
            rw [found, Option.some_or]
          · simp [Action.proposal?, own]
  | asks vector values =>
      rw [perform]
      split
      · next key later made =>
          rw [boundNumber?, (refills_child? made).catalogue]
          exact (Option.or_none).symm
      · exact (Option.or_none).symm
  | changes vector address change =>
      exact (Option.or_none).symm
  | publishes _ _ | renews _ _ _ =>
      exact (Option.or_none).symm

/-- A name keeps its form, and gets one when a form is first proposed for it. -/
theorem Sound.boundForm?_perform
    {catalogue : Nat}
    {depot : Depot}
    (sound : depot.Sound)
    (isThere : catalogue < depot.catalogues.length)
    (action : Action)
    (name : String) :
    (depot.perform action).boundForm? catalogue name =
      (depot.boundForm? catalogue name).or
        (action.proposal? depot.library catalogue name) := by
  rw [boundForm?, boundForm?, boundNumber?_perform isThere]
  cases bound : depot.boundNumber? catalogue name with
  | some number =>
      obtain ⟨form, known⟩ := sound.exists_form bound
      rw [Option.some_or, Option.bind_some, Option.bind_some,
        (develops_perform action depot).form known, known, Option.some_or]
  | none =>
      rw [Option.none_or, Option.bind_none, Option.none_or]
      cases proposed : action.proposal? depot.library catalogue name with
      | none =>
          rfl
      | some form =>
          cases action with
          | registers place kind definition =>
              simp only [Action.proposal?] at proposed
              split at proposed
              · next own =>
                  obtain ⟨rfl, rfl, valid⟩ := own
                  cases proposed
                  rw [perform_registers, if_pos ⟨bound, valid⟩, forms_enroll]
                  simp [forms]
              · cases proposed
          | _ =>
              cases proposed

/-! ## Words -/

/-- A word changes by the changes of its metric, and by nothing else. -/
theorem word?_perform
    {vector address : Nat}
    {word : UInt64}
    {depot : Depot}
    (found : depot.word? vector address = some word)
    (action : Action) :
    (depot.perform action).word? vector address =
      some ((action.changeAt? vector address).elim word fun change =>
        change.apply word) := by
  cases action with
  | addsExporter =>
      exact keeps_of_vectors_eq rfl vector address word found
  | addsCatalogue exporter =>
      exact keeps_of_vectors_eq rfl vector address word found
  | registers catalogue kind definition =>
      rw [perform]
      split
      · next registered succeeds =>
          exact keeps_register succeeds vector address word found
      · exact found
  | asks place values =>
      rw [perform]
      split
      · next key later made =>
          exact keeps_child? made vector address word found
      · exact found
  | changes place key change =>
      by_cases own : (place, key) = (vector, address)
      · cases own
        rw [perform, word?_update_self, found, Action.changeAt?, if_pos rfl]
        rfl
      · rw [perform, word?_update_of_ne (Ne.symm own), found, Action.changeAt?,
          if_neg own]
        rfl
  | publishes _ _ | renews _ _ _ =>
      exact found

/-! ## Runs -/

section Runs

variable
  {catalogue exporter : Nat}
  {depot : Depot}

theorem Sound.after (sound : depot.Sound) (actions : List Action) :
    (depot.after actions).Sound :=
  induction_after sound (fun _ _ develops sound => (develops.grows sound).sound)
    actions

theorem library_after (actions : List Action) (depot : Depot) :
    (depot.after actions).library = depot.library :=
  induction_after (motive := fun later => later.library = depot.library) rfl
    (fun _ _ develops same => develops.library.trans same) actions

theorem Stands.after
    (stands : depot.Stands catalogue exporter)
    (actions : List Action) :
    (depot.after actions).Stands catalogue exporter :=
  induction_after stands (fun _ _ develops => develops.stands) actions

theorem form_after
    {number : Nat}
    {form : Form}
    (isThere : depot.forms[number]? = some form)
    (actions : List Action) :
    (depot.after actions).forms[number]? = some form :=
  induction_after isThere (fun _ _ develops => develops.form) actions

theorem boundNumber?_after
    {name : String}
    {number : Nat}
    (bound : depot.boundNumber? catalogue name = some number)
    (actions : List Action) :
    (depot.after actions).boundNumber? catalogue name = some number :=
  induction_after bound (fun _ _ develops => develops.boundNumber?) actions

theorem nodup_keys_after
    (distinct : (Assoc.keys (depot.catalogue catalogue).bound).Nodup)
    (actions : List Action) :
    (Assoc.keys ((depot.after actions).catalogue catalogue).bound).Nodup :=
  induction_after distinct (fun _ _ develops => develops.nodup_keys) actions

/-- Who publishes a vector that is there is settled. -/
theorem publishes_after_iff
    {number : Nat}
    (isThere : number < depot.forms.length)
    (actions : List Action)
    (exporter : Nat) :
    (depot.after actions).Publishes exporter number ↔
      depot.Publishes exporter number := by
  let settled (later : Depot) : Prop :=
    number < later.forms.length ∧
      (later.Publishes exporter number ↔ depot.Publishes exporter number)
  have kept : settled (depot.after actions) := by
    refine induction_after ⟨isThere, Iff.rfl⟩ ?_ actions
    rintro before ended develops ⟨inside, same⟩
    exact ⟨inside.trans_le develops.forms.length_le,
      (develops.publishes_iff inside exporter).trans same⟩
  exact kept.2

theorem first?_cons
    (library : Library)
    (catalogue : Nat)
    (name : String)
    (action : Action)
    (rest : List Action) :
    Action.first? library catalogue name (action :: rest) =
      (action.proposal? library catalogue name).or
        (Action.first? library catalogue name rest) := by
  rw [Action.first?, List.findSome?_cons]
  cases action.proposal? library catalogue name <;> rfl

/-- The form of a name is the first that was proposed for it. -/
theorem Sound.boundForm?_after
    (sound : depot.Sound)
    (stands : depot.Stands catalogue exporter)
    (actions : List Action)
    (name : String) :
    (depot.after actions).boundForm? catalogue name =
      (depot.boundForm? catalogue name).or
        (Action.first? depot.library catalogue name actions) := by
  induction actions generalizing depot with
  | nil =>
      exact (Option.or_none).symm
  | cons action rest inductionHypothesis =>
      have develops := develops_perform action depot
      have later : (depot.after (action :: rest)).boundForm? catalogue name =
          ((depot.perform action).boundForm? catalogue name).or
            (Action.first? depot.library catalogue name rest) := by
        rw [← develops.library]
        exact inductionHypothesis (develops.grows sound).sound
          (develops.stands stands)
      rw [later, sound.boundForm?_perform stands.inside, Option.or_assoc,
        first?_cons]

/-- The word of a metric after a run, from its word before and its changes. -/
theorem word?_after
    {vector address : Nat}
    {word : UInt64}
    (found : depot.word? vector address = some word)
    (actions : List Action) :
    (depot.after actions).word? vector address =
      some ((Action.changesAt vector address actions).foldl
        (fun word change => change.apply word) word) := by
  induction actions generalizing depot word with
  | nil =>
      exact found
  | cons action rest inductionHypothesis =>
      have later := inductionHypothesis (word?_perform found action)
      refine later.trans ?_
      rw [Action.changesAt, Action.changesAt, List.filterMap_cons]
      cases action.changeAt? vector address <;> rfl

end Runs

end Depot

end NavState.Metric
