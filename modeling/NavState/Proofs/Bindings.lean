import NavState.Proofs.Recency
import NavState.Metric.Exposition

namespace NavState.Metric

/-!
# Names in a depot

Names are bound for good: a depot gains vectors, and none is lost or gets
another name.  So what is done under one name leaves the vector of another name
as it is, whichever catalogue it goes through, and what is offered to exporters
under it as well.
-/

namespace Depot

/-- The names of all vectors, under their numbers. -/
def names (depot : Depot) : List String :=
  depot.vectors.map fun vector => vector.definition.name

/-- Whether something that an exporter took has a name. -/
def goesBy (name : String) (depot : Depot) : Collected → Bool
  | .vector number => depot.names[number]?.any fun other => other = name
  | .foreign families => families.any fun family => family.name = name

/-- An exporter took a vector when it was offered. -/
def Publishes (exporter number : Nat) (depot : Depot) : Prop :=
  .vector number ∈ (depot.exporter exporter).taken

instance (exporter number : Nat) (depot : Depot) :
    Decidable (depot.Publishes exporter number) :=
  inferInstanceAs (Decidable (_ ∈ (depot.exporter exporter).taken))

/-- Whether something described under a name was offered to the first exporter. -/
def offers (name : String) (depot : Depot) : Bool :=
  (depot.exporter 0).offered.any fun descriptors =>
    descriptors.any fun descriptor => descriptor.definition.name = name

/-- The number that is bound to a name in the first catalogue. -/
def numberOf? (name : String) (depot : Depot) : Option Nat :=
  Assoc.find? name (depot.catalogue 0).bound

/-! ## What every use keeps -/

/-- Bound and published numbers are those of vectors. -/
structure Sound (depot : Depot) : Prop where
  exporter : 0 < depot.exporters.length
  catalogue : 0 < depot.catalogues.length
  first : (depot.catalogue 0).exporter = 0
  bound :
    ∀ index name number,
      Assoc.find? name (depot.catalogue index).bound = some number →
      depot.names[number]? = some name
  published :
    ∀ index number,
      depot.Publishes index number →
      number < depot.names.length

/-- Names, bindings and offers are added, and none is lost. -/
structure Grows (before ended : Depot) : Prop where
  sound : ended.Sound
  library : ended.library = before.library
  offered : (before.exporter 0).offered <+: (ended.exporter 0).offered
  names : before.names <+: ended.names
  bound :
    ∀ name number,
      before.numberOf? name = some number →
      ended.numberOf? name = some number

theorem Sound.grows {depot : Depot} (sound : depot.Sound) : depot.Grows depot where
  sound := sound
  library := rfl
  offered := List.prefix_rfl
  names := List.prefix_rfl
  bound := fun _ _ found => found

theorem Grows.trans
    {before between ended : Depot}
    (first : before.Grows between)
    (second : between.Grows ended) :
    before.Grows ended where
  sound := second.sound
  library := second.library.trans first.library
  offered := first.offered.trans second.offered
  names := first.names.trans second.names
  bound := fun name number found =>
    second.bound name number (first.bound name number found)

/-- A vector keeps its name. -/
theorem Grows.name
    {before ended : Depot}
    (grows : before.Grows ended)
    {number : Nat}
    {name : String}
    (found : before.names[number]? = some name) :
    ended.names[number]? = some name := by
  obtain ⟨added, shape⟩ := grows.names
  rw [← shape, List.getElem?_append_left (List.getElem?_eq_some_iff.mp found).1]
  exact found

/-! ### Children -/

/-- Nothing has changed but the children of the vectors. -/
structure Refills (before ended : Depot) : Prop where
  library : ended.library = before.library
  names : ended.names = before.names
  exporters : ended.exporters = before.exporters
  catalogues : ended.catalogues = before.catalogues

namespace Refills

variable {before ended : Depot} (refills : before.Refills ended)

include refills

theorem catalogue (index : Nat) :
    ended.catalogue index = before.catalogue index := by
  rw [Depot.catalogue, refills.catalogues, Depot.catalogue]

theorem number (name : String) :
    ended.numberOf? name = before.numberOf? name := by
  rw [numberOf?, refills.catalogue, numberOf?]

theorem exporter (index : Nat) : ended.exporter index = before.exporter index := by
  rw [Depot.exporter, refills.exporters, Depot.exporter]

theorem publishes_iff (index number : Nat) :
    ended.Publishes index number ↔ before.Publishes index number := by
  rw [Publishes, refills.exporter, Publishes]

theorem goesBy (name : String) : ended.goesBy name = before.goesBy name := by
  funext collected
  cases collected with
  | vector number =>
      rw [Depot.goesBy, refills.names, Depot.goesBy]
  | foreign families =>
      rfl

theorem offers (name : String) : ended.offers name = before.offers name := by
  rw [Depot.offers, refills.exporter, Depot.offers]

theorem grows (sound : before.Sound) : before.Grows ended where
  library := refills.library
  offered := by rw [refills.exporter]
  sound := {
    exporter := by
      rw [refills.exporters]
      exact sound.exporter
    catalogue := by
      rw [refills.catalogues]
      exact sound.catalogue
    first := by
      rw [refills.catalogue]
      exact sound.first
    bound := by
      intro index name number found
      rw [refills.catalogue] at found
      rw [refills.names]
      exact sound.bound index name number found
    published := by
      intro index number member
      rw [refills.publishes_iff] at member
      rw [refills.names]
      exact sound.published index number member
  }
  names := by rw [refills.names]
  bound := by
    intro name number found
    rw [refills.number]
    exact found

end Refills

theorem refills_update
    (number key : Nat)
    (change : Change)
    (depot : Depot) :
    depot.Refills (depot.update number key change) := by
  refine ⟨rfl, List.ext_getElem? fun index => ?_, rfl, rfl⟩
  simp only [names, update, List.getElem?_map, List.getElem?_modify]
  cases depot.vectors[index]? with
  | none =>
      rfl
  | some vector =>
      by_cases same : number = index <;> simp [same, Vector.update]

/-- A child that is asked for is a child of the vector. -/
theorem eq_of_child?
    {number : Nat}
    {values : List String}
    {depot : Depot}
    {made : Nat × Depot}
    (succeeds : depot.child? number values = some made) :
    ∃ vector changed,
      depot.vectors[number]? = some vector ∧
        vector.child? depot.library values = some (made.1, changed) ∧
        made.2 = { depot with vectors := depot.vectors.set number changed } := by
  simp only [child?, Option.bind_eq_bind, Option.bind_eq_some_iff,
    Option.pure_def, Option.some.injEq] at succeeds
  obtain ⟨vector, found, ⟨key, changed⟩, asked, rfl⟩ := succeeds
  exact ⟨vector, changed, found, asked, rfl⟩

/-- A vector keeps its definition when a child is asked for. -/
theorem definition_child?
    {library : Library}
    {values : List String}
    {vector changed : Vector}
    {key : Nat}
    (asked : vector.child? library values = some (key, changed)) :
    changed.definition = vector.definition := by
  simp only [Vector.child?] at asked
  split at asked
  · split at asked <;> cases asked <;> rfl
  · cases asked

theorem refills_child?
    {number : Nat}
    {values : List String}
    {depot : Depot}
    {made : Nat × Depot}
    (succeeds : depot.child? number values = some made) :
    depot.Refills made.2 := by
  obtain ⟨vector, changed, found, asked, same⟩ := eq_of_child? succeeds
  rw [same]
  refine ⟨rfl, List.ext_getElem? fun index => ?_, rfl, rfl⟩
  have inside : number < depot.vectors.length :=
    (List.getElem?_eq_some_iff.mp found).1
  simp only [names, List.getElem?_map]
  by_cases own : number = index
  · subst own
    rw [List.getElem?_set_self inside, found]
    simp [definition_child? asked]
  · rw [List.getElem?_set_ne own]

/-! ### Offers -/

theorem exporter_offer
    (place index : Nat)
    (descriptors : List Descriptor)
    (collected : Collected)
    (depot : Depot) :
    (depot.offer place descriptors collected).exporter index =
      if place = index ∧ index < depot.exporters.length then
        { offered := (depot.exporter index).offered ++ [descriptors]
          taken :=
            if depot.admits place descriptors then
              (depot.exporter index).taken ++ [collected]
            else
              (depot.exporter index).taken }
      else
        depot.exporter index := by
  simp only [exporter, offer, List.getElem?_modify]
  by_cases inside : index < depot.exporters.length
  · by_cases own : place = index <;> simp [own, inside]
  · simp [inside]

/-- Whoever takes something that was not there before takes what is offered. -/
theorem mem_taken_offer
    {place index : Nat}
    {descriptors : List Descriptor}
    {collected other : Collected}
    {depot : Depot}
    (member :
      other ∈ ((depot.offer place descriptors collected).exporter index).taken) :
    other ∈ (depot.exporter index).taken ∨ other = collected := by
  rw [exporter_offer] at member
  split at member
  · split at member
    · rcases List.mem_append.mp member with before | isNew
      · exact .inl before
      · exact .inr (List.mem_singleton.mp isNew)
    · exact .inl member
  · exact .inl member

/-- An offer of families, or of a vector that is there, adds to the offers. -/
theorem Sound.grows_offer
    {depot : Depot}
    (sound : depot.Sound)
    (place : Nat)
    (descriptors : List Descriptor)
    {collected : Collected}
    (isThere :
      ∀ number, collected = .vector number → number < depot.names.length) :
    depot.Grows (depot.offer place descriptors collected) where
  sound := {
    exporter := by
      rw [offer, List.length_modify]
      exact sound.exporter
    catalogue := sound.catalogue
    first := sound.first
    bound := sound.bound
    published := by
      intro index number member
      rcases mem_taken_offer member with before | isNew
      · exact sound.published index number before
      · exact isThere number isNew.symm
  }
  library := rfl
  offered := by
    rw [exporter_offer]
    split
    · exact List.prefix_append _ _
    · exact List.prefix_rfl
  names := List.prefix_rfl
  bound := fun _ _ found => found

/-! ### Vectors and names -/

/-- One more vector, which nobody has been offered yet. -/
def withVector (vector : Vector) (depot : Depot) : Depot :=
  { depot with vectors := depot.vectors ++ [vector] }

theorem names_withVector (vector : Vector) (depot : Depot) :
    (depot.withVector vector).names = depot.names ++ [vector.definition.name] := by
  simp [names, withVector]

theorem names_addVector (exporter : Nat) (vector : Vector) (depot : Depot) :
    (depot.addVector exporter vector).depot.names =
      depot.names ++ [vector.definition.name] :=
  names_withVector vector depot

theorem Sound.grows_withVector
    {depot : Depot}
    (sound : depot.Sound)
    (vector : Vector) :
    depot.Grows (depot.withVector vector) where
  sound := {
    exporter := sound.exporter
    catalogue := sound.catalogue
    first := sound.first
    bound := by
      intro index name number found
      have known := sound.bound index name number found
      rw [names_withVector,
        List.getElem?_append_left (List.getElem?_eq_some_iff.mp known).1]
      exact known
    published := by
      intro index number member
      rw [names_withVector, List.length_append]
      exact Nat.lt_add_right _ (sound.published index number member)
  }
  library := rfl
  offered := List.prefix_rfl
  names := by
    rw [names_withVector]
    exact List.prefix_append _ _
  bound := fun _ _ found => found

theorem Sound.grows_addVector
    {depot : Depot}
    (sound : depot.Sound)
    (exporter : Nat)
    (vector : Vector) :
    depot.Grows (depot.addVector exporter vector).depot := by
  have added := sound.grows_withVector vector
  refine added.trans (added.sound.grows_offer exporter _ ?_)
  rintro number ⟨⟩
  rw [names_withVector, names, List.length_append, List.length_map]
  exact Nat.lt_succ_self _

theorem catalogue_bindName
    (place index number : Nat)
    (name : String)
    (depot : Depot) :
    (depot.bindName place name number).catalogue index =
      if place = index ∧ index < depot.catalogues.length then
        ⟨(depot.catalogue index).exporter,
          (depot.catalogue index).bound ++ [(name, number)]⟩
      else
        depot.catalogue index := by
  simp only [catalogue, bindName, List.getElem?_modify]
  by_cases inside : index < depot.catalogues.length
  · by_cases own : place = index <;> simp [own, inside]
  · simp [inside]

/-- A name that is found bound was bound before, or has just been bound. -/
theorem find?_bindName
    {index place number other : Nat}
    {name wanted : String}
    {depot : Depot}
    (found :
      Assoc.find? wanted ((depot.bindName place name number).catalogue index).bound =
        some other) :
    Assoc.find? wanted (depot.catalogue index).bound = some other ∨
      (wanted = name ∧ other = number) := by
  rw [catalogue_bindName] at found
  split at found
  · rw [Assoc.find?_append] at found
    rcases Option.or_eq_some_iff.mp found with before | ⟨_, isNew⟩
    · exact .inl before
    · simp only [Assoc.find?] at isNew
      split at isNew
      · next same =>
          cases isNew
          exact .inr ⟨same.symm, rfl⟩
      · cases isNew
  · exact .inl found

/-- A name that is bound stays bound to what it was first bound to. -/
theorem find?_bindName_of_find?
    {index other : Nat}
    {wanted : String}
    {depot : Depot}
    (found : Assoc.find? wanted (depot.catalogue index).bound = some other)
    (place number : Nat)
    (name : String) :
    Assoc.find? wanted ((depot.bindName place name number).catalogue index).bound =
      some other := by
  rw [catalogue_bindName]
  split
  · rw [Assoc.find?_append, found]
    rfl
  · exact found

theorem Sound.grows_bindName
    {depot : Depot}
    (sound : depot.Sound)
    (place : Nat)
    {name : String}
    {number : Nat}
    (known : depot.names[number]? = some name) :
    depot.Grows (depot.bindName place name number) := by
  refine ⟨⟨sound.exporter, ?_, ?_, ?_, sound.published⟩, rfl, List.prefix_rfl,
    List.prefix_rfl, ?_⟩
  · simp only [bindName, List.length_modify]
    exact sound.catalogue
  · rw [catalogue_bindName]
    split <;> exact sound.first
  · intro index wanted other found
    rcases find?_bindName found with before | ⟨rfl, rfl⟩
    · exact sound.bound index wanted other before
    · exact known
  · intro wanted other found
    exact find?_bindName_of_find? found place number name

/-- What was registered is a vector that has its name. -/
theorem Sound.register
    {depot : Depot}
    (sound : depot.Sound)
    {place : Nat}
    {kind : Kind}
    {definition : Definition}
    {registered : Registered}
    (succeeds : depot.register place kind definition = .ok registered) :
    depot.Grows registered.depot ∧
      registered.depot.names[registered.vector]? = some definition.name := by
  simp only [Depot.register] at succeeds
  split at succeeds
  · next number found =>
      have known := sound.bound place definition.name number found
      split at succeeds
      · split at succeeds
        · cases succeeds
          exact ⟨sound.grows, known⟩
        · cases succeeds
      · cases succeeds
        exact ⟨sound.grows, known⟩
  · split at succeeds
    · cases succeeds
    · cases succeeds
      let vector : Vector := .empty kind definition
      let added := depot.addVector (depot.catalogue place).exporter vector
      have grown : depot.Grows added.depot := sound.grows_addVector _ vector
      have known : added.depot.names[added.vector]? = some definition.name := by
        rw [names_addVector]
        simp [added, addVector, names, vector, Vector.empty]
      have bound := grown.sound.grows_bindName place known
      exact ⟨grown.trans bound, bound.name known⟩

/-- A catalogue that is added has nothing bound yet. -/
theorem bound_append
    (index exporter : Nat)
    (depot : Depot)
    (exporters : List Exporter) :
    (({ depot with
        exporters := exporters
        catalogues := depot.catalogues ++ [⟨exporter, []⟩] } : Depot).catalogue
      index).bound = (depot.catalogue index).bound := by
  simp only [catalogue, List.getElem?_append]
  split
  · rfl
  · next outside =>
      rw [List.getElem?_eq_none (Nat.not_lt.mp outside)]
      cases index - depot.catalogues.length <;> rfl

/-- Exporters that are added have been offered nothing, as if they were there. -/
theorem exporter_append
    {more : List Exporter}
    (fresh : ∀ exporter ∈ more, exporter = {})
    (index place : Nat)
    (depot : Depot) :
    ({ depot with
        exporters := depot.exporters ++ more
        catalogues := depot.catalogues ++ [⟨place, []⟩] } : Depot).exporter index =
      depot.exporter index := by
  simp only [exporter, List.getElem?_append]
  split
  · rfl
  · next outside =>
      rw [List.getElem?_eq_none (Nat.not_lt.mp outside)]
      cases found : more[index - depot.exporters.length]? with
      | none =>
          rfl
      | some exporter =>
          rw [fresh exporter (List.mem_of_getElem? found)]
          rfl

/-- More catalogues, and more exporters that have been offered nothing. -/
theorem Sound.grows_append
    {depot : Depot}
    (sound : depot.Sound)
    (exporter : Nat)
    {more : List Exporter}
    (fresh : ∀ exporter ∈ more, exporter = {}) :
    depot.Grows
      { depot with
        exporters := depot.exporters ++ more
        catalogues := depot.catalogues ++ [⟨exporter, []⟩] } := by
  have bound (index : Nat) :=
    bound_append index exporter depot (depot.exporters ++ more)
  have taken (index : Nat) := exporter_append fresh index exporter depot
  refine ⟨⟨?_, ?_, ?_, ?_, ?_⟩, rfl, ?_, List.prefix_rfl, ?_⟩
  · rw [List.length_append]
    exact Nat.lt_add_right _ sound.exporter
  · rw [List.length_append]
    exact Nat.lt_add_right _ sound.catalogue
  · have first := sound.first
    rw [Depot.catalogue] at first ⊢
    rw [List.getElem?_append_left sound.catalogue]
    exact first
  · intro index name number found
    rw [bound] at found
    exact sound.bound index name number found
  · intro index number member
    rw [Publishes, taken] at member
    exact sound.published index number member
  · rw [taken]
  · intro name number found
    rw [numberOf?, bound]
    exact found

theorem Sound.grows_addExporter
    {depot : Depot}
    (sound : depot.Sound) :
    depot.Grows depot.addExporter.2 :=
  sound.grows_append depot.exporters.length (by simp)

theorem Sound.grows_addCatalogue
    {depot : Depot}
    (sound : depot.Sound)
    (exporter : Nat) :
    depot.Grows (depot.addCatalogue exporter).2 := by
  have grown := sound.grows_append exporter (List.forall_mem_nil _)
  rw [List.append_nil] at grown
  exact grown

/-! ## What is done under other names -/

/-- The vector of a name is left as it is. -/
structure Leaves (name : String) (before ended : Depot) : Prop where
  number : ended.numberOf? name = before.numberOf? name
  vector :
    ∀ number,
      before.numberOf? name = some number →
      ended.vectors[number]? = before.vectors[number]?
  taken :
    (ended.exporter 0).taken.filter (ended.goesBy name) =
      (before.exporter 0).taken.filter (before.goesBy name)
  offers : ended.offers name = before.offers name

theorem Leaves.refl (name : String) (depot : Depot) : depot.Leaves name depot :=
  ⟨rfl, fun _ _ => rfl, rfl, rfl⟩

theorem Leaves.trans
    {name : String}
    {before between ended : Depot}
    (first : before.Leaves name between)
    (second : between.Leaves name ended) :
    before.Leaves name ended where
  number := second.number.trans first.number
  vector := by
    intro number found
    rw [second.vector number (first.number.trans found)]
    exact first.vector number found
  taken := second.taken.trans first.taken
  offers := second.offers.trans first.offers

/-- What goes by another name is not the vector of a name. -/
theorem Sound.ne_of_not_goesBy
    {depot : Depot}
    (sound : depot.Sound)
    {name : String}
    {number other : Nat}
    (found : depot.numberOf? name = some number)
    (foreign : depot.goesBy name (.vector other) = false) :
    other ≠ number := by
  rintro rfl
  rw [goesBy, sound.bound 0 name other found] at foreign
  simp at foreign

theorem Refills.leaves
    {before ended : Depot}
    (refills : before.Refills ended)
    {name : String}
    (vector :
      ∀ number,
        before.numberOf? name = some number →
        ended.vectors[number]? = before.vectors[number]?) :
    before.Leaves name ended where
  number := refills.number name
  vector := vector
  taken := by rw [refills.exporter, refills.goesBy]
  offers := refills.offers name

/-- A change of another vector leaves the vector of the name as it is. -/
theorem Sound.leaves_update
    {depot : Depot}
    (sound : depot.Sound)
    {name : String}
    {number : Nat}
    (foreign : depot.goesBy name (.vector number) = false)
    (key : Nat)
    (change : Change) :
    depot.Leaves name (depot.update number key change) := by
  refine (refills_update number key change depot).leaves fun own found => ?_
  have different := sound.ne_of_not_goesBy found foreign
  simp [update, different]

/-- A child of another vector leaves the vector of the name as it is. -/
theorem Sound.leaves_child?
    {depot : Depot}
    (sound : depot.Sound)
    {name : String}
    {number : Nat}
    (foreign : depot.goesBy name (.vector number) = false)
    {values : List String}
    {made : Nat × Depot}
    (succeeds : depot.child? number values = some made) :
    depot.Leaves name made.2 := by
  refine (refills_child? succeeds).leaves fun own found => ?_
  obtain ⟨_, _, _, _, same⟩ := eq_of_child? succeeds
  rw [same]
  exact List.getElem?_set_ne (sound.ne_of_not_goesBy found foreign)

/-- Whether something goes by a name is settled once it is there. -/
theorem goesBy_of_prefix
    {before ended : Depot}
    (names : before.names <+: ended.names)
    {collected : Collected}
    (isThere :
      ∀ number, collected = .vector number → number < before.names.length)
    (name : String) :
    ended.goesBy name collected = before.goesBy name collected := by
  cases collected with
  | vector number =>
      obtain ⟨added, shape⟩ := names
      rw [goesBy, ← shape, List.getElem?_append_left (isThere number rfl), goesBy]
  | foreign families =>
      rfl

theorem Sound.isThere
    {depot : Depot}
    (sound : depot.Sound)
    {index : Nat}
    {collected : Collected}
    (member : collected ∈ (depot.exporter index).taken)
    (number : Nat)
    (same : collected = .vector number) :
    number < depot.names.length := by
  subst same
  exact sound.published index number member

/-- A vector that nobody has been offered is not noticed. -/
theorem Sound.leaves_withVector
    {depot : Depot}
    (sound : depot.Sound)
    (name : String)
    (vector : Vector) :
    depot.Leaves name (depot.withVector vector) where
  number := rfl
  vector := by
    intro number found
    have known := (List.getElem?_eq_some_iff.mp (sound.bound 0 name number found)).1
    rw [names, List.length_map] at known
    exact List.getElem?_append_left known
  taken :=
    List.filter_congr fun _ member =>
      goesBy_of_prefix (sound.grows_withVector vector).names
        (sound.isThere member) name
  offers := rfl

/-- What is offered and described under other names is not noticed. -/
theorem leaves_offer
    {name : String}
    {descriptors : List Descriptor}
    (apart :
      ∀ descriptor ∈ descriptors, descriptor.definition.name ≠ name)
    {collected : Collected}
    {depot : Depot}
    (foreign : depot.goesBy name collected = false)
    (place : Nat) :
    depot.Leaves name (depot.offer place descriptors collected) where
  number := rfl
  vector := fun _ _ => rfl
  taken := by
    have same :
        (depot.offer place descriptors collected).goesBy name =
          depot.goesBy name := by
      funext other
      cases other <;> rfl
    rw [exporter_offer, same]
    split
    · split
      · rw [List.filter_append, List.filter_singleton, foreign]
        exact List.append_nil _
      · rfl
    · rfl
  offers := by
    have unnamed :
        (descriptors.any fun descriptor =>
          descriptor.definition.name = name) = false := by
      rw [List.any_eq_false]
      intro descriptor member
      simpa using apart descriptor member
    rw [offers, exporter_offer, offers]
    split
    · rw [List.any_append, List.any_cons, unnamed]
      exact Bool.or_false _
    · rfl

/-- A vector of another name is not noticed, whoever is offered it. -/
theorem Sound.leaves_addVector
    {depot : Depot}
    (sound : depot.Sound)
    {name : String}
    (exporter : Nat)
    {vector : Vector}
    (apart : vector.definition.name ≠ name) :
    depot.Leaves name (depot.addVector exporter vector).depot := by
  refine (sound.leaves_withVector name vector).trans (leaves_offer ?_ ?_ exporter)
  · simpa using apart
  · rw [goesBy, names_withVector]
    simpa [names] using apart

theorem leaves_bindName
    {name other : String}
    (different : other ≠ name)
    (place number : Nat)
    (depot : Depot) :
    depot.Leaves name (depot.bindName place other number) where
  number := by
    cases found : (depot.bindName place other number).numberOf? name with
    | some bound =>
        rcases find?_bindName found with before | ⟨same, _⟩
        · exact before.symm
        · exact absurd same.symm different
    | none =>
        cases before : depot.numberOf? name with
        | none =>
            rfl
        | some bound =>
            rw [numberOf?, find?_bindName_of_find? before] at found
            cases found
  vector := fun _ _ => rfl
  taken := by
    have same :
        (depot.bindName place other number).goesBy name = depot.goesBy name := by
      funext collected
      cases collected <;> rfl
    rw [same]
    rfl
  offers := rfl

/-- Whoever registers another name leaves the vector of the name as it is. -/
theorem Sound.leaves_register
    {depot : Depot}
    (sound : depot.Sound)
    {name : String}
    {place : Nat}
    {kind : Kind}
    {definition : Definition}
    (different : definition.name ≠ name)
    {registered : Registered}
    (succeeds : depot.register place kind definition = .ok registered) :
    depot.Leaves name registered.depot := by
  simp only [Depot.register] at succeeds
  split at succeeds
  · split at succeeds
    · split at succeeds
      · cases succeeds
        exact .refl name depot
      · cases succeeds
    · cases succeeds
      exact .refl name depot
  · split at succeeds
    · cases succeeds
    · cases succeeds
      have added :
          depot.Leaves name
            (depot.addVector (depot.catalogue place).exporter
              (.empty kind definition)).depot :=
        sound.leaves_addVector _ different
      exact added.trans (leaves_bindName different _ _ _)

/-- More catalogues and exporters leave what is bound, offered and taken. -/
theorem leaves_append
    {more : List Exporter}
    (fresh : ∀ exporter ∈ more, exporter = {})
    (name : String)
    (exporter : Nat)
    (depot : Depot) :
    depot.Leaves name
      { depot with
        exporters := depot.exporters ++ more
        catalogues := depot.catalogues ++ [⟨exporter, []⟩] } where
  number := by rw [numberOf?, bound_append, numberOf?]
  vector := fun _ _ => rfl
  taken := by
    rw [exporter_append fresh]
    refine List.filter_congr fun collected _ => ?_
    cases collected <;> rfl
  offers := by rw [offers, exporter_append fresh, offers]

theorem leaves_addExporter (name : String) (depot : Depot) :
    depot.Leaves name depot.addExporter.2 :=
  leaves_append (by simp) name depot.exporters.length depot

theorem leaves_addCatalogue (name : String) (exporter : Nat) (depot : Depot) :
    depot.Leaves name (depot.addCatalogue exporter).2 := by
  have left := leaves_append (List.forall_mem_nil _) name exporter depot
  rw [List.append_nil] at left
  exact left

end Depot

end NavState.Metric
