import NavState.Proofs.Depots

namespace NavState.Metric

/-!
# Vectors under reserved names

A name is reserved if vectors are registered under it by nobody but one user,
through the first catalogue.  The depot holds one vector for a reserved name: it
is made when the name is first registered, and it is found again by every later
registration.  It is published if the exporter takes what nobody else has offered
under its name, and whoever gathers is shown its rows if the library shows the
rows that were collected under a name.
-/

namespace Vector

/-- Children for some lists of values at their addresses, with the word of each. -/
def childrenOf
    (address : List String → Nat)
    (rows : List (List String))
    (word : List String → UInt64) :
    Assoc Nat Child :=
  rows.map fun values => (address values, ⟨values, word values⟩)

/-- The lists of values that have children once a list was asked for. -/
def withRow
    (address : List String → Nat)
    (values : List String)
    (rows : List (List String)) :
    List (List String) :=
  if address values ∈ rows.map address then
    rows
  else
    rows ++ [values]

section Children

variable {address : List String → Nat}

theorem keys_childrenOf
    (rows : List (List String))
    (word : List String → UInt64) :
    Assoc.keys (childrenOf address rows word) = rows.map address := by
  simp [childrenOf, Assoc.keys, Function.comp_def]

/-- Values find the child of a row with the same address. -/
theorem find?_childrenOf
    {rows : List (List String)}
    {word : List String → UInt64}
    {values : List String}
    (isThere : address values ∈ rows.map address)
    (same : ∀ row, address row = address values → word row = word values) :
    (Assoc.find? (address values) (childrenOf address rows word)).map Child.word =
      some (word values) := by
  induction rows with
  | nil =>
      cases isThere
  | cons row rest inductionHypothesis =>
      rw [childrenOf, List.map_cons, Assoc.find?]
      by_cases own : address row = address values
      · rw [if_pos own]
        exact congrArg some (same row own)
      · rw [if_neg own]
        rw [List.map_cons, List.mem_cons] at isThere
        exact inductionHypothesis (isThere.resolve_left (Ne.symm own))

/-- A child is created at zero, which is its word if it had none before. -/
theorem child?_childrenOf
    {library : Library}
    {kind : Kind}
    {definition : Definition}
    (places : library.address definition = address)
    {rows : List (List String)}
    {word : List String → UInt64}
    {values : List String}
    (fits : values.length = definition.labels.length)
    (unused : address values ∉ rows.map address → word values = 0) :
    (Vector.mk kind definition (childrenOf address rows word)).child? library values =
      some (address values,
        ⟨kind, definition, childrenOf address (withRow address values rows) word⟩) := by
  have known :
      Assoc.contains (address values) (childrenOf address rows word) = true ↔
        address values ∈ rows.map address := by
    rw [Assoc.contains_iff_mem_keys, keys_childrenOf]
  by_cases taken : address values ∈ rows.map address
  · simp only [child?, if_pos fits, places, if_pos (known.mpr taken), withRow,
      if_pos taken]
  · simp only [child?, if_pos fits, places, if_neg (mt known.mp taken), withRow,
      if_neg taken]
    simp [childrenOf, unused taken]

/-- A change reaches the children at its address. -/
theorem update_childrenOf
    (kind : Kind)
    (definition : Definition)
    (rows : List (List String))
    (word : List String → UInt64)
    (key : Nat)
    (change : Change) :
    (Vector.mk kind definition (childrenOf address rows word)).update key change =
      ⟨kind, definition,
        childrenOf address rows fun values =>
          if address values = key then
            change.apply (word values)
          else
            word values⟩ := by
  simp only [update, childrenOf, Assoc.adjust, List.map_map]
  congr 1
  refine List.map_congr_left fun values _ => ?_
  simp only [Function.comp_def]
  split <;> rfl

/-- The addresses of rows stay distinct. -/
theorem nodup_withRow
    {rows : List (List String)}
    (distinct : (rows.map address).Nodup)
    (values : List String) :
    ((withRow address values rows).map address).Nodup := by
  rw [withRow]
  split
  · exact distinct
  · next isNew =>
      rw [List.map_append]
      refine distinct.append (List.nodup_singleton _) ?_
      exact List.disjoint_singleton.mpr isNew

theorem subset_withRow (values : List String) (rows : List (List String)) :
    rows ⊆ withRow address values rows := by
  rw [withRow]
  split
  · exact List.Subset.refl rows
  · exact List.subset_append_left rows [values]

theorem address_mem_withRow
    (values : List String)
    (rows : List (List String)) :
    address values ∈ (withRow address values rows).map address := by
  rw [withRow]
  split
  · next taken => exact taken
  · simp

theorem eq_or_mem_of_mem_withRow
    {values row : List String}
    {rows : List (List String)}
    (member : row ∈ withRow address values rows) :
    row = values ∨ row ∈ rows := by
  rw [withRow] at member
  split at member
  · exact .inr member
  · rcases List.mem_append.mp member with before | isNew
    · exact .inr before
    · exact .inl (List.mem_singleton.mp isNew)

/-- The lists of values that have children once some lists were asked for. -/
def withRows
    (address : List String → Nat)
    (lists : List (List String))
    (rows : List (List String)) :
    List (List String) :=
  lists.foldl (fun rows values => withRow address values rows) rows

theorem nodup_withRows
    (lists : List (List String))
    {rows : List (List String)}
    (distinct : (rows.map address).Nodup) :
    ((withRows address lists rows).map address).Nodup := by
  induction lists generalizing rows with
  | nil =>
      exact distinct
  | cons values rest inductionHypothesis =>
      exact inductionHypothesis (nodup_withRow distinct values)

theorem subset_withRows
    (lists rows : List (List String)) :
    rows ⊆ withRows address lists rows := by
  induction lists generalizing rows with
  | nil =>
      exact List.Subset.refl rows
  | cons values rest inductionHypothesis =>
      exact List.Subset.trans (subset_withRow values rows)
        (inductionHypothesis (withRow address values rows))

/-- Whatever was asked for has a child at its address. -/
theorem address_mem_withRows
    {lists : List (List String)}
    {values : List String}
    (member : values ∈ lists)
    (rows : List (List String)) :
    address values ∈ (withRows address lists rows).map address := by
  induction lists generalizing rows with
  | nil =>
      cases member
  | cons first rest inductionHypothesis =>
      rcases List.mem_cons.mp member with rfl | later
      · exact List.map_subset _ (subset_withRows rest (withRow address values rows))
          (address_mem_withRow values rows)
      · exact inductionHypothesis later (withRow address first rows)

/-- Nothing has a child but what was asked for. -/
theorem mem_or_mem_of_mem_withRows
    {lists rows : List (List String)}
    {values : List String}
    (member : values ∈ withRows address lists rows) :
    values ∈ lists ∨ values ∈ rows := by
  induction lists generalizing rows with
  | nil =>
      exact .inr member
  | cons first rest inductionHypothesis =>
      rcases inductionHypothesis member with later | now
      · exact .inl (List.mem_cons_of_mem _ later)
      · rcases eq_or_mem_of_mem_withRow now with rfl | before
        · exact .inl List.mem_cons_self
        · exact .inr before

end Children

end Vector

namespace Depot

/-! ## The vector of a reserved name -/

/--
The first exporter takes a definition as long as nobody has offered anything under
its name, at every time so far.
-/
def Welcomes (definition : Definition) (depot : Depot) : Prop :=
  ∀ earlier,
    earlier <+: (depot.exporter 0).offered →
    (∀ descriptors ∈ earlier,
      ∀ descriptor ∈ descriptors, descriptor.definition.name ≠ definition.name) →
    depot.library.admits earlier [⟨definition, []⟩] = true

instance (definition : Definition) (depot : Depot) :
    Decidable (depot.Welcomes definition) :=
  decidable_of_iff
    (∀ earlier ∈ (depot.exporter 0).offered.inits,
      (∀ descriptors ∈ earlier,
        ∀ descriptor ∈ descriptors, descriptor.definition.name ≠ definition.name) →
      depot.library.admits earlier [⟨definition, []⟩] = true)
    ⟨fun welcomes earlier isEarlier =>
        welcomes earlier (List.mem_inits _ _ |>.mpr isEarlier),
      fun welcomes earlier isEarlier =>
        welcomes earlier (List.mem_inits _ _ |>.mp isEarlier)⟩

theorem Welcomes.of_grows
    {definition : Definition}
    {before ended : Depot}
    (welcomes : ended.Welcomes definition)
    (grows : before.Grows ended) :
    before.Welcomes definition := by
  intro earlier isEarlier free
  rw [← grows.library]
  exact welcomes earlier (isEarlier.trans grows.offered) free

/-- What nobody has offered under its name yet is taken. -/
theorem Welcomes.admits
    {definition : Definition}
    {depot : Depot}
    (welcomes : depot.Welcomes definition)
    (unoffered : depot.offers definition.name = false) :
    depot.admits 0 [⟨definition, []⟩] = true := by
  refine welcomes _ List.prefix_rfl fun descriptors member descriptor isOne => ?_
  rw [offers, List.any_eq_false] at unoffered
  have others := unoffered descriptors member
  rw [Bool.not_eq_true, List.any_eq_false] at others
  simpa using others descriptor isOne

/--
The depot holds a vector for its name.  As long as nobody has registered the
name the depot holds a vector without children for it.
-/
structure Holds (vector : Vector) (depot : Depot) : Prop where
  /-- What is taken under the name is what is bound to it. -/
  taken :
    depot.Welcomes vector.definition →
    (depot.exporter 0).taken.filter (depot.goesBy vector.definition.name) =
      ((depot.numberOf? vector.definition.name).map Collected.vector).toList
  unoffered :
    depot.numberOf? vector.definition.name = none →
    depot.offers vector.definition.name = false
  unbound :
    depot.numberOf? vector.definition.name = none →
    vector.children = []
  bound :
    ∀ number,
      depot.numberOf? vector.definition.name = some number →
      depot.vectors[number]? = some vector

theorem Holds.of_leaves
    {vector : Vector}
    {before ended : Depot}
    (holds : before.Holds vector)
    (grows : before.Grows ended)
    (leaves : before.Leaves vector.definition.name ended) :
    ended.Holds vector where
  taken := by
    intro welcomes
    rw [leaves.taken, leaves.number, holds.taken (welcomes.of_grows grows)]
  unoffered := by
    rw [leaves.number, leaves.offers]
    exact holds.unoffered
  unbound := by
    rw [leaves.number]
    exact holds.unbound
  bound := by
    intro number found
    rw [leaves.number] at found
    rw [leaves.vector number found]
    exact holds.bound number found

section Enrolling

variable
  {vector : Vector}
  {depot : Depot}
  (holds : depot.Holds vector)
  (sound : depot.Sound)
  (valid : depot.library.fault? vector.kind vector.definition = none)

include holds sound valid

/-- A name that was not bound is bound to a new vector, which the depot holds. -/
theorem Holds.enroll
    (unbound : depot.numberOf? vector.definition.name = none) :
    let registered := depot.enroll 0 vector.kind vector.definition
    registered.depot.Holds vector ∧
      registered.depot.numberOf? vector.definition.name =
        some registered.vector := by
  intro registered
  let ended := registered.depot
  have isEmpty : Vector.empty vector.kind vector.definition = vector := by
    rw [Vector.empty, ← holds.unbound unbound]
  have grows : depot.Grows ended :=
    (sound.register (register_of_valid unbound valid)).1
  have bound : ended.numberOf? vector.definition.name = some registered.vector := by
    have isBound :=
      boundNumber?_enroll sound.catalogue 0 vector.kind vector.definition
        vector.definition.name
    have still : depot.boundNumber? 0 vector.definition.name = none := unbound
    rw [still, Option.none_or, if_pos ⟨rfl, rfl⟩] at isBound
    exact isBound
  refine ⟨⟨?_, ?_, ?_, ?_⟩, bound⟩
  · intro welcomes
    have welcomed := welcomes.of_grows grows
    have nobody :
        (depot.exporter 0).taken.filter
          (depot.goesBy vector.definition.name) = [] := by
      rw [holds.taken welcomed, unbound]
      rfl
    have own :
        ended.goesBy vector.definition.name (.vector registered.vector) = true := by
      have names : ended.names = depot.names ++ [vector.definition.name] :=
        names_addVector (depot.catalogue 0).exporter
          (.empty vector.kind vector.definition) depot
      have number : registered.vector = depot.names.length :=
        (List.length_map _).symm
      rw [goesBy, names, number, List.getElem?_concat_length]
      exact decide_eq_true rfl
    have same (other : Collected) (member : other ∈ (depot.exporter 0).taken) :
        ended.goesBy vector.definition.name other =
          depot.goesBy vector.definition.name other :=
      goesBy_of_prefix grows.names (sound.isThere member) _
    have taken :
        (ended.exporter 0).taken =
          (depot.exporter 0).taken ++ [.vector registered.vector] := by
      have admits := welcomed.admits (holds.unoffered unbound)
      have offered := exporter_enroll 0 0 vector.kind vector.definition depot
      rw [if_pos ⟨sound.first, sound.exporter⟩, sound.first, admits, if_pos rfl]
        at offered
      exact congrArg Exporter.taken offered
    rw [taken, List.filter_append, List.filter_congr same, nobody, bound]
    simpa using own
  · intro isUnbound
    rw [bound] at isUnbound
    cases isUnbound
  · intro isUnbound
    rw [bound] at isUnbound
    cases isUnbound
  · intro number isBound
    cases bound.symm.trans isBound
    have added :
        ended.vectors =
          depot.vectors ++ [.empty vector.kind vector.definition] :=
      rfl
    rw [added, isEmpty]
    exact List.getElem?_concat_length

/-- Registering the name gives its vector, which is made the first time. -/
theorem Holds.register :
    ∃ registered,
      depot.register 0 vector.kind vector.definition = .ok registered ∧
        registered.depot.Holds vector ∧
        registered.depot.numberOf? vector.definition.name =
          some registered.vector := by
  cases found : depot.numberOf? vector.definition.name with
  | some number =>
      have isThere := holds.bound number found
      refine ⟨⟨depot, number, false⟩, ?_, holds, found⟩
      rw [numberOf?] at found
      simp [Depot.register, found, isThere]
  | none =>
      obtain ⟨holdsNew, bound⟩ := holds.enroll sound valid found
      exact ⟨_, register_of_valid found valid, holdsNew, bound⟩

end Enrolling

/-- The vector of the name may be changed in its place. -/
theorem Holds.of_refills
    {vector changed : Vector}
    {before ended : Depot}
    (holds : before.Holds vector)
    (refills : before.Refills ended)
    {number : Nat}
    (bound : before.numberOf? vector.definition.name = some number)
    (definition : changed.definition = vector.definition)
    (isThere : ended.vectors[number]? = some changed) :
    ended.Holds changed where
  taken := by
    rw [definition, refills.exporter, refills.goesBy, refills.number]
    intro welcomes
    refine holds.taken fun earlier isEarlier => ?_
    rw [← refills.library]
    refine welcomes earlier ?_
    rw [refills.exporter]
    exact isEarlier
  unoffered := by
    rw [definition, refills.number, refills.offers]
    exact holds.unoffered
  unbound := by
    rw [definition, refills.number, bound]
    exact fun absent => nomatch absent
  bound := by
    rw [definition, refills.number, bound]
    rintro _ ⟨⟩
    exact isThere

section Rows

variable
  {address : List String → Nat}
  {kind : Kind}
  {definition : Definition}
  {rows : List (List String)}
  {word : List String → UInt64}
  {depot : Depot}
  (holds : depot.Holds ⟨kind, definition, Vector.childrenOf address rows word⟩)
  {number : Nat}
  (bound : depot.numberOf? definition.name = some number)

include holds bound

/-- Values that are asked for have a row, which starts at zero. -/
theorem Holds.child?
    (places : depot.library.address definition = address)
    {values : List String}
    (fits : values.length = definition.labels.length)
    (unused : address values ∉ rows.map address → word values = 0) :
    ∃ later,
      depot.child? number values = some (address values, later) ∧
        later.Holds
          ⟨kind, definition,
            Vector.childrenOf address (Vector.withRow address values rows)
              word⟩ := by
  have isThere := holds.bound number bound
  have inside := (List.getElem?_eq_some_iff.mp isThere).1
  let changed : Vector :=
    ⟨kind, definition,
      Vector.childrenOf address (Vector.withRow address values rows) word⟩
  have asked :
      (Vector.mk kind definition (Vector.childrenOf address rows word)).child?
          depot.library values =
        some (address values, changed) :=
    Vector.child?_childrenOf places fits unused
  have made :
      depot.child? number values =
        some (address values,
          { depot with vectors := depot.vectors.set number changed }) := by
    simp only [Depot.child?, isThere, Option.bind_eq_bind, Option.bind_some,
      asked]
    rfl
  exact ⟨_, made,
    holds.of_refills (refills_child? made) bound rfl
      (List.getElem?_set_self inside)⟩

/-- A change at an address reaches the rows that have it. -/
theorem Holds.update (key : Nat) (change : Change) :
    (depot.update number key change).Holds
      ⟨kind, definition,
        Vector.childrenOf address rows fun values =>
          if address values = key then
            change.apply (word values)
          else
            word values⟩ := by
  have isThere := holds.bound number bound
  rw [← Vector.update_childrenOf]
  refine holds.of_refills (refills_update number key change depot) bound rfl ?_
  simp [Depot.update, isThere]

end Rows

/-! ## Rows that are published -/

/-- The labels of the row with some values. -/
def labelsOf
    (definition : Definition)
    (values : List String) :
    List (String × String) :=
  (definition.labels.zip values).mergeSort fun left right => left.1 ≤ right.1

/-- What a word says as a metric of some kind. -/
def readingOf (kind : Kind) (word : UInt64) : Int :=
  match kind with
  | .counter => word.toNat
  | .gauge => word.toInt64.toInt

theorem ofChild_eq (vector : Vector) (child : Child) :
    Row.ofChild vector child =
      ⟨labelsOf vector.definition child.values,
        .ofInt (readingOf vector.kind child.word)⟩ := by
  cases shape : vector.kind <;>
    simp [Row.ofChild, labelsOf, Vector.reading, readingOf, shape]

end Depot

/-- The rows of the families with a name. -/
def Family.rowsUnder (name : String) (families : List Family) : List Row :=
  (families.filter fun family => family.name = name).flatMap Family.rows

/-- What is shown under a name are the rows that were collected under it. -/
structure Library.Shows (library : Library) : Prop where
  rows :
    ∀ families name,
      (Family.rowsUnder name (library.gather families)).Perm
        (Family.rowsUnder name families)

namespace Depot

/-- The rows that an exporter shows under a name, with some labels. -/
def rows
    (exporter : Nat)
    (name : String)
    (labels : List (String × String))
    (depot : Depot) :
    List Row :=
  (Family.rowsUnder name (depot.gather exporter)).filter fun row =>
    row.labels = labels

/-- Nothing is collected under a name but from what goes by it. -/
theorem rowsUnder_collected (name : String) (depot : Depot) :
    Family.rowsUnder name (depot.collected 0) =
      Family.rowsUnder name
        (((depot.exporter 0).taken.filter (depot.goesBy name)).flatMap
          depot.collect) := by
  rw [collected]
  induction (depot.exporter 0).taken with
  | nil =>
      rfl
  | cons first rest inductionHypothesis =>
      rw [List.flatMap_cons, List.filter_cons]
      split
      · rw [List.flatMap_cons, Family.rowsUnder, List.filter_append,
          List.flatMap_append, Family.rowsUnder, List.filter_append,
          List.flatMap_append]
        exact congrArg (_ ++ ·) inductionHypothesis
      · next foreign =>
          have nothing :
              (depot.collect first).filter (fun family => family.name = name) = [] := by
            refine List.filter_eq_nil_iff.mpr fun family member => ?_
            rintro named
            refine foreign ?_
            cases first with
            | vector number =>
                rw [collect, List.mem_map] at member
                obtain ⟨vector, isThere, rfl⟩ := member
                rw [goesBy, names, List.getElem?_map, Option.mem_toList.mp isThere]
                exact named
            | foreign families =>
                exact List.any_eq_true.mpr ⟨family, member, named⟩
          rw [Family.rowsUnder, List.filter_append, nothing, List.nil_append]
          exact inductionHypothesis

/-- A row is shown once, whatever else there is. -/
theorem Holds.rows
    {address : List String → Nat}
    {kind : Kind}
    {definition : Definition}
    {lists : List (List String)}
    {word : List String → UInt64}
    {depot : Depot}
    (holds : depot.Holds ⟨kind, definition, Vector.childrenOf address lists word⟩)
    (shows : depot.library.Shows)
    (welcomes : depot.Welcomes definition)
    (distinct : lists.Nodup)
    {values : List String}
    (member : values ∈ lists)
    (told :
      ∀ other ∈ lists,
        labelsOf definition other = labelsOf definition values →
        other = values) :
    depot.rows 0 definition.name (labelsOf definition values) =
      [⟨labelsOf definition values, .ofInt (readingOf kind (word values))⟩] := by
  let vector : Vector := ⟨kind, definition, Vector.childrenOf address lists word⟩
  obtain ⟨number, bound⟩ : ∃ number, depot.numberOf? definition.name = some number := by
    cases found : depot.numberOf? definition.name with
    | some number =>
        exact ⟨number, rfl⟩
    | none =>
        have nothing := List.map_eq_nil_iff.mp (holds.unbound found)
        rw [nothing] at member
        cases member
  have collected :
      Family.rowsUnder definition.name (depot.collected 0) =
        (Family.ofVector vector).rows := by
    have taken := holds.taken welcomes
    have isThere := holds.bound number bound
    rw [bound] at taken
    rw [rowsUnder_collected, taken]
    simp [collect, isThere, Family.rowsUnder, Family.ofVector, vector]
  have only :
      lists.filter (fun other =>
        labelsOf definition other = labelsOf definition values) = [values] := by
    have test (other : List String) (isThere : other ∈ lists) :
        decide (labelsOf definition other = labelsOf definition values) =
          decide (other = values) :=
      decide_eq_decide.mpr ⟨told other isThere, fun same => by rw [same]⟩
    rw [List.filter_congr test, List.filter_eq,
      List.count_eq_one_of_mem distinct member]
    rfl
  refine List.perm_singleton.mp ?_
  refine ((shows.rows (depot.collected 0) definition.name).filter _).trans
    (List.Perm.of_eq ?_)
  rw [collected]
  simp only [Family.ofVector, vector, Vector.childrenOf, List.map_map,
    Function.comp_def, ofChild_eq, List.filter_map, only]
  rfl

end Depot

end NavState.Metric
