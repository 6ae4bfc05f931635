import NavState.Proofs.Depots
import NavState.Proofs.Reserved

namespace NavState.Metric

/-!
# Readings of a depot

What a metric reads is a number: a natural one for a counter and a signed one for
a gauge, and both wrap around.  Whoever asks a vector for the same address is
given the same metric, so a metric reads what all changes of it add up to, in
whatever order they come and whoever makes them.

An exporter shows the readings of the vectors that it publishes, as far as floating
point holds them, and nothing of the others.
-/

/-! ## Numbers that wrap around -/

/-- The number after a change, if numbers had no bounds. -/
def Change.exact (reading : Int) : Change → Int
  | increase amount => reading + amount.toNat
  | decrease amount => reading - amount.toNat
  | absolute amount => amount.toNat

/-- A number within the bounds of a kind. -/
def Kind.wrap (kind : Kind) (reading : Int) : Int :=
  match kind with
  | .counter => reading % (UInt64.size : Int)
  | .gauge => Int.bmod reading UInt64.size

/-- What a metric of a kind reads after a change. -/
def Kind.move (kind : Kind) (reading : Int) (change : Change) : Int :=
  kind.wrap (change.exact reading)

/-- What a metric of a kind reads after some changes. -/
def Kind.moved
    (kind : Kind)
    (reading : Int)
    (changes : List Change) :
    Int :=
  changes.foldl kind.move reading

/-- What some amounts add up to. -/
def total (amounts : List UInt64) : Nat :=
  amounts.foldl (fun sum amount => sum + amount.toNat) 0

theorem toInt_toInt64 (word : UInt64) :
    word.toInt64.toInt = Int.bmod word.toNat UInt64.size :=
  BitVec.toInt_eq_toNat_bmod word.toBitVec

/-- A word read as a number of its kind is the number it holds, wrapped around. -/
theorem readingOf_eq (kind : Kind) (word : UInt64) :
    Depot.readingOf kind word = kind.wrap word.toNat := by
  cases kind with
  | counter =>
      exact (Int.emod_eq_of_lt (Int.natCast_nonneg _)
        (Int.ofNat_lt.mpr word.toNat_lt_size)).symm
  | gauge =>
      exact toInt_toInt64 word

theorem wrap_emod (kind : Kind) (reading : Int) :
    kind.wrap (reading % (UInt64.size : Int)) = kind.wrap reading := by
  cases kind with
  | counter =>
      exact Int.emod_emod reading _
  | gauge =>
      exact Int.emod_bmod reading _

theorem wrap_wrap (kind : Kind) (reading : Int) :
    kind.wrap (kind.wrap reading) = kind.wrap reading := by
  cases kind with
  | counter =>
      exact Int.emod_emod reading _
  | gauge =>
      exact Int.bmod_bmod

/-- Wrapping around before a change makes no difference. -/
theorem wrap_exact_wrap (kind : Kind) (change : Change) (reading : Int) :
    kind.wrap (change.exact (kind.wrap reading)) =
      kind.wrap (change.exact reading) := by
  cases kind <;> cases change <;> simp [Kind.wrap, Change.exact]

/-- The number in a word after a change, wrapped around. -/
theorem wrap_apply (kind : Kind) (word : UInt64) (change : Change) :
    kind.wrap (change.apply word).toNat = kind.wrap (change.exact word.toNat) := by
  cases change with
  | increase amount =>
      have sum :
          ((word + amount).toNat : Int) =
            (word.toNat + amount.toNat : Int) % (UInt64.size : Int) := by
        rw [UInt64.toNat_add]
        rfl
      rw [Change.apply, sum, wrap_emod, Change.exact]
  | decrease amount =>
      have difference :
          ((word - amount).toNat : Int) =
            (word.toNat - amount.toNat : Int) % (UInt64.size : Int) := by
        have below : amount.toNat < UInt64.size := amount.toNat_lt_size
        rw [UInt64.toNat_sub]
        simp only [UInt64.size] at below ⊢
        omega
      rw [Change.apply, difference, wrap_emod, Change.exact]
  | absolute amount =>
      rfl

/-- A change of a word moves what is read. -/
theorem readingOf_apply (kind : Kind) (word : UInt64) (change : Change) :
    Depot.readingOf kind (change.apply word) =
      kind.move (Depot.readingOf kind word) change := by
  rw [readingOf_eq, readingOf_eq, wrap_apply, Kind.move, wrap_exact_wrap]

theorem readingOf_foldl (kind : Kind) (word : UInt64) (changes : List Change) :
    Depot.readingOf kind
        (changes.foldl (fun word change => change.apply word) word) =
      kind.moved (Depot.readingOf kind word) changes := by
  induction changes generalizing word with
  | nil =>
      rfl
  | cons change rest inductionHypothesis =>
      rw [List.foldl_cons, inductionHypothesis, readingOf_apply]
      rfl

theorem wrap_readingOf (kind : Kind) (word : UInt64) :
    kind.wrap (Depot.readingOf kind word) = Depot.readingOf kind word := by
  rw [readingOf_eq, wrap_wrap]

/-- It makes no difference whether numbers wrap around all the time or in the end. -/
theorem wrap_moved (kind : Kind) (reading : Int) (changes : List Change) :
    kind.wrap (kind.moved reading changes) =
      kind.wrap (changes.foldl Change.exact reading) := by
  induction changes using List.reverseRecOn with
  | nil =>
      rfl
  | append_singleton earlier change inductionHypothesis =>
      calc kind.wrap (kind.moved reading (earlier ++ [change]))
          = kind.wrap (kind.move (kind.moved reading earlier) change) := by
            rw [Kind.moved, List.foldl_append]
            rfl
        _ = kind.wrap (change.exact (kind.moved reading earlier)) := by
            rw [Kind.move, wrap_wrap]
        _ = kind.wrap (change.exact (earlier.foldl Change.exact reading)) := by
            rw [← wrap_exact_wrap, inductionHypothesis, wrap_exact_wrap]
        _ = kind.wrap ((earlier ++ [change]).foldl Change.exact reading) := by
            rw [List.foldl_append]
            rfl

/-- What only grows comes to the sum. -/
theorem foldl_increase (reading : Int) (amounts : List UInt64) :
    (amounts.map Change.increase).foldl Change.exact reading =
      reading + total amounts := by
  induction amounts using List.reverseRecOn with
  | nil =>
      rw [List.map_nil, List.foldl_nil, total, List.foldl_nil,
        Int.natCast_zero, Int.add_zero]
  | append_singleton earlier amount inductionHypothesis =>
      rw [List.map_append, List.foldl_append, inductionHypothesis, total, total,
        List.foldl_append]
      exact (Int.add_assoc _ _ _).trans (by rfl)

namespace Vector

/-- What the metric at an address reads, if there is such a metric. -/
def reading? (address : Nat) (vector : Vector) : Option Int :=
  (Assoc.find? address vector.children).map vector.reading

/-- The right number of values is given the metric at their address. -/
theorem child?_of_fits
    (library : Library)
    {vector : Vector}
    {values : List String}
    (fits : values.length = vector.definition.labels.length) :
    let address := library.address vector.definition values
    ∃ changed,
      vector.child? library values = some (address, changed) ∧
        changed.reading? address = some ((vector.reading? address).getD 0) := by
  intro address
  rw [child?, if_pos fits]
  cases found : Assoc.find? address vector.children with
  | some child =>
      refine ⟨vector, if_pos ?_, ?_⟩
      · rw [Assoc.contains, found]
        rfl
      · rw [reading?, found]
        rfl
  | none =>
      refine ⟨_, if_neg ?_, ?_⟩
      · rw [Assoc.contains, found]
        exact Bool.false_ne_true
      · rw [reading?, reading?, Assoc.find?_append, found]
        have zero : vector.reading ⟨values, 0⟩ = 0 := by
          rw [reading]
          cases vector.kind <;> rfl
        rw [Assoc.find?, if_pos rfl]
        exact congrArg some zero

end Vector

namespace Depot

/-! ## Metrics -/

/-- What a metric reads, if there is such a metric. -/
def reading? (number address : Nat) (depot : Depot) : Option Int :=
  depot.vectors[number]?.bind (Vector.reading? address)

section Metrics

variable
  {depot : Depot}
  {number : Nat}
  {form : Form}
  (isThere : depot.forms[number]? = some form)

include isThere

theorem vector_of_form :
    ∃ vector, depot.vectors[number]? = some vector ∧ vector.form = form := by
  rw [forms, List.getElem?_map] at isThere
  exact Option.map_eq_some_iff.mp isThere

/-- A metric reads its word as a number of the kind of its vector. -/
theorem reading?_eq (address : Nat) :
    depot.reading? number address =
      (depot.word? number address).map (readingOf form.1) := by
  obtain ⟨vector, found, rfl⟩ := vector_of_form isThere
  simp only [reading?, word?, found, Option.bind_some, Vector.reading?,
    Option.map_map]
  refine congrArg (Option.map · _) (funext fun child => ?_)
  rw [Vector.reading, Vector.form]
  cases vector.kind <;> rfl

theorem wrap_reading?
    {address : Nat}
    {reading : Int}
    (reads : depot.reading? number address = some reading) :
    form.1.wrap reading = reading := by
  rw [reading?_eq isThere] at reads
  obtain ⟨word, _, rfl⟩ := Option.map_eq_some_iff.mp reads
  exact wrap_readingOf form.1 word

/-- A metric reads what its changes make of what it read before. -/
theorem reading?_after
    {address : Nat}
    {reading : Int}
    (before : depot.reading? number address = some reading)
    (actions : List Action) :
    (depot.after actions).reading? number address =
      some (form.1.moved reading (Action.changesAt number address actions)) := by
  rw [reading?_eq isThere] at before
  obtain ⟨word, found, rfl⟩ := Option.map_eq_some_iff.mp before
  rw [reading?_eq (form_after isThere actions), word?_after found, Option.map_some,
    readingOf_foldl]

/-- A metric that only grows reads the sum of what it grew by. -/
theorem reading?_after_of_grows
    {address : Nat}
    {reading : Int}
    (before : depot.reading? number address = some reading)
    {amounts : List UInt64}
    {actions : List Action}
    (grows :
      Action.changesAt number address actions = amounts.map Change.increase) :
    (depot.after actions).reading? number address =
      some (form.1.wrap (reading + total amounts)) := by
  have reads := reading?_after isThere before actions
  have settled := wrap_reading? (form_after isThere actions) reads
  rw [reads, ← settled, wrap_moved, grows, foldl_increase]

/-- The right number of values is given the metric at their address. -/
theorem child?_of_fits
    {values : List String}
    (fits : values.length = form.2.labels.length) :
    let address := depot.library.address form.2 values
    ∃ later,
      depot.child? number values = some (address, later) ∧
        later.reading? number address =
          some ((depot.reading? number address).getD 0) := by
  intro address
  obtain ⟨vector, found, rfl⟩ := vector_of_form isThere
  obtain ⟨changed, asked, reads⟩ := Vector.child?_of_fits depot.library fits
  have inside : number < depot.vectors.length :=
    (List.getElem?_eq_some_iff.mp found).1
  refine ⟨{ depot with vectors := depot.vectors.set number changed }, ?_, ?_⟩
  · rw [child?, found]
    simp only [Option.bind_eq_bind, Option.bind_some, asked, Option.pure_def]
    rfl
  · rw [reading?, reading?, List.getElem?_set_self inside, found]
    exact reads

/-- Any other number of values is given none. -/
theorem child?_of_not_fits
    {values : List String}
    (unfit : values.length ≠ form.2.labels.length) :
    depot.child? number values = none := by
  obtain ⟨vector, found, rfl⟩ := vector_of_form isThere
  have asked : vector.child? depot.library values = none := if_neg unfit
  rw [child?, found]
  simp only [Option.bind_eq_bind, Option.bind_some, asked, Option.bind_none]

end Metrics

/-! ## Exporters -/

/-- An exporter shows every metric of the vectors that it publishes. -/
theorem exists_row_of_publishes
    {depot : Depot}
    (shows : depot.library.Shows)
    {exporter number : Nat}
    (published : depot.Publishes exporter number)
    {form : Form}
    (isThere : depot.forms[number]? = some form)
    {address : Nat}
    {reading : Int}
    (reads : depot.reading? number address = some reading) :
    ∃ family ∈ depot.gather exporter,
      family.name = form.2.name ∧
        ∃ row ∈ family.rows, row.reading = .ofInt reading := by
  obtain ⟨vector, found, rfl⟩ := vector_of_form isThere
  rw [reading?, found, Option.bind_some, Vector.reading?] at reads
  obtain ⟨child, isChild, rfl⟩ := Option.map_eq_some_iff.mp reads
  have member : (address, child) ∈ vector.children := Assoc.mem_of_find? isChild
  have isCollected : Family.ofVector vector ∈ depot.collected exporter := by
    refine List.mem_flatMap.mpr ⟨_, published, ?_⟩
    rw [collect, found]
    exact List.mem_singleton.mpr rfl
  have isRow :
      Row.ofChild vector child ∈
        Family.rowsUnder vector.definition.name (depot.collected exporter) := by
    refine List.mem_flatMap.mpr
      ⟨Family.ofVector vector, List.mem_filter.mpr ⟨isCollected, ?_⟩, ?_⟩
    · exact decide_eq_true rfl
    · exact List.mem_map.mpr ⟨(address, child), member, rfl⟩
  obtain ⟨family, isNamed, inFamily⟩ :=
    List.mem_flatMap.mp
      ((shows.rows (depot.collected exporter) vector.definition.name).mem_iff.mpr isRow)
  obtain ⟨isShown, named⟩ := List.mem_filter.mp isNamed
  exact ⟨family, isShown, of_decide_eq_true named, _, inFamily, rfl⟩

/-- Nothing of a vector shows that an exporter does not publish. -/
theorem gather_of_not_publishes
    {before ended : Depot}
    {exporter number : Nat}
    (hidden : ¬before.Publishes exporter number)
    (library : ended.library = before.library)
    (exporters : ended.exporters = before.exporters)
    (others :
      ∀ other ≠ number, ended.vectors[other]? = before.vectors[other]?) :
    ended.gather exporter = before.gather exporter := by
  have same : ended.exporter exporter = before.exporter exporter := by
    rw [Depot.exporter, exporters, Depot.exporter]
  have collects
      (collected : Collected)
      (member : collected ∈ (before.exporter exporter).taken) :
      ended.collect collected = before.collect collected := by
    cases collected with
    | vector other =>
        have different : other ≠ number := by
          rintro rfl
          exact hidden member
        rw [collect, others other different, collect]
    | foreign families =>
        rfl
  rw [gather, library, collected, same, List.flatMap_congr collects]
  rfl

end Depot

end NavState.Metric
