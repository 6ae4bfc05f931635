import Mathlib.Logic.Function.Basic
import NavState.Proofs.Reserved
import NavState.Proofs.Rows

namespace NavState.Session

/-!
# Vectors that caches share

All caches of a registry share two vectors: one counts their operations, and one
has the numbers of pages they retain.  A cache asks for rows under its name, and
a row is there for every cache with that name.  Whatever is filed, the words of
both vectors are those of all filings so far, in their order.

This is so over any library of metrics that finds nothing wrong with the
definitions of the two vectors.
-/

open NavState.Metric (Library)

/-- A report of a cache, with the name of the cache. -/
abbrev Filing := String × Report PageId

/-- One of the vectors that all caches share. -/
inductive Shared where
  | operations
  | retained
  deriving Repr, DecidableEq

namespace Shared

/-- The kind of a shared vector. -/
def kind : Shared → Metric.Kind
  | operations => .counter
  | retained => .gauge

/-- The definition of a shared vector. -/
def definition : Shared → Metric.Definition
  | operations => Meters.operations
  | retained => Meters.retained

/-- The rows that a cache with some name asks for. -/
def rows (name : String) : Shared → List (List String)
  | operations => Tally.all.map fun tally => [name, tally.label]
  | retained => [[name]]

/-- The row that a report changes, and how it changes it. -/
def change? (filing : Filing) : Shared → Option (List String × Metric.Change)
  | operations =>
      match filing.2 with
      | .count tally => some ([filing.1, tally.label], .increase 1)
      | _ => none
  | retained =>
      match filing.2 with
      | .size pages => some ([filing.1], .absolute (UInt64.ofNat pages))
      | _ => none

/-- The place of the metric for some label values in a shared vector. -/
def address (library : Library) (shared : Shared) : List String → Nat :=
  library.address shared.definition

/-- The library finds nothing wrong with the definitions of the shared vectors. -/
def Valid (library : Library) : Prop :=
  ∀ shared : Shared, library.fault? shared.kind shared.definition = none

/-- The vectors have different names. -/
theorem apart
    {shared other : Shared}
    (different : other ≠ shared) :
    other.definition.name ≠ shared.definition.name := by
  cases shared <;> cases other <;> first
    | exact absurd rfl different
    | decide

/-- What is filed for a cache changes a row of the cache. -/
theorem mem_rows_of_change?
    {shared : Shared}
    {filing : Filing}
    {row : List String}
    {change : Metric.Change}
    (enters : shared.change? filing = some (row, change)) :
    row ∈ shared.rows filing.1 := by
  obtain ⟨name, report⟩ := filing
  cases shared <;> cases report <;> cases enters
  · next tally => exact List.mem_map_of_mem (Tally.mem_all tally)
  · exact List.mem_singleton.mpr rfl

/-- A filing is entered in one vector at most. -/
theorem change?_of_ne
    {shared other : Shared}
    (different : other ≠ shared)
    {filing : Filing}
    {entry : List String × Metric.Change}
    (enters : shared.change? filing = some entry) :
    other.change? filing = none := by
  obtain ⟨name, report⟩ := filing
  cases shared <;> cases other <;> first
    | exact absurd rfl different
    | cases report <;> first
        | rfl
        | cases enters

/-! ## Words -/

/-- The word of a row after one more filing. -/
def enter
    (library : Library)
    (shared : Shared)
    (values : List String)
    (word : UInt64)
    (filing : Filing) :
    UInt64 :=
  match shared.change? filing with
  | some (row, change) =>
      if shared.address library values = shared.address library row then
        change.apply word
      else
        word
  | none => word

/-- The word of a row once some filings were made. -/
def word
    (library : Library)
    (shared : Shared)
    (filed : List Filing)
    (values : List String) :
    UInt64 :=
  filed.foldl (shared.enter library values) 0

theorem word_append_singleton
    (library : Library)
    (shared : Shared)
    (filed : List Filing)
    (filing : Filing)
    (values : List String) :
    shared.word library (filed ++ [filing]) values =
      shared.enter library values (shared.word library filed values) filing := by
  simp [word]

/-- Rows with the same address have the same word. -/
theorem word_eq_of_address_eq
    {library : Library}
    {shared : Shared}
    {values other : List String}
    (same : shared.address library values = shared.address library other)
    (filed : List Filing) :
    shared.word library filed values = shared.word library filed other := by
  have enters : shared.enter library values = shared.enter library other := by
    funext word filing
    rw [enter, enter, same]
  rw [word, word, enters]

/-- A row to which nothing was filed reads zero. -/
theorem word_eq_zero
    {library : Library}
    {shared : Shared}
    {filed : List Filing}
    {values : List String}
    (unused :
      ∀ filing ∈ filed,
        ∀ row ∈ shared.rows filing.1,
          shared.address library values ≠ shared.address library row) :
    shared.word library filed values = 0 := by
  induction filed using List.reverseRecOn with
  | nil =>
      rfl
  | append_singleton earlier filing inductionHypothesis =>
      have before : shared.word library earlier values = 0 :=
        inductionHypothesis fun other member =>
          unused other (List.mem_append_left _ member)
      rw [word_append_singleton, before, enter]
      split
      · next row change enters =>
          have elsewhere :=
            unused filing (List.mem_append_right _ (List.mem_singleton.mpr rfl))
              row (mem_rows_of_change? enters)
          rw [if_neg elsewhere]
      · rfl

/-- A shared vector with some rows, once some filings were made. -/
def vector
    (library : Library)
    (shared : Shared)
    (rows : List (List String))
    (filed : List Filing) :
    Metric.Vector where
  kind := shared.kind
  definition := shared.definition
  children := Metric.Vector.childrenOf (shared.address library) rows
    (shared.word library filed)

end Shared

/-! ## Depots with the shared vectors -/

/-- A depot holds the shared vectors, with some rows and some filings. -/
structure Stocks
    (library : Library)
    (rows : Shared → List (List String))
    (filed : List Filing)
    (depot : Metric.Depot) :
    Prop where
  sound : depot.Sound
  uses : depot.library = library
  holds : ∀ shared : Shared, depot.Holds (shared.vector library (rows shared) filed)
  /-- Whoever filed something has its rows. -/
  covers :
    ∀ shared : Shared,
      ∀ filing ∈ filed,
        ∀ row ∈ shared.rows filing.1,
          shared.address library row ∈ (rows shared).map (shared.address library)

namespace Stocks

variable
  {library : Library}
  {rows : Shared → List (List String)}
  {filed : List Filing}
  {depot later : Metric.Depot}

/-- Whoever leaves the names of the shared vectors alone leaves the vectors. -/
theorem of_leaves
    (stocks : Stocks library rows filed depot)
    (grows : depot.Grows later)
    (leaves : ∀ shared : Shared, depot.Leaves shared.definition.name later) :
    Stocks library rows filed later where
  sound := grows.sound
  uses := grows.library.trans stocks.uses
  holds := fun shared => (stocks.holds shared).of_leaves grows (leaves shared)
  covers := stocks.covers

/-- The number of one shared vector is not the number of the other. -/
theorem not_goesBy
    (stocks : Stocks library rows filed depot)
    {shared other : Shared}
    (different : other ≠ shared)
    {number : Nat}
    (bound : depot.numberOf? shared.definition.name = some number) :
    depot.goesBy other.definition.name (.vector number) = false := by
  rw [Metric.Depot.goesBy, stocks.sound.bound 0 _ number bound]
  simpa using Shared.apart different.symm

/-- A cache finds a shared vector, or makes it. -/
theorem register
    (stocks : Stocks library rows filed depot)
    (valid : Shared.Valid library)
    (shared : Shared) :
    ∃ registered,
      depot.register 0 shared.kind shared.definition = .ok registered ∧
        Stocks library rows filed registered.depot ∧
        depot.Grows registered.depot ∧
        registered.depot.numberOf? shared.definition.name =
          some registered.vector := by
  have isValid : depot.library.fault? shared.kind shared.definition = none := by
    rw [stocks.uses]
    exact valid shared
  obtain ⟨registered, succeeds, holds, bound⟩ :=
    (stocks.holds shared).register stocks.sound isValid
  have grows := (stocks.sound.register succeeds).1
  refine ⟨registered, succeeds,
    ⟨grows.sound, grows.library.trans stocks.uses, fun other => ?_,
      stocks.covers⟩, grows, bound⟩
  by_cases same : other = shared
  · subst same
    exact holds
  · exact (stocks.holds other).of_leaves grows
      (stocks.sound.leaves_register (Shared.apart (Ne.symm same)) succeeds)

/-- A cache finds a row of its own, or makes it. -/
theorem child?
    (stocks : Stocks library rows filed depot)
    {shared : Shared}
    {number : Nat}
    (bound : depot.numberOf? shared.definition.name = some number)
    {values : List String}
    (fits : values.length = shared.definition.labels.length) :
    ∃ later,
      depot.child? number values = some (shared.address library values, later) ∧
        Stocks library
          (Function.update rows shared
            (Metric.Vector.withRow (shared.address library) values (rows shared)))
          filed later ∧
        depot.Grows later := by
  have unused
      (isNew :
        shared.address library values ∉
          (rows shared).map (shared.address library)) :
      shared.word library filed values = 0 := by
    refine Shared.word_eq_zero fun filing member row isRow same => isNew ?_
    rw [same]
    exact stocks.covers shared filing member row isRow
  have places : depot.library.address shared.definition = shared.address library := by
    rw [stocks.uses]
    rfl
  obtain ⟨later, made, holds⟩ :=
    (stocks.holds shared).child? bound places fits unused
  have grows := (Metric.Depot.refills_child? made).grows stocks.sound
  refine ⟨later, made,
    ⟨grows.sound, grows.library.trans stocks.uses, fun other => ?_,
      fun other => ?_⟩, grows⟩
  all_goals by_cases same : other = shared
  · subst same
    rw [Function.update_self]
    exact holds
  · rw [Function.update_of_ne same]
    exact (stocks.holds other).of_leaves grows
      (stocks.sound.leaves_child? (stocks.not_goesBy same bound) made)
  · subst same
    rw [Function.update_self]
    intro filing member row isRow
    exact List.map_subset _ (Metric.Vector.subset_withRow values (rows other))
      (stocks.covers other filing member row isRow)
  · rw [Function.update_of_ne same]
    exact stocks.covers other

/-- The word of a row is that of the filings. -/
theorem word?
    (stocks : Stocks library rows filed depot)
    {shared : Shared}
    {number : Nat}
    (bound : depot.numberOf? shared.definition.name = some number)
    {values : List String}
    (isThere :
      shared.address library values ∈ (rows shared).map (shared.address library)) :
    depot.word? number (shared.address library values) =
      some (shared.word library filed values) := by
  have found := (stocks.holds shared).bound number bound
  rw [Metric.Depot.word?, found]
  exact Metric.Vector.find?_childrenOf isThere fun row same =>
    Shared.word_eq_of_address_eq same filed

/-- Whoever has rows may file. -/
theorem covers_append
    (stocks : Stocks library rows filed depot)
    {filing : Filing}
    (isThere :
      ∀ shared : Shared,
        ∀ row ∈ shared.rows filing.1,
          shared.address library row ∈ (rows shared).map (shared.address library))
    (shared : Shared) :
    ∀ other ∈ filed ++ [filing],
      ∀ row ∈ shared.rows other.1,
        shared.address library row ∈ (rows shared).map (shared.address library) := by
  intro other member
  rcases List.mem_append.mp member with before | isNew
  · exact stocks.covers shared other before
  · rw [List.mem_singleton.mp isNew]
    exact isThere shared

/-- A filing changes the row it is entered in, and no other vector. -/
theorem update
    (stocks : Stocks library rows filed depot)
    {shared : Shared}
    {number : Nat}
    (bound : depot.numberOf? shared.definition.name = some number)
    {filing : Filing}
    (isThere :
      ∀ shared : Shared,
        ∀ row ∈ shared.rows filing.1,
          shared.address library row ∈ (rows shared).map (shared.address library))
    {row : List String}
    {change : Metric.Change}
    (enters : shared.change? filing = some (row, change)) :
    Stocks library rows (filed ++ [filing])
      (depot.update number (shared.address library row) change) where
  sound :=
    ((Metric.Depot.refills_update number _ change depot).grows
      stocks.sound).sound
  uses := stocks.uses
  holds := by
    intro other
    by_cases same : other = shared
    · subst same
      have word :
          other.word library (filed ++ [filing]) = fun values =>
            if other.address library values = other.address library row then
              change.apply (other.word library filed values)
            else
              other.word library filed values := by
        funext values
        rw [Shared.word_append_singleton, Shared.enter, enters]
      rw [Shared.vector, word]
      exact (stocks.holds other).update bound _ change
    · have word : other.word library (filed ++ [filing]) = other.word library filed := by
        funext values
        rw [Shared.word_append_singleton, Shared.enter,
          Shared.change?_of_ne same enters]
      rw [Shared.vector, word]
      exact (stocks.holds other).of_leaves
        ((Metric.Depot.refills_update number _ change depot).grows stocks.sound)
        (stocks.sound.leaves_update (stocks.not_goesBy same bound) _ change)
  covers := stocks.covers_append isThere

/-- A filing that is entered nowhere changes nothing. -/
theorem of_not_entered
    (stocks : Stocks library rows filed depot)
    {filing : Filing}
    (isThere :
      ∀ shared : Shared,
        ∀ row ∈ shared.rows filing.1,
          shared.address library row ∈ (rows shared).map (shared.address library))
    (nowhere : ∀ shared : Shared, shared.change? filing = none) :
    Stocks library rows (filed ++ [filing]) depot where
  sound := stocks.sound
  uses := stocks.uses
  holds := by
    intro shared
    have word : shared.word library (filed ++ [filing]) = shared.word library filed := by
      funext values
      rw [Shared.word_append_singleton, Shared.enter, nowhere shared]
    rw [Shared.vector, word]
    exact stocks.holds shared
  covers := stocks.covers_append isThere

end Stocks

/-! ## Metrics of a cache -/

/-- The numbers under which a depot has the shared vectors. -/
def Binds (numbers : Shared → Nat) (depot : Metric.Depot) : Prop :=
  ∀ shared : Shared,
    depot.numberOf? shared.definition.name = some (numbers shared)

theorem Binds.of_grows
    {numbers : Shared → Nat}
    {before ended : Metric.Depot}
    (binds : Binds numbers before)
    (grows : before.Grows ended) :
    Binds numbers ended :=
  fun shared => grows.bound _ _ (binds shared)

/-- The metrics of a cache with some name in the shared vectors. -/
def Meters.within
    (library : Library)
    (numbers : Shared → Nat)
    (name : String) :
    Meters where
  tallies :=
    Tally.all.map fun tally =>
      (tally,
        .stored (numbers .operations)
          (Shared.operations.address library [name, tally.label]))
  pages := .stored (numbers .retained) (Shared.retained.address library [name])

theorem Meters.tally_within
    (library : Library)
    (numbers : Shared → Nat)
    (name : String)
    (tally : Tally) :
    (within library numbers name).tally tally =
      .stored (numbers .operations)
        (Shared.operations.address library [name, tally.label]) := by
  cases tally <;> rfl

namespace Stocks

variable
  {library : Library}
  {rows : Shared → List (List String)}
  {filed : List Filing}
  {numbers : Shared → Nat}
  {name : String}
  (isThere :
    ∀ shared : Shared,
      ∀ row ∈ shared.rows name,
        shared.address library row ∈ (rows shared).map (shared.address library))

include isThere

/-- What a cache reports is filed under its name. -/
theorem file
    {world : World}
    (stocks : Stocks library rows filed world.depot)
    (binds : Binds numbers world.depot)
    (report : Report PageId) :
    Stocks library rows (filed ++ [(name, report)])
        (world.file (.within library numbers name) report).depot ∧
      world.depot.Grows (world.file (.within library numbers name) report).depot := by
  have changed (shared : Shared) (row : List String) (change : Metric.Change) :=
    (Metric.Depot.refills_update (numbers shared) (shared.address library row)
      change world.depot).grows stocks.sound
  cases report with
  | count tally =>
      rw [World.file, Meters.tally_within]
      exact ⟨stocks.update (binds .operations) isThere rfl,
        changed .operations _ _⟩
  | size pages =>
      exact ⟨stocks.update (binds .retained) isThere rfl, changed .retained _ _⟩
  | note note =>
      have same :
          (world.file (.within library numbers name) (.note note)).depot = world.depot := by
        simp only [World.file, World.trace]
        split <;> rfl
      rw [same]
      refine ⟨stocks.of_not_entered isThere fun shared => ?_, stocks.sound.grows⟩
      cases shared <;> rfl

theorem fileAll
    (reports : List (Report PageId))
    {world : World}
    (stocks : Stocks library rows filed world.depot)
    (binds : Binds numbers world.depot) :
    Stocks library rows (filed ++ reports.map (Prod.mk name))
        (reports.foldl (World.file (.within library numbers name)) world).depot ∧
      world.depot.Grows
        (reports.foldl (World.file (.within library numbers name)) world).depot := by
  induction reports generalizing filed world with
  | nil =>
      rw [List.map_nil, List.append_nil]
      exact ⟨stocks, stocks.sound.grows⟩
  | cons report rest inductionHypothesis =>
      obtain ⟨filedOne, grown⟩ := stocks.file isThere binds report
      obtain ⟨filedAll, grownAll⟩ :=
        inductionHypothesis filedOne (binds.of_grows grown)
      rw [List.append_assoc] at filedAll
      exact ⟨filedAll, grown.trans grownAll⟩

end Stocks

end NavState.Session
