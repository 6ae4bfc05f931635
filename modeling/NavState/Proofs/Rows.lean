import NavState.Proofs.Reports
import NavState.Session.Meters

namespace NavState.Metric.Depot

/-!
# Rows of metrics

A row is one metric of a depot, and its word is what is exported for it.
Registering vectors and asking for their children leaves every word as it is;
only a change of a row changes its word.  So the rows of a cache show what is
filed for it, as long as nobody else changes them.
-/

/-- The word of a metric, if there is such a metric. -/
def word? (vector : Nat) (address : Nat) (depot : Depot) : Option UInt64 :=
  match depot.vectors[vector]? with
  | some entry => (Assoc.find? address entry.children).map Child.word
  | none => none

/-- Every metric that is there keeps its word. -/
def Keeps (before ended : Depot) : Prop :=
  ∀ vector address word,
    before.word? vector address = some word →
    ended.word? vector address = some word

theorem keeps_of_vectors_eq
    {before ended : Depot}
    (same : ended.vectors = before.vectors) :
    before.Keeps ended := by
  intro vector address word found
  rw [word?, same]
  exact found

theorem Keeps.trans
    {before between ended : Depot}
    (first : before.Keeps between)
    (second : between.Keeps ended) :
    before.Keeps ended :=
  fun vector address word found =>
    second vector address word (first vector address word found)

theorem keeps_addVector
    (exporter : Nat)
    (vector : Vector)
    (depot : Depot) :
    depot.Keeps (depot.addVector exporter vector).depot := by
  intro number address word found
  simp only [word?] at found ⊢
  split at found
  · next entry isThere =>
      have inside : number < depot.vectors.length :=
        (List.getElem?_eq_some_iff.mp isThere).1
      simp only [addVector, List.getElem?_append_left inside, isThere]
      exact found
  · cases found

/-- A name that is registered adds a vector at most. -/
theorem keeps_register
    {catalogue : Nat}
    {kind : Kind}
    {definition : Definition}
    {depot : Depot}
    {registered : Registered}
    (succeeds : depot.register catalogue kind definition = .ok registered) :
    depot.Keeps registered.depot := by
  simp only [register] at succeeds
  split at succeeds
  · split at succeeds
    · split at succeeds
      · cases succeeds
        exact keeps_of_vectors_eq rfl
      · cases succeeds
    · cases succeeds
      exact keeps_of_vectors_eq rfl
  · split at succeeds
    · cases succeeds
    · cases succeeds
      have added : depot.Keeps
          (depot.addVector (depot.catalogue catalogue).exporter
            (.empty kind definition)).depot :=
        keeps_addVector _ _ depot
      exact added.trans (keeps_of_vectors_eq rfl)

/-- A child that is created stands behind those that are there. -/
theorem keeps_child?
    {vector : Nat}
    {values : List String}
    {depot : Depot}
    {made : Nat × Depot}
    (succeeds : depot.child? vector values = some made) :
    depot.Keeps made.2 := by
  simp only [child?, Option.bind_eq_bind, Option.bind_eq_some_iff,
    Option.pure_def, Option.some.injEq] at succeeds
  obtain ⟨entry, foundEntry, ⟨key, changed⟩, asked, rfl⟩ := succeeds
  intro number address word found
  by_cases same : vector = number
  · subst same
    have inside : vector < depot.vectors.length :=
      (List.getElem?_eq_some_iff.mp foundEntry).1
    simp only [word?, foundEntry] at found
    simp only [word?, List.getElem?_set_self inside]
    obtain ⟨child, foundChild, rfl⟩ := Option.map_eq_some_iff.mp found
    simp only [Vector.child?] at asked
    split at asked
    · split at asked
      · cases asked
        exact found
      · cases asked
        rw [Assoc.find?_append, foundChild]
        rfl
    · cases asked
  · simp only [word?, List.getElem?_set_ne same]
    exact found

theorem word?_update_self
    (vector : Nat)
    (address : Nat)
    (change : Change)
    (depot : Depot) :
    (depot.update vector address change).word? vector address =
      (depot.word? vector address).map change.apply := by
  simp only [word?, update, List.getElem?_modify_eq]
  cases depot.vectors[vector]? with
  | none =>
      rfl
  | some entry =>
      simp [Vector.update, Option.map_map, Function.comp_def]

theorem word?_update_of_ne
    {vector number : Nat}
    {address other : Nat}
    (different : (number, other) ≠ (vector, address))
    (change : Change)
    (depot : Depot) :
    (depot.update vector address change).word? number other =
      depot.word? number other := by
  by_cases same : vector = number
  · subst same
    have apart : other ≠ address := fun isOwn => different (by rw [isOwn])
    simp only [word?, update, List.getElem?_modify_eq]
    cases depot.vectors[vector]? with
    | none =>
        rfl
    | some entry =>
        simp [Vector.update, Assoc.find?_adjust_of_ne apart]
  · simp [word?, update, same]

end NavState.Metric.Depot

namespace NavState

theorem Tally.mem_all (tally : Tally) : tally ∈ Tally.all := by
  cases tally <;> decide

end NavState

namespace NavState.Session

/-! ## Rows of a world -/

namespace World

/-- The word that is exported for a metric. -/
def word? (meter : Meter) (world : World) : Option UInt64 :=
  match meter with
  | .stored vector address => world.depot.word? vector address
  | _ => none

theorem word?_of_keeps
    {before ended : World}
    (keeps : before.depot.Keeps ended.depot)
    {meter : Meter}
    {word : UInt64}
    (found : before.word? meter = some word) :
    ended.word? meter = some word := by
  cases meter with
  | stored vector address =>
      exact keeps vector address word found
  | _ =>
      cases found

theorem word?_change_self
    (meter : Meter)
    (change : Metric.Change)
    (world : World) :
    (world.change meter change).word? meter =
      (world.word? meter).map change.apply := by
  cases meter with
  | stored vector address =>
      exact Metric.Depot.word?_update_self vector address change world.depot
  | _ =>
      rfl

theorem word?_change_of_ne
    {meter other : Meter}
    (different : other ≠ meter)
    (change : Metric.Change)
    (world : World) :
    (world.change meter change).word? other = world.word? other := by
  cases meter with
  | stored vector address =>
      cases other with
      | stored number place =>
          have apart : (number, place) ≠ (vector, address) := by
            rintro ⟨⟩
            exact different rfl
          exact Metric.Depot.word?_update_of_ne apart change world.depot
      | _ =>
          rfl
  | _ =>
      cases other <;> rfl

end World

/-- The rows of a cache: one for each tally, and one for the number of pages. -/
def Meters.rows (meters : Meters) : List Meter :=
  meters.pages :: Tally.all.map meters.tally

theorem Meters.tally_mem_rows (meters : Meters) (tally : Tally) :
    meters.tally tally ∈ meters.rows :=
  List.mem_cons_of_mem _ (List.mem_map_of_mem (Tally.mem_all tally))

theorem Meters.pages_mem_rows (meters : Meters) : meters.pages ∈ meters.rows :=
  List.mem_cons_self

theorem Meters.tally_ne_pages
    {meters : Meters}
    (distinct : meters.rows.Nodup)
    (tally : Tally) :
    meters.tally tally ≠ meters.pages := by
  intro same
  refine (List.nodup_cons.mp distinct).1 ?_
  rw [← same]
  exact List.mem_map_of_mem (Tally.mem_all tally)

theorem Meters.tally_ne_tally
    {meters : Meters}
    (distinct : meters.rows.Nodup)
    {tally other : Tally}
    (different : tally ≠ other) :
    meters.tally tally ≠ meters.tally other := fun same =>
  different <|
    List.inj_on_of_nodup_map (List.nodup_cons.mp distinct).2
      (Tally.mem_all tally) (Tally.mem_all other) same

namespace World

/-- The rows of a cache show what was filed for it. -/
structure Shows (meters : Meters) (ledger : Ledger) (world : World) : Prop where
  counts :
    ∀ tally,
      world.word? (meters.tally tally) =
        some (UInt64.ofNat (ledger.count tally))
  pages : world.word? meters.pages = some (UInt64.ofNat ledger.pages)

theorem Shows.of_keeps
    {before ended : World}
    {meters : Meters}
    {ledger : Ledger}
    (shows : before.Shows meters ledger)
    (keeps : before.depot.Keeps ended.depot) :
    ended.Shows meters ledger where
  counts := fun tally => word?_of_keeps keeps (shows.counts tally)
  pages := word?_of_keeps keeps shows.pages

/-- Whoever changes a row of somebody else changes nothing that is shown here. -/
theorem Shows.change
    {world : World}
    {meters : Meters}
    {ledger : Ledger}
    (shows : world.Shows meters ledger)
    {meter : Meter}
    (other : meter ∉ meters.rows)
    (change : Metric.Change) :
    (world.change meter change).Shows meters ledger where
  counts := by
    intro tally
    have different : meters.tally tally ≠ meter := fun same =>
      other (same ▸ meters.tally_mem_rows tally)
    rw [word?_change_of_ne different]
    exact shows.counts tally
  pages := by
    have different : meters.pages ≠ meter := fun same =>
      other (same ▸ meters.pages_mem_rows)
    rw [word?_change_of_ne different]
    exact shows.pages

/-- An event that is counted is shown in the row of its tally. -/
theorem Shows.increase
    {world : World}
    {meters : Meters}
    {ledger : Ledger}
    (shows : world.Shows meters ledger)
    (distinct : meters.rows.Nodup)
    (tally : Tally) :
    (world.change (meters.tally tally) (.increase 1)).Shows meters
      (ledger.increase tally) where
  counts := by
    intro other
    by_cases same : other = tally
    · subst same
      rw [word?_change_self, shows.counts other, Ledger.count_increase,
        if_pos rfl, UInt64.ofNat_add]
      rfl
    · rw [word?_change_of_ne (meters.tally_ne_tally distinct same),
        shows.counts other, Ledger.count_increase, if_neg same, Nat.add_zero]
  pages := by
    rw [word?_change_of_ne (meters.tally_ne_pages distinct tally).symm]
    exact shows.pages

theorem Shows.file
    {world : World}
    {meters : Meters}
    {ledger : Ledger}
    (shows : world.Shows meters ledger)
    (distinct : meters.rows.Nodup)
    (report : Report PageId) :
    (world.file meters report).Shows meters (ledger.file report) := by
  cases report with
  | count tally =>
      exact shows.increase distinct tally
  | size pages =>
      refine ⟨fun tally => ?_, ?_⟩
      · rw [World.file, word?_change_of_ne (meters.tally_ne_pages distinct tally)]
        exact shows.counts tally
      · rw [World.file, word?_change_self, shows.pages]
        rfl
  | note note =>
      simp only [World.file, trace]
      split <;> exact ⟨shows.counts, shows.pages⟩

end World

end NavState.Session
