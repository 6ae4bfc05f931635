import Mathlib.Data.Finset.Card
import Mathlib.Data.List.Dedup
import Mathlib.Data.List.DropRight
import NavState.Table

namespace NavState

/-!
# Recency

A table is touched when a store is committed for a page or created for it.  The
pages it retains are the last distinct ones among its touches, as many as its
capacity allows.  This module states that law for single operations and lifts it
to lists of touches, and it says which stores an operation leaves alone.
-/

/-- The last `capacity` distinct pages, ordered by the last touch of each. -/
def recent
    {ι : Type}
    [DecidableEq ι]
    (capacity : Nat)
    (touches : List ι) :
    List ι :=
  touches.dedup.rtake capacity

section Recent

variable {ι : Type} [DecidableEq ι]

/-- Appending a touch moves its page behind all others. -/
theorem dedup_concat (touches : List ι) (page : ι) :
    (touches ++ [page]).dedup =
      touches.dedup.filter (· ≠ page) ++ [page] := by
  induction touches with
  | nil =>
      simp
  | cons first rest inductionHypothesis =>
      by_cases inRest : first ∈ rest
      · have inBoth : first ∈ rest ++ [page] := by simp [inRest]
        rw [List.cons_append, List.dedup_cons_of_mem inBoth,
          List.dedup_cons_of_mem inRest, inductionHypothesis]
      · by_cases isPage : first = page
        · have inBoth : first ∈ rest ++ [page] := by simp [isPage]
          rw [List.cons_append, List.dedup_cons_of_mem inBoth,
            List.dedup_cons_of_notMem inRest, inductionHypothesis]
          simp [isPage]
        · have inNeither : first ∉ rest ++ [page] := by
            simp [inRest, isPage]
          rw [List.cons_append, List.dedup_cons_of_notMem inNeither,
            List.dedup_cons_of_notMem inRest, inductionHypothesis]
          simp [isPage]

omit [DecidableEq ι] in
/-- A list that ends in enough elements is cut down within its end. -/
theorem rtake_append_of_length_le
    {capacity : Nat}
    {back : List ι}
    (enough : capacity ≤ back.length)
    (front : List ι) :
    (front ++ back).rtake capacity = back.rtake capacity := by
  have dropped :
      (front ++ back).length - capacity =
        front.length + (back.length - capacity) := by
    rw [List.length_append]
    omega
  rw [List.rtake, dropped, List.drop_append]
  simp [List.rtake]

omit [DecidableEq ι] in
theorem rtake_of_length_le
    {capacity : Nat}
    {items : List ι}
    (within : items.length ≤ capacity) :
    items.rtake capacity = items := by
  simp [List.rtake, Nat.sub_eq_zero_of_le within]

omit [DecidableEq ι] in
/-- Only what was taken last matters for what is taken later. -/
theorem rtake_rtake_append
    (capacity : Nat)
    (front back : List ι) :
    (front.rtake capacity ++ back).rtake capacity =
      (front ++ back).rtake capacity := by
  by_cases within : front.length ≤ capacity
  · rw [rtake_of_length_le within]
  · have enough : capacity ≤ (front.rtake capacity ++ back).length := by
      rw [List.rtake, List.length_append, List.length_drop]
      omega
    have split :
        front ++ back =
          front.take (front.length - capacity) ++
            (front.rtake capacity ++ back) := by
      rw [← List.append_assoc, List.rtake, List.take_append_drop]
    rw [split, rtake_append_of_length_le enough]

/-- At most one element of a duplicate-free list equals a given one. -/
theorem length_le_length_filter_ne
    {items : List ι}
    (distinct : items.Nodup)
    (page : ι) :
    items.length ≤ (items.filter (· ≠ page)).length + 1 := by
  have erased : items.erase page = items.filter (· ≠ page) := by
    rw [distinct.erase_eq_filter]
    exact List.filter_congr fun member _ => by simp [bne, beq_eq_decide]
  rw [← erased, List.length_erase]
  split <;> omega

/--
What fell out of the last `capacity` pages before a touch does not come back by
the touch.
-/
theorem rtake_filter_concat
    {items : List ι}
    (distinct : items.Nodup)
    (capacity : Nat)
    (page : ι) :
    ((items.rtake capacity).filter (· ≠ page) ++ [page]).rtake capacity =
      (items.filter (· ≠ page) ++ [page]).rtake capacity := by
  by_cases within : items.length ≤ capacity
  · rw [rtake_of_length_le within]
  · have split :
        items =
          items.take (items.length - capacity) ++ items.rtake capacity :=
      (List.take_append_drop _ items).symm
    have full : (items.rtake capacity).length = capacity := by
      rw [List.rtake, List.length_drop]
      omega
    have keptDistinct : (items.rtake capacity).Nodup :=
      distinct.sublist (List.drop_sublist _ items)
    have enough :
        capacity ≤
          ((items.rtake capacity).filter (· ≠ page) ++ [page]).length := by
      have atMostOne := length_le_length_filter_ne keptDistinct page
      rw [List.length_append, List.length_singleton]
      omega
    conv =>
      rhs
      rw [split, List.filter_append, List.append_assoc]
    rw [rtake_append_of_length_le enough]

/-- One more touch acts on the recent pages alone. -/
theorem recent_concat (capacity : Nat) (touches : List ι) (page : ι) :
    recent capacity (touches ++ [page]) =
      ((recent capacity touches).filter (· ≠ page) ++ [page]).rtake
        capacity := by
  rw [recent, recent, dedup_concat,
    rtake_filter_concat (List.nodup_dedup touches)]

theorem nodup_recent (capacity : Nat) (touches : List ι) :
    (recent capacity touches).Nodup :=
  (List.nodup_dedup touches).sublist (List.drop_sublist _ _)

theorem length_recent_le (capacity : Nat) (touches : List ι) :
    (recent capacity touches).length ≤ capacity := by
  rw [recent, List.rtake, List.length_drop]
  omega

theorem recent_of_nodup
    {capacity : Nat}
    {touches : List ι}
    (distinct : touches.Nodup)
    (within : touches.length ≤ capacity) :
    recent capacity touches = touches := by
  rw [recent, distinct.dedup, rtake_of_length_le within]

theorem mem_of_mem_recent
    {capacity : Nat}
    {touches : List ι}
    {page : ι}
    (member : page ∈ recent capacity touches) :
    page ∈ touches :=
  List.mem_dedup.mp (List.mem_of_mem_drop member)

/-- Later touches act on the recent pages alone. -/
theorem recent_append (capacity : Nat) (earlier later : List ι) :
    recent capacity (recent capacity earlier ++ later) =
      recent capacity (earlier ++ later) := by
  induction later using List.reverseRecOn with
  | nil =>
      rw [List.append_nil, List.append_nil]
      exact recent_of_nodup (nodup_recent _ _) (length_recent_le _ _)
  | append_singleton front page inductionHypothesis =>
      rw [← List.append_assoc, ← List.append_assoc, recent_concat,
        recent_concat capacity (earlier ++ front), inductionHypothesis]

/-- Of the recent pages, the last ones are recent for a smaller capacity too. -/
theorem rtake_recent
    {narrow wide : Nat}
    (atMost : narrow ≤ wide)
    (touches : List ι) :
    (recent wide touches).rtake narrow = recent narrow touches := by
  simp only [recent, List.rtake, List.drop_drop, List.length_drop]
  congr 1
  omega

/-- The last touch is the most recent page. -/
theorem getLast?_recent_concat
    {capacity : Nat}
    (positive : 0 < capacity)
    (touches : List ι)
    (page : ι) :
    (recent capacity (touches ++ [page])).getLast? = some page := by
  obtain ⟨room, rfl⟩ := Nat.exists_eq_succ_of_ne_zero positive.ne'
  rw [recent, dedup_concat, List.rtake_concat_succ]
  simp

/--
A page stays recent exactly as long as fewer than `capacity` other pages were
touched after it.
-/
theorem mem_recent_iff
    {page : ι}
    {later : List ι}
    (absent : page ∉ later)
    (capacity : Nat)
    (earlier : List ι) :
    page ∈ recent capacity (earlier ++ page :: later) ↔
      later.toFinset.card < capacity := by
  have tail : (page :: later).dedup = page :: later.dedup :=
    List.dedup_cons_of_notMem absent
  obtain ⟨front, shape⟩ :
      ∃ front, front ++ page :: later.dedup =
        (earlier ++ page :: later).dedup := by
    rw [List.dedup_append, tail]
    exact List.suffix_union_right earlier (page :: later.dedup)
  have distinct : (front ++ page :: later.dedup).Nodup := by
    rw [shape]
    exact List.nodup_dedup _
  have notInFront : page ∉ front := by
    intro inFront
    exact (List.nodup_append.mp distinct).2.2 page inFront page (by simp) rfl
  have notInTail : page ∉ later.dedup := by
    simpa using absent
  rw [recent, ← shape, List.card_toFinset, List.rtake, List.drop_append]
  constructor
  · intro member
    by_contra tooMany
    rcases List.mem_append.mp member with inFront | inTail
    · exact notInFront (List.mem_of_mem_drop inFront)
    · have dropped :
          (front ++ page :: later.dedup).length - capacity - front.length =
            (later.dedup.length - capacity) + 1 := by
        simp only [List.length_append, List.length_cons]
        omega
      rw [dropped, List.drop_succ_cons] at inTail
      exact notInTail (List.mem_of_mem_drop inTail)
  · intro few
    have dropped :
        (front ++ page :: later.dedup).length - capacity - front.length = 0 := by
      simp only [List.length_append, List.length_cons]
      omega
    rw [dropped]
    simp

end Recent

namespace Assoc

variable {α β : Type} [DecidableEq α]

theorem find?_append (key : α) (front back : Assoc α β) :
    find? key (front ++ back) =
      (find? key front).or (find? key back) := by
  induction front with
  | nil =>
      rfl
  | cons entry rest inductionHypothesis =>
      by_cases same : entry.1 = key
      · simp [find?, same]
      · simpa [find?, same] using inductionHypothesis

theorem find?_eq_none_iff (key : α) (entries : Assoc α β) :
    find? key entries = none ↔ key ∉ keys entries := by
  rw [← contains_iff_mem_keys, contains]
  simp

theorem mem_of_find?
    {key : α}
    {value : β}
    {entries : Assoc α β}
    (found : find? key entries = some value) :
    (key, value) ∈ entries := by
  induction entries with
  | nil =>
      cases found
  | cons entry rest inductionHypothesis =>
      obtain ⟨other, first⟩ := entry
      rw [find?] at found
      split at found
      · next same =>
          cases same
          cases found
          exact List.mem_cons_self
      · exact List.mem_cons_of_mem _ (inductionHypothesis found)

/-- Dropping entries from the front changes nothing for a key further back. -/
theorem find?_drop
    {entries : Assoc α β}
    (distinct : (keys entries).Nodup)
    {key : α}
    {count : Nat}
    (kept : key ∈ keys (entries.drop count)) :
    find? key (entries.drop count) = find? key entries := by
  have split := List.take_append_drop count entries
  have absent : find? key (entries.take count) = none := by
    rw [find?_eq_none_iff]
    intro inFront
    rw [← split, keys, List.map_append, List.nodup_append] at distinct
    exact distinct.2.2 key inFront key kept rfl
  conv =>
    rhs
    rw [← split, find?_append, absent]
  simp

end Assoc

namespace Table

variable {ι κ ν : Type}

/-- No page is retained twice, and no more pages than the capacity allows. -/
structure Sound (table : Table ι κ ν) : Prop where
  distinct : table.pages.Nodup
  within : table.pages.length ≤ table.capacity

theorem length_pages (table : Table ι κ ν) :
    table.pages.length = table.size := by
  simp [pages, Assoc.keys, size]

theorem sound_of_empty?
    {capacity : Nat}
    {table : Table ι κ ν}
    (made : empty? capacity = some table) :
    table.Sound ∧ table.pages = [] ∧ table.capacity = capacity := by
  simp only [empty?] at made
  split at made
  · simp only [Option.some.injEq] at made
    subst made
    exact ⟨⟨by simp [pages, Assoc.keys], by simp [pages, Assoc.keys]⟩,
      rfl, rfl⟩
  · simp at made

theorem pages_trim_fst (table : Table ι κ ν) :
    table.trim.1.pages = table.pages.rtake table.capacity := by
  simp [trim, pages, Assoc.keys, List.rtake, List.map_drop]

@[simp] theorem pages_clear (table : Table ι κ ν) :
    table.clear.1.pages = [] :=
  rfl

theorem Sound.clear (table : Table ι κ ν) : table.clear.1.Sound where
  distinct := by simp
  within := by simp

variable [DecidableEq ι]

/-- Put `store` behind all others as the store of `page`. -/
private def touch
    (page : ι)
    (store : Store κ ν)
    (table : Table ι κ ν) :
    Table ι κ ν :=
  { table with entries := Assoc.bind page store table.entries }

theorem get?_eq_none_iff (page : ι) (table : Table ι κ ν) :
    table.get? page = none ↔ page ∉ table.pages :=
  Assoc.find?_eq_none_iff page table.entries

theorem mem_pages_of_get?
    {page : ι}
    {table : Table ι κ ν}
    {store : Store κ ν}
    (found : table.get? page = some store) :
    page ∈ table.pages := by
  by_contra absent
  rw [(get?_eq_none_iff page table).mpr absent] at found
  cases found

theorem get?_adjust_self
    (page : ι)
    (change : Store κ ν → Store κ ν)
    (table : Table ι κ ν) :
    (table.adjust page change).get? page = (table.get? page).map change :=
  Assoc.find?_adjust_self page change table.entries

theorem get?_adjust_of_ne
    {page other : ι}
    (different : other ≠ page)
    (change : Store κ ν → Store κ ν)
    (table : Table ι κ ν) :
    (table.adjust page change).get? other = table.get? other :=
  Assoc.find?_adjust_of_ne different change table.entries

theorem Sound.adjust
    {table : Table ι κ ν}
    (sound : table.Sound)
    (page : ι)
    (change : Store κ ν → Store κ ν) :
    (table.adjust page change).Sound where
  distinct := by
    rw [pages_adjust]
    exact sound.distinct
  within := by
    rw [pages_adjust]
    exact sound.within

theorem ensure_of_mem
    {page : ι}
    {table : Table ι κ ν}
    (retained : page ∈ table.pages) :
    table.ensure page = (table, []) := by
  have contained := (contains_iff_mem_pages page table).mpr retained
  simp [ensure, contained]

/-- In an empty table the creation of a store drops nothing. -/
theorem ensure_of_pages_eq_nil
    {table : Table ι κ ν}
    (empty : table.pages = [])
    (page : ι) :
    table.ensure page = ({ table with entries := [(page, {})] }, []) := by
  have noEntries : table.entries = [] := List.map_eq_nil_iff.mp empty
  have absent : ¬ table.contains page = true := by
    rw [contains_iff_mem_pages, empty]
    exact List.not_mem_nil
  rw [ensure, if_neg absent, noEntries]
  exact trim_of_size_le table.capacity_pos

/-- A page that is not retained is touched by its creation. -/
private theorem ensure_of_not_mem
    {page : ι}
    {table : Table ι κ ν}
    (absent : page ∉ table.pages) :
    table.ensure page = (table.touch page {}).trim := by
  have notContained : ¬ table.contains page = true := by
    rwa [contains_iff_mem_pages]
  simp [ensure, notContained, touch]

private theorem pages_touch
    (page : ι)
    (store : Store κ ν)
    (table : Table ι κ ν) :
    (table.touch page store).pages =
      table.pages.filter (· ≠ page) ++ [page] :=
  Assoc.keys_bind page store table.entries

private theorem nodup_pages_touch
    {table : Table ι κ ν}
    (sound : table.Sound)
    (page : ι)
    (store : Store κ ν) :
    (table.touch page store).pages.Nodup :=
  Assoc.nodup_keys_bind sound.distinct page store

/-- A touch is one more page behind those retained so far. -/
private theorem pages_trim_touch
    {table : Table ι κ ν}
    (sound : table.Sound)
    (page : ι)
    (store : Store κ ν) :
    (table.touch page store).trim.1.pages =
      recent table.capacity (table.pages ++ [page]) := by
  rw [pages_trim_fst, pages_touch, recent, dedup_concat, sound.distinct.dedup]
  rfl

/-- What a touch leaves in the table is what was there before. -/
private theorem get?_trim_touch_of_ne
    {table : Table ι κ ν}
    (sound : table.Sound)
    {page other : ι}
    (store : Store κ ν)
    (different : other ≠ page)
    (kept : other ∈ (table.touch page store).trim.1.pages) :
    (table.touch page store).trim.1.get? other = table.get? other := by
  have trimmed :
      (table.touch page store).trim.1.get? other =
        (table.touch page store).get? other :=
    Assoc.find?_drop (nodup_pages_touch sound page store) kept
  rw [trimmed]
  exact Assoc.find?_bind_of_ne different store table.entries

private theorem mem_pages_trim_touch
    {table : Table ι κ ν}
    (sound : table.Sound)
    (page : ι)
    (store : Store κ ν) :
    page ∈ (table.touch page store).trim.1.pages := by
  rw [pages_trim_touch sound]
  exact List.mem_of_getLast?
    (getLast?_recent_concat table.capacity_pos table.pages page)

private theorem get?_trim_touch_self
    {table : Table ι κ ν}
    (sound : table.Sound)
    (page : ι)
    (store : Store κ ν) :
    (table.touch page store).trim.1.get? page = some store := by
  have trimmed :
      (table.touch page store).trim.1.get? page =
        (table.touch page store).get? page :=
    Assoc.find?_drop (nodup_pages_touch sound page store)
      (mem_pages_trim_touch sound page store)
  rw [trimmed]
  exact Assoc.find?_bind_self page store table.entries

private theorem sound_trim_touch
    {table : Table ι κ ν}
    (sound : table.Sound)
    (page : ι)
    (store : Store κ ν) :
    (table.touch page store).trim.1.Sound where
  distinct := by
    rw [pages_trim_touch sound]
    exact nodup_recent _ _
  within := by
    rw [pages_trim_touch sound]
    exact length_recent_le _ _

/-- A commit touches its page. -/
theorem pages_commit
    {table : Table ι κ ν}
    (sound : table.Sound)
    (page : ι)
    (store : Store κ ν) :
    (table.commit page store).1.pages =
      recent table.capacity (table.pages ++ [page]) :=
  pages_trim_touch sound page store

theorem Sound.commit
    {table : Table ι κ ν}
    (sound : table.Sound)
    (page : ι)
    (store : Store κ ν) :
    (table.commit page store).1.Sound :=
  sound_trim_touch sound page store

theorem get?_commit_self
    {table : Table ι κ ν}
    (sound : table.Sound)
    (page : ι)
    (store : Store κ ν) :
    (table.commit page store).1.get? page = some store :=
  get?_trim_touch_self sound page store

/-- The other pages that stay keep their stores. -/
theorem get?_commit_of_ne
    {table : Table ι κ ν}
    (sound : table.Sound)
    {page other : ι}
    (store : Store κ ν)
    (different : other ≠ page)
    (kept : other ∈ (table.commit page store).1.pages) :
    (table.commit page store).1.get? other = table.get? other :=
  get?_trim_touch_of_ne sound store different kept

/-- Creating a store touches its page, unless the page is retained. -/
theorem pages_ensure
    {table : Table ι κ ν}
    (sound : table.Sound)
    (page : ι) :
    (table.ensure page).1.pages =
      if page ∈ table.pages then
        table.pages
      else
        recent table.capacity (table.pages ++ [page]) := by
  by_cases retained : page ∈ table.pages
  · simp [ensure_of_mem retained, retained]
  · rw [ensure_of_not_mem retained, pages_trim_touch sound]
    simp [retained]

theorem Sound.ensure
    {table : Table ι κ ν}
    (sound : table.Sound)
    (page : ι) :
    (table.ensure page).1.Sound := by
  by_cases retained : page ∈ table.pages
  · rw [ensure_of_mem retained]
    exact sound
  · rw [ensure_of_not_mem retained]
    exact sound_trim_touch sound page {}

/--
A commit drops at most the least recently touched page, and only to make room
for a page that was not retained.
-/
theorem dropped_by_commit
    {table : Table ι κ ν}
    (sound : table.Sound)
    {page other : ι}
    {store : Store κ ν}
    (retained : other ∈ table.pages)
    (dropped : other ∉ (table.commit page store).1.pages) :
    table.pages.head? = some other ∧
      page ∉ table.pages ∧
      table.pages.length = table.capacity := by
  have different : other ≠ page := by
    rintro rfl
    exact dropped (mem_pages_trim_touch sound other store)
  rw [pages_commit sound, recent, dedup_concat, sound.distinct.dedup] at dropped
  have within := sound.within
  by_cases known : page ∈ table.pages
  · -- The page was retained, so its touch keeps the number of pages.
    have shorter :
        (table.pages.filter (· ≠ page) ++ [page]).length ≤
          table.capacity := by
      have fewer :
          (table.pages.filter (· ≠ page)).length < table.pages.length :=
        List.length_filter_lt_length_iff_exists.mpr ⟨page, known, by simp⟩
      rw [List.length_append, List.length_singleton]
      omega
    rw [rtake_of_length_le shorter] at dropped
    exact absurd (by simp [retained, different]) dropped
  · have unchanged : table.pages.filter (· ≠ page) = table.pages := by
      rw [List.filter_eq_self]
      intro member isMember
      have memberNe : member ≠ page := by
        rintro rfl
        exact known isMember
      simpa using memberNe
    rw [unchanged] at dropped
    cases shape : table.pages with
    | nil =>
        rw [shape] at retained
        simp at retained
    | cons first rest =>
        rw [shape] at retained dropped within
        simp only [List.length_cons] at within
        -- At most one page is in excess, so only the first one can be dropped.
        have notInRest : other ∉ rest := by
          intro inRest
          apply dropped
          rw [List.cons_append, List.rtake, List.length_cons,
            List.length_append, List.length_singleton]
          by_cases full : rest.length + 1 = table.capacity
          · have excess : rest.length + 1 + 1 - table.capacity = 1 := by omega
            rw [excess]
            simp [inRest]
          · have excess : rest.length + 1 + 1 - table.capacity = 0 := by omega
            rw [excess]
            simp [inRest]
        have isFirst : other = first := by
          rcases List.mem_cons.mp retained with same | inRest
          · exact same
          · exact absurd inRest notInRest
        refine ⟨by simp [isFirst], by simpa [shape] using known, ?_⟩
        rw [List.length_cons]
        by_contra room
        apply dropped
        rw [rtake_of_length_le]
        · simp [isFirst]
        · rw [List.length_append, List.length_cons, List.length_singleton]
          omega

end Table

end NavState
