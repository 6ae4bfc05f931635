import NavState.Bench.Tables
import NavState.Proofs.Recency

namespace NavState

/-!
# Tables as maps in recency order

A table is worked on in any order: stores are committed, created, edited and read,
and everything is cleared.  The run alone says what becomes of the table.  Its pages
are the last distinct ones that were touched since the last clearing, and each of
them has the store that was placed for it last, with the edits made since.  Every
store that leaves is announced, in the order in which the stores stood.

The work is also taken step by step, on an ordered map that nothing keeps within
bounds.  No step finds the map in disorder.
-/

namespace Assoc

variable {α β : Type} [DecidableEq α]

omit [DecidableEq α] in
theorem ne_of_mem_of_not_mem
    {key : α}
    {entries : Assoc α β}
    (absent : key ∉ keys entries)
    {entry : α × β}
    (member : entry ∈ entries) :
    entry.1 ≠ key := by
  rintro rfl
  exact absent (List.mem_map_of_mem member)

/-- Removing a key that is not there changes nothing. -/
theorem erase_of_not_mem
    {key : α}
    {entries : Assoc α β}
    (absent : key ∉ keys entries) :
    erase key entries = entries :=
  List.filter_eq_self.mpr fun _ member =>
    decide_eq_true (ne_of_mem_of_not_mem absent member)

/-- Adjusting a key that is not there changes nothing. -/
theorem adjust_of_not_mem
    {key : α}
    {entries : Assoc α β}
    (absent : key ∉ keys entries)
    (change : β → β) :
    adjust key change entries = entries := by
  have same : adjust key change entries = entries.map id :=
    List.map_congr_left fun _ member =>
      if_neg (ne_of_mem_of_not_mem absent member)
  rw [same, List.map_id]

end Assoc

namespace Table

/-- One piece of work on a table. -/
inductive Work (ι κ ν : Type) where
  | commit (page : ι) (store : Store κ ν)
  | get (page : ι)
  | contains (page : ι)
  /-- Edit the store of a page, if it is retained. -/
  | adjust (page : ι) (change : Store κ ν → Store κ ν)
  /-- Edit the store of a page, which is created unless it is retained. -/
  | ensure (page : ι) (change : Store κ ν → Store κ ν)
  | clear

variable {ι κ ν : Type} [DecidableEq ι]

/-- Do one piece of work. -/
def perform
    (work : Work ι κ ν)
    (table : Table ι κ ν) :
    Table ι κ ν × List (Departure ι) :=
  match work with
  | .commit page store => table.commit page store
  | .get _ => (table, [])
  | .contains _ => (table, [])
  | .adjust page change => (table.adjust page change, [])
  | .ensure page change =>
      let (ensured, departures) := table.ensure page
      (ensured.adjust page change, departures)
  | .clear => table.clear

/-- The table after some pieces of work. -/
def after (works : List (Work ι κ ν)) (table : Table ι κ ν) : Table ι κ ν :=
  works.foldl (fun table work => (table.perform work).1) table

theorem after_concat
    (works : List (Work ι κ ν))
    (work : Work ι κ ν)
    (table : Table ι κ ν) :
    table.after (works ++ [work]) = ((table.after works).perform work).1 :=
  List.foldl_append

/-! ## What a run says by itself -/

namespace Work

/--
What one more piece of work makes of the touches since the last clearing.  Getting
a store to edit touches its page only if the store has to be created.
-/
def touch
    (capacity : Nat)
    (touches : List ι)
    (work : Work ι κ ν) :
    List ι :=
  match work with
  | .commit page _ => touches ++ [page]
  | .ensure page _ =>
      if page ∈ recent capacity touches then
        touches
      else
        touches ++ [page]
  | .clear => []
  | _ => touches

/-- Whether a store of the page is placed anew, or all stores are dropped. -/
def resets (page : ι) (work : Work ι κ ν) : Bool :=
  match work with
  | .commit other _ => other = page
  | .clear => true
  | _ => false

/-- What a piece of work makes of a store of the page that is retained. -/
def edit (page : ι) (store : Store κ ν) (work : Work ι κ ν) : Store κ ν :=
  match work with
  | .adjust other change => if other = page then change store else store
  | .ensure other change => if other = page then change store else store
  | _ => store

/-- The store is placed for the page in a table. -/
def Places
    (page : ι)
    (store : Store κ ν)
    (table : Table ι κ ν)
    (work : Work ι κ ν) :
    Prop :=
  work = .commit page store ∨
    ∃ change,
      work = .ensure page change ∧ page ∉ table.pages ∧ store = change {}

end Work

/-- The touches of a run since its last clearing. -/
def touches (capacity : Nat) (works : List (Work ι κ ν)) : List ι :=
  works.foldl (Work.touch capacity) []

/-- The page is retained, and its store is not reset, all through some work. -/
def Stays (page : ι) (table : Table ι κ ν) (works : List (Work ι κ ν)) : Prop :=
  match works with
  | [] => page ∈ table.pages
  | work :: rest =>
      page ∈ table.pages ∧
        work.resets page = false ∧
        Stays page (table.perform work).1 rest

/--
The store was placed for the page, which has stayed since, and then it was edited
by what followed.
-/
def Holds
    (fresh : Table ι κ ν)
    (works : List (Work ι κ ν))
    (page : ι)
    (store : Store κ ν) :
    Prop :=
  ∃ earlier placing later placed,
    works = earlier ++ placing :: later ∧
      placing.Places page placed (fresh.after earlier) ∧
      Stays page ((fresh.after earlier).perform placing).1 later ∧
      store = later.foldl (Work.edit page) placed

/-! ## One piece of work -/

theorem capacity_perform (work : Work ι κ ν) (table : Table ι κ ν) :
    (table.perform work).1.capacity = table.capacity := by
  cases work with
  | ensure page change =>
      simp only [perform, adjust, ensure]
      split <;> rfl
  | _ =>
      rfl

theorem Sound.perform
    {table : Table ι κ ν}
    (sound : table.Sound)
    (work : Work ι κ ν) :
    (table.perform work).1.Sound := by
  cases work with
  | commit page store =>
      exact sound.commit page store
  | get page =>
      exact sound
  | contains page =>
      exact sound
  | adjust page change =>
      exact sound.adjust page change
  | ensure page change =>
      exact (sound.ensure page).adjust page change
  | clear =>
      exact Sound.clear table

/-- The pages after a piece of work are the recent ones with its touch. -/
theorem pages_perform
    {table : Table ι κ ν}
    (sound : table.Sound)
    {touches : List ι}
    (pages : table.pages = recent table.capacity touches)
    (work : Work ι κ ν) :
    (table.perform work).1.pages =
      recent table.capacity (work.touch table.capacity touches) := by
  cases work with
  | commit page store =>
      simp only [perform, Work.touch]
      rw [pages_commit sound, pages, recent_append]
  | get page =>
      exact pages
  | contains page =>
      exact pages
  | adjust page change =>
      simp only [perform, Work.touch, pages_adjust]
      exact pages
  | ensure page change =>
      simp only [perform, Work.touch, pages_adjust]
      rw [pages_ensure sound, ← pages]
      split
      · exact pages
      · rw [pages, recent_append]
  | clear =>
      exact (recent_of_nodup List.nodup_nil (Nat.zero_le _)).symm

/-- A store is created by committing an empty one. -/
theorem ensure_eq_commit
    {page : ι}
    {table : Table ι κ ν}
    (absent : page ∉ table.pages) :
    table.ensure page = table.commit page {} := by
  have notContained : ¬ table.contains page = true := by
    rwa [contains_iff_mem_pages]
  simp [ensure, commit, notContained]

/-- The placed store is what the table has for the page. -/
theorem get?_of_places
    {table : Table ι κ ν}
    (sound : table.Sound)
    {page : ι}
    {store : Store κ ν}
    {work : Work ι κ ν}
    (places : work.Places page store table) :
    (table.perform work).1.get? page = some store := by
  rcases places with rfl | ⟨change, rfl, absent, rfl⟩
  · exact get?_commit_self sound page store
  · simp only [perform, get?_adjust_self, ensure_eq_commit absent,
      get?_commit_self sound]
    rfl

/-- A store that stays where it is gets edited at most. -/
theorem get?_of_stays
    {table : Table ι κ ν}
    (sound : table.Sound)
    {page : ι}
    {work : Work ι κ ν}
    (retained : page ∈ table.pages)
    (keeps : work.resets page = false)
    (stays : page ∈ (table.perform work).1.pages) :
    (table.perform work).1.get? page =
      (table.get? page).map fun store => work.edit page store := by
  cases work with
  | commit other store =>
      have different : page ≠ other := by
        rintro rfl
        simp [Work.resets] at keeps
      simp only [Work.edit, Option.map_id_fun', id_eq]
      exact get?_commit_of_ne sound store different stays
  | get other =>
      simp [perform, Work.edit]
  | contains other =>
      simp [perform, Work.edit]
  | adjust other change =>
      by_cases same : other = page
      · subst same
        simp [perform, Work.edit, get?_adjust_self]
      · simp [perform, Work.edit, get?_adjust_of_ne (Ne.symm same), same]
  | ensure other change =>
      by_cases same : other = page
      · subst same
        simp [perform, Work.edit, get?_adjust_self, ensure_of_mem retained]
      · have staysEnsured : page ∈ (table.ensure other).1.pages := by
          simpa [perform] using stays
        have ensured : (table.ensure other).1.get? page = table.get? page := by
          by_cases known : other ∈ table.pages
          · rw [ensure_of_mem known]
          · rw [ensure_eq_commit known] at staysEnsured ⊢
            exact get?_commit_of_ne sound {} (Ne.symm same) staysEnsured
        simp [perform, Work.edit, get?_adjust_of_ne (Ne.symm same), same, ensured]
  | clear =>
      cases keeps

/-- A page comes into the table, or stays after a reset, by a store placed for it. -/
theorem places_of_mem
    {table : Table ι κ ν}
    (sound : table.Sound)
    {page : ι}
    {work : Work ι κ ν}
    (reset : ¬ (page ∈ table.pages ∧ work.resets page = false))
    (retained : page ∈ (table.perform work).1.pages) :
    ∃ store, work.Places page store table := by
  have touched {other : ι} {store : Store κ ν} (different : page ≠ other)
      (stays : page ∈ (table.commit other store).1.pages) :
      page ∈ table.pages := by
    rw [pages_commit sound] at stays
    rcases List.mem_append.mp (mem_of_mem_recent stays) with kept | isOther
    · exact kept
    · exact absurd (List.mem_singleton.mp isOther) different
  cases work with
  | commit other store =>
      by_cases same : page = other
      · subst same
        exact ⟨store, .inl rfl⟩
      · exact absurd ⟨touched same retained, by simp [Work.resets, Ne.symm same]⟩
          reset
  | get other =>
      exact absurd ⟨retained, rfl⟩ reset
  | contains other =>
      exact absurd ⟨retained, rfl⟩ reset
  | adjust other change =>
      simp only [perform, pages_adjust] at retained
      exact absurd ⟨retained, rfl⟩ reset
  | ensure other change =>
      have absent : page ∉ table.pages := fun known => reset ⟨known, rfl⟩
      simp only [perform, pages_adjust] at retained
      by_cases known : other ∈ table.pages
      · rw [ensure_of_mem known] at retained
        exact absurd retained absent
      · rw [ensure_eq_commit known] at retained
        by_cases same : page = other
        · subst same
          exact ⟨change {}, .inr ⟨change, rfl, known, rfl⟩⟩
        · exact absurd (touched same retained) absent
  | clear =>
      cases retained

/-! ## Runs -/

theorem Sound.after
    {table : Table ι κ ν}
    (sound : table.Sound)
    (works : List (Work ι κ ν)) :
    (table.after works).Sound := by
  induction works generalizing table with
  | nil =>
      exact sound
  | cons work rest inductionHypothesis =>
      exact inductionHypothesis (sound.perform work)

theorem capacity_after (works : List (Work ι κ ν)) (table : Table ι κ ν) :
    (table.after works).capacity = table.capacity := by
  induction works generalizing table with
  | nil =>
      rfl
  | cons work rest inductionHypothesis =>
      exact (inductionHypothesis _).trans (capacity_perform work table)

/-- The pages after a run are the recent ones among its touches. -/
theorem pages_after
    {table : Table ι κ ν}
    (sound : table.Sound)
    (untouched : table.pages = [])
    (works : List (Work ι κ ν)) :
    (table.after works).pages =
      recent table.capacity (touches table.capacity works) := by
  induction works using List.reverseRecOn with
  | nil =>
      rw [touches, List.foldl_nil]
      exact untouched.trans (recent_of_nodup List.nodup_nil (Nat.zero_le _)).symm
  | append_singleton works work inductionHypothesis =>
      have capacity := capacity_after works table
      rw [← capacity] at inductionHypothesis
      have next := pages_perform (sound.after works) inductionHypothesis work
      rw [after_concat, next, capacity, touches, touches, List.foldl_concat]

theorem stays_concat_iff
    {page : ι}
    {table : Table ι κ ν}
    {works : List (Work ι κ ν)}
    {work : Work ι κ ν} :
    Stays page table (works ++ [work]) ↔
      Stays page table works ∧
        work.resets page = false ∧
        page ∈ (table.after (works ++ [work])).pages := by
  induction works generalizing table with
  | nil =>
      exact and_congr_right fun _ => Iff.rfl
  | cons first rest inductionHypothesis =>
      simp only [List.cons_append, Stays, inductionHypothesis, and_assoc]
      rfl

/-- A store that stays all through some work has all its edits in the end. -/
theorem get?_after_of_stays
    {table : Table ι κ ν}
    (sound : table.Sound)
    {page : ι}
    {store : Store κ ν}
    (found : table.get? page = some store)
    {works : List (Work ι κ ν)}
    (stays : Stays page table works) :
    (table.after works).get? page =
      some (works.foldl (Work.edit page) store) := by
  induction works generalizing table store with
  | nil =>
      exact found
  | cons work rest inductionHypothesis =>
      obtain ⟨retained, keeps, later⟩ := stays
      have next : page ∈ (table.perform work).1.pages := by
        cases rest with
        | nil => exact later
        | cons _ _ => exact later.1
      have edited := get?_of_stays sound retained keeps next
      rw [found] at edited
      exact inductionHypothesis (sound.perform work) edited later

/-- A table has for a page what was placed for it last, with the edits made since. -/
theorem get?_after_iff
    {fresh : Table ι κ ν}
    (sound : fresh.Sound)
    (untouched : fresh.pages = [])
    (works : List (Work ι κ ν))
    (page : ι)
    (store : Store κ ν) :
    (fresh.after works).get? page = some store ↔
      Holds fresh works page store := by
  constructor
  · intro found
    induction works using List.reverseRecOn generalizing store with
    | nil =>
        have member := mem_pages_of_get? found
        rw [after, List.foldl_nil, untouched] at member
        cases member
    | append_singleton works work inductionHypothesis =>
        have soundBefore := sound.after works
        have retained := mem_pages_of_get? found
        rw [after_concat] at found retained
        by_cases stays :
            page ∈ (fresh.after works).pages ∧ work.resets page = false
        · rw [get?_of_stays soundBefore stays.1 stays.2 retained,
            Option.map_eq_some_iff] at found
          obtain ⟨before, foundBefore, rfl⟩ := found
          obtain ⟨earlier, placing, later, placed, rfl, places, staysSince, rfl⟩ :=
            inductionHypothesis before foundBefore
          refine ⟨earlier, placing, later ++ [work], placed, by simp, places, ?_,
            by simp⟩
          refine stays_concat_iff.mpr ⟨staysSince, stays.2, ?_⟩
          rw [after_concat]
          simpa [after] using retained
        · obtain ⟨placed, places⟩ := places_of_mem soundBefore stays retained
          have isPlaced := get?_of_places soundBefore places
          rw [found] at isPlaced
          cases isPlaced
          exact ⟨works, work, [], store, rfl, places, retained, rfl⟩
  · rintro ⟨earlier, placing, later, placed, rfl, places, stays, rfl⟩
    have soundBefore := sound.after earlier
    have isPlaced := get?_of_places soundBefore places
    have edited :=
      get?_after_of_stays (soundBefore.perform placing) isPlaced stays
    simpa [after] using edited

/-! ## What leaves -/

/-- The least recently touched page leaves if there is no room for another one. -/
structure MakesRoom
    (page : ι)
    (table : Table ι κ ν)
    (departures : List (Departure ι)) :
    Prop where
  full :
    table.pages.length = table.capacity →
    ∃ front,
      table.pages.head? = some front ∧
        front ≠ page ∧
        departures = [⟨.evict, front⟩]
  free :
    table.pages.length < table.capacity →
    departures = []

/-- A commit for a page that is retained replaces its store, and nothing leaves. -/
theorem departures_commit_of_mem
    {table : Table ι κ ν}
    (sound : table.Sound)
    {page : ι}
    (retained : page ∈ table.pages)
    (store : Store κ ν) :
    (table.commit page store).2 = [⟨.replace, page⟩] := by
  have contained := (contains_iff_mem_pages page table).mpr retained
  let bound : Table ι κ ν :=
    { table with entries := Assoc.bind page store table.entries }
  have pages : bound.pages = table.pages.filter (· ≠ page) ++ [page] :=
    Assoc.keys_bind page store table.entries
  have fits : bound.size ≤ bound.capacity := by
    have fewer : (table.pages.filter (· ≠ page)).length < table.pages.length :=
      List.length_filter_lt_length_iff_exists.mpr ⟨page, retained, by simp⟩
    have within := sound.within
    rw [← length_pages, pages, List.length_append, List.length_singleton]
    exact Nat.le_trans fewer within
  have trimmed : bound.trim = (bound, []) := trim_of_size_le fits
  simp only [commit, contained, if_true]
  rw [trimmed]
  rfl

/-- A commit for another page makes room for it, and nothing else leaves. -/
theorem makesRoom_commit
    {table : Table ι κ ν}
    {page : ι}
    (absent : page ∉ table.pages)
    (store : Store κ ν) :
    table.MakesRoom page (table.commit page store).2 := by
  have notContained : ¬ table.contains page = true := by
    rwa [contains_iff_mem_pages]
  have bound :
      Assoc.bind page store table.entries = table.entries ++ [(page, store)] := by
    rw [Assoc.bind, Assoc.erase_of_not_mem absent]
  have left :
      (table.commit page store).2 =
        (Assoc.keys
            ((table.entries ++ [(page, store)]).take
              (table.pages.length + 1 - table.capacity))).map
          (Departure.mk .evict) := by
    simp [commit, notContained, trim, bound, length_pages, size]
  constructor
  · intro full
    have positive := table.capacity_pos
    rw [left, full, Nat.add_sub_cancel_left]
    cases shape : table.entries with
    | nil =>
        simp [pages, Assoc.keys, shape] at full
        omega
    | cons entry rest =>
        refine ⟨entry.1, by simp [pages, Assoc.keys, shape], ?_, rfl⟩
        exact Assoc.ne_of_mem_of_not_mem absent (shape ▸ List.mem_cons_self)
  · intro free
    rw [left, Nat.sub_eq_zero_of_le free]
    rfl

/-! ## Step by step -/

/-- What would be found in disorder by work that is done step by step. -/
inductive Disorder where
  /-- A page that is put behind all others is there already. -/
  | doubled
  /-- There is more than the capacity allows, and nothing to take from the front. -/
  | exhausted
  /-- There is more than the capacity allows after everything left that had to. -/
  | overfull
  /-- The store that was created is not there. -/
  | missing
  /-- Something is there after everything was taken from the front. -/
  | remaining
  deriving Repr, DecidableEq

/-- Put a store behind all others. -/
def pushBack
    (page : ι)
    (store : Store κ ν)
    (entries : Assoc ι (Store κ ν)) :
    Except Disorder (Assoc ι (Store κ ν)) :=
  if Assoc.contains page entries then
    .error .doubled
  else
    .ok (entries ++ [(page, store)])

omit [DecidableEq ι] in
/-- Take stores from the front for as long as there are too many. -/
def popExcess
    (capacity : Nat)
    (entries : Assoc ι (Store κ ν)) :
    Except Disorder (Assoc ι (Store κ ν) × List (Departure ι)) :=
  if entries.length > capacity then
    match entries with
    | [] => .error .exhausted
    | (page, _) :: rest => do
        let (kept, departures) ← popExcess capacity rest
        return (kept, ⟨.evict, page⟩ :: departures)
  else
    .ok (entries, [])

omit [DecidableEq ι] in
/-- Evict what exceeds the capacity, and look whether that was enough. -/
def evict
    (capacity : Nat)
    (entries : Assoc ι (Store κ ν)) :
    Except Disorder (Assoc ι (Store κ ν) × List (Departure ι)) := do
  let (kept, departures) ← popExcess capacity entries
  if kept.length ≤ capacity then
    return (kept, departures)
  else
    throw .overfull

/-- Put a store behind all others, and evict what there is no more room for. -/
def takeIn
    (capacity : Nat)
    (page : ι)
    (store : Store κ ν)
    (entries : Assoc ι (Store κ ν)) :
    Except Disorder (Assoc ι (Store κ ν) × List (Departure ι)) := do
  let pushed ← pushBack page store entries
  evict capacity pushed

omit [DecidableEq ι] in
/-- Take everything from the front: what is there then, and what left. -/
def popAll
    (entries : Assoc ι (Store κ ν)) :
    Assoc ι (Store κ ν) × List (Departure ι) :=
  match entries with
  | [] => ([], [])
  | (page, _) :: rest =>
      let (remaining, departures) := popAll rest
      (remaining, ⟨.clear, page⟩ :: departures)

/-- Do one piece of work step by step. -/
def performSteps
    (work : Work ι κ ν)
    (table : Table ι κ ν) :
    Except Disorder (Table ι κ ν × List (Departure ι)) := do
  match work with
  | .commit page store =>
      let replaced :=
        if table.contains page then [Departure.mk .replace page] else []
      let (entries, evicted) ←
        takeIn table.capacity page store (Assoc.erase page table.entries)
      return ({ table with entries := entries }, replaced ++ evicted)
  | .get _ => return (table, [])
  | .contains _ => return (table, [])
  | .adjust page change => return (table.adjust page change, [])
  | .ensure page change =>
      let (entries, departures) ←
        if table.contains page then
          pure (table.entries, [])
        else
          takeIn table.capacity page {} table.entries
      if Assoc.contains page entries then
        return (adjust page change { table with entries := entries }, departures)
      else
        throw .missing
  | .clear =>
      let (remaining, departures) := popAll table.entries
      if remaining.isEmpty then
        return ({ table with entries := remaining }, departures)
      else
        throw .remaining

omit [DecidableEq ι] in
/-- The stores in front leave until there are no more than the capacity allows. -/
theorem popExcess_eq (capacity : Nat) (entries : Assoc ι (Store κ ν)) :
    popExcess capacity entries =
      .ok
        (entries.drop (entries.length - capacity),
          (Assoc.keys (entries.take (entries.length - capacity))).map
            (Departure.mk .evict)) := by
  induction entries with
  | nil =>
      simp [popExcess, Assoc.keys]
  | cons entry rest inductionHypothesis =>
      by_cases tooMany : (entry :: rest).length > capacity
      · have excess :
            (entry :: rest).length - capacity = rest.length - capacity + 1 := by
          rw [List.length_cons] at tooMany ⊢
          omega
        rw [popExcess, if_pos tooMany, excess]
        simp only [inductionHypothesis]
        rfl
      · have fits : (entry :: rest).length - capacity = 0 := by omega
        rw [popExcess, if_neg tooMany, fits]
        rfl

omit [DecidableEq ι] in
/-- Evicting step by step trims the table. -/
theorem evict_eq (table : Table ι κ ν) :
    evict table.capacity table.entries =
      .ok (table.trim.1.entries, table.trim.2) := by
  have enough : table.trim.1.entries.length ≤ table.capacity :=
    size_trim_le table
  simp only [evict, popExcess_eq]
  exact if_pos enough

/-- A page that was removed before is taken in like one that is bound. -/
theorem takeIn_erase
    (page : ι)
    (store : Store κ ν)
    (table : Table ι κ ν) :
    let bound : Table ι κ ν :=
      { table with entries := Assoc.bind page store table.entries }
    takeIn table.capacity page store (Assoc.erase page table.entries) =
      .ok (bound.trim.1.entries, bound.trim.2) := by
  intro bound
  have erased : ¬ Assoc.contains page (Assoc.erase page table.entries) = true := by
    simp [Assoc.contains_iff_mem_keys, Assoc.keys_erase]
  have pushed :
      pushBack page store (Assoc.erase page table.entries) = .ok bound.entries :=
    if_neg erased
  rw [takeIn, pushed]
  exact evict_eq bound

omit [DecidableEq ι] in
theorem popAll_eq (entries : Assoc ι (Store κ ν)) :
    popAll entries = ([], (Assoc.keys entries).map (Departure.mk .clear)) := by
  induction entries with
  | nil =>
      rfl
  | cons entry rest inductionHypothesis =>
      simp [popAll, inductionHypothesis, Assoc.keys]

/-- Work that is done step by step comes to its end, and comes to the same. -/
theorem performSteps_eq
    {table : Table ι κ ν}
    (sound : table.Sound)
    (work : Work ι κ ν) :
    table.performSteps work = .ok (table.perform work) := by
  cases work with
  | commit page store =>
      simp only [performSteps, takeIn_erase]
      rfl
  | get page =>
      rfl
  | contains page =>
      rfl
  | adjust page change =>
      rfl
  | ensure page change =>
      by_cases retained : page ∈ table.pages
      · have contained := (contains_iff_mem_pages page table).mpr retained
        simp only [performSteps, contained, if_true, perform,
          ensure_of_mem retained]
        exact if_pos contained
      · have notContained : table.contains page = false := by
          rwa [← Bool.not_eq_true, contains_iff_mem_pages]
        have created : (table.commit page {}).1.contains page = true :=
          (contains_iff_mem_pages page _).mpr
            (mem_pages_of_get? (get?_commit_self sound page {}))
        have taken := takeIn_erase page {} table
        rw [Assoc.erase_of_not_mem retained] at taken
        have nothingReplaced :
            table.commit page {} =
              trim { table with entries := Assoc.bind page {} table.entries } := by
          simp [commit, notContained]
        rw [nothingReplaced] at created
        simp only [performSteps, notContained, Bool.false_eq_true, if_false, taken,
          perform, ensure_eq_commit retained, nothingReplaced]
        exact if_pos created
  | clear =>
      simp only [performSteps, popAll_eq]
      rfl

end Table

/-! ## Tables on the bench -/

/-- The piece of work that a command on the bench asks for, if it asks for one. -/
def Bench.TableCommand.work?
    (command : Bench.TableCommand) :
    Option (Table.Work PageId String String) :=
  match command with
  | .unreadable => none
  | .commit page bindings =>
      some (.commit page ((Bench.Edit.mk bindings []).apply {}))
  | .get page => some (.get page)
  | .adjust page edit => some (.adjust page edit.apply)
  | .ensure page edit => some (.ensure page edit.apply)
  | .contains page => some (.contains page)
  | .clear => some .clear
  | .isEmpty => none
  | .capacity => none

namespace Table

/-- An edit on the bench adjusts the table, if there is anything to edit. -/
theorem editPage_eq
    (page : PageId)
    (edit : Bench.Edit)
    (table : Bench.TableBench) :
    (Bench.TableBench.editPage page edit table).2 =
      Table.adjust page edit.apply table := by
  simp only [Bench.TableBench.editPage]
  cases found : Table.get? page table with
  | some store =>
      rfl
  | none =>
      have absent := (get?_eq_none_iff page table).mp found
      have same := Assoc.adjust_of_not_mem absent edit.apply
      simp only [adjust, same]

/-- Commands on the bench do pieces of work, or leave the table alone. -/
theorem perform_bench
    (table : Bench.TableBench)
    (command : Bench.TableCommand) :
    (Bench.TableBench.perform table command).2 =
      command.work?.elim (table, []) fun work => Table.perform work table := by
  cases command with
  | get page =>
      simp only [Bench.TableBench.perform]
      split <;> rfl
  | adjust page edit =>
      have edited := editPage_eq page edit table
      simp only [Bench.TableBench.perform, edited]
      rfl
  | ensure page edit =>
      have edited := editPage_eq page edit (Table.ensure page table).1
      simp only [Bench.TableBench.perform, edited]
      rfl
  | _ =>
      rfl

variable {ι κ ν : Type} [DecidableEq ι]

/--
A table is a map in recency order.  After any work on a new one its pages are
distinct, and in order the last ones of those that were touched since the last
clearing, as many as the capacity allows; a commit touches its page, and so does
getting a store to edit if that has to be created.  For each of them, and for no
other page, the table has the store that was placed for it last, with the edits
made since.

A commit announces that it replaces the store of its page, if there is one;
otherwise, and when a store is created, the least recently touched page leaves if
there is no room.  Clearing announces all pages in order.

The same work done step by step never finds the pages in disorder: it puts no page
behind the others that is there already, has something to evict whenever it has to
and nothing too many afterwards, and finds the store that it created.  And this is
what happens to the tables on the bench.
-/
theorem table_is_map_in_recency_order
    {capacity : Nat}
    (positive : 0 < capacity) :
    ∃ fresh : Table ι κ ν,
      Table.empty? capacity = some fresh ∧
      ∀ works : List (Work ι κ ν),
        let table := fresh.after works
        (table.pages.Nodup ∧
          table.pages.length ≤ capacity ∧
          table.pages = recent capacity (touches capacity works)) ∧
        (∀ page, (table.get? page).isSome ↔ page ∈ table.pages) ∧
        (∀ page store,
          table.get? page = some store ↔ Holds fresh works page store) ∧
        (∀ page store,
          (page ∈ table.pages →
            (table.commit page store).2 = [⟨.replace, page⟩]) ∧
          (page ∉ table.pages →
            table.MakesRoom page (table.commit page store).2)) ∧
        (∀ page,
          (page ∈ table.pages → table.ensure page = (table, [])) ∧
          (page ∉ table.pages →
            table.MakesRoom page (table.ensure page).2)) ∧
        (table.clear.1.pages = [] ∧
          table.clear.2 = table.pages.map (Departure.mk .clear)) ∧
        (∀ work, table.performSteps work = .ok (table.perform work)) ∧
        ∀ (bench : Bench.TableBench) (command : Bench.TableCommand),
          (Bench.TableBench.perform bench command).2 =
            command.work?.elim (bench, []) fun work =>
              Table.perform work bench := by
  refine ⟨⟨[], capacity, positive⟩, dif_pos positive, fun works => ?_⟩
  have made :
      Table.empty? capacity = some (⟨[], capacity, positive⟩ : Table ι κ ν) :=
    dif_pos positive
  obtain ⟨freshSound, untouched, _⟩ := sound_of_empty? made
  have sound := freshSound.after works
  have pages := pages_after freshSound untouched works
  intro table
  refine ⟨⟨sound.distinct, ?_, pages⟩, ?_, ?_, ?_, ?_, ⟨rfl, rfl⟩,
    performSteps_eq sound, perform_bench⟩
  · rw [pages]
    exact length_recent_le _ _
  · exact fun page => contains_iff_mem_pages page table
  · exact get?_after_iff freshSound untouched works
  · exact fun page store =>
      ⟨fun retained => departures_commit_of_mem sound retained store,
        fun absent => makesRoom_commit absent store⟩
  · refine fun page => ⟨ensure_of_mem, fun absent => ?_⟩
    rw [ensure_eq_commit absent]
    exact makesRoom_commit absent {}

/--
With room for one page, a store is committed and edited in place, and getting it to
edit touches nothing.  Another page drops it, so it is created anew when it comes
back, which is a touch, and what was written before does not come back with it.
-/
theorem table_is_map_in_recency_order_of_one :
    let write (value : Nat) : Store Nat Nat → Store Nat Nat :=
      Store.insert 0 value
    let works : List (Work Nat Nat Nat) :=
      [.commit 1 {}, .adjust 1 (write 5), .ensure 1 (write 6), .commit 2 {},
        .get 2, .ensure 1 id, .contains 2, .adjust 2 (write 7),
        .ensure 1 (Store.insert 3 8)]
    ∃ fresh : Table Nat Nat Nat,
      (0 < 1 ∧ Table.empty? 1 = some fresh) ∧
        touches 1 works = [1, 2, 1] ∧
        (fresh.after works).pages = [1] ∧
        Holds fresh works 1 ⟨[(3, 8)], false⟩ ∧
        ((fresh.after works).commit 1 {}).2 = [⟨.replace, 1⟩] ∧
        ((fresh.after works).commit 2 {}).2 = [⟨.evict, 1⟩] := by
  intro write works
  obtain ⟨fresh, made, laws⟩ :=
    table_is_map_in_recency_order (ι := Nat) (κ := Nat) (ν := Nat) Nat.one_pos
  have isFresh : fresh = ⟨[], 1, Nat.one_pos⟩ := (Option.some.inj made).symm
  obtain ⟨⟨_, _, pages⟩, _, stores, commits, _⟩ := laws works
  have touched : touches 1 works = [1, 2, 1] := by decide +kernel
  have only : (fresh.after works).pages = [1] := by
    rw [pages, touched]
    decide +kernel
  have found : (fresh.after works).get? 1 = some ⟨[(3, 8)], false⟩ := by
    rw [isFresh]
    decide +kernel
  have full : (fresh.after works).pages.length = (fresh.after works).capacity := by
    rw [isFresh]
    decide +kernel
  obtain ⟨front, isFront, _, left⟩ :=
    ((commits 2 {}).2 (by simp [only])).full full
  rw [only] at isFront
  cases isFront
  exact ⟨fresh, ⟨Nat.one_pos, made⟩, touched, only, (stores 1 _).mp found,
    (commits 1 {}).1 (by simp [only]), left⟩

end Table

end NavState
