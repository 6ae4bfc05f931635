import NavState.Proofs.Capacity
import NavState.Proofs.Reports

namespace NavState

/-!
# Touches of a run

A run touches a page by committing a store for it, or by creating one with a
write that finds the table empty.  Since the last clearing a store is created
once at most, before anything is committed, so the retained pages are the last
distinct ones of what was created and what was committed after it.  The page
touched last is the current one, which is therefore the last to be evicted.
-/

section Recent

variable {ι : Type} [DecidableEq ι]

/-- Nothing is recent only if nothing was touched. -/
theorem eq_nil_of_recent_eq_nil
    {capacity : Nat}
    (positive : 0 < capacity)
    {touches : List ι}
    (nothing : recent capacity touches = []) :
    touches = [] := by
  rcases List.eq_nil_or_concat touches with rfl | ⟨front, page, rfl⟩
  · rfl
  · have last := getLast?_recent_concat positive front page
    rw [← List.concat_eq_append, nothing] at last
    cases last

end Recent

/-! ## Calls of a run -/

namespace Cache

variable {ι κ ν : Type} [DecidableEq ι] [DecidableEq κ]

/-- The calls of a run, each with the cache that its turn finds. -/
def calls
    (operations : List (Operation ι κ ν))
    (cache : Cache ι κ ν) :
    List (Call ι κ ν) :=
  match operations with
  | [] => []
  | operation :: rest =>
      ⟨operation, cache⟩ :: (cache.perform operation).cache.calls rest

/-- The last call of a run finds the cache that the others left. -/
theorem calls_concat
    (operations : List (Operation ι κ ν))
    (operation : Operation ι κ ν)
    (cache : Cache ι κ ν) :
    cache.calls (operations ++ [operation]) =
      cache.calls operations ++ [⟨operation, cache.after operations⟩] := by
  induction operations generalizing cache with
  | nil =>
      rfl
  | cons first rest inductionHypothesis =>
      simp only [List.cons_append, calls, after_cons, inductionHypothesis]

theorem after_concat
    (operations : List (Operation ι κ ν))
    (operation : Operation ι κ ν)
    (cache : Cache ι κ ν) :
    cache.after (operations ++ [operation]) =
      ((cache.after operations).perform operation).cache :=
  after_append operations [operation] cache

end Cache

namespace Call

variable {ι κ ν : Type} [DecidableEq ι] [DecidableEq κ]

omit [DecidableEq ι] [DecidableEq κ] in
/-- Whether the call clears the cache. -/
def clears (call : Call ι κ ν) : Bool :=
  match call.operation with
  | .clear _ => true
  | _ => false

/-- Everything that a call can do to the committed stores. -/
inductive Placement (call : Call ι κ ν) : Prop where
  /-- Stores are written to at most. -/
  | leaves
      (stays : call.clears = false)
      (uncommitted : call.committed? = none)
      (uncreated : call.created? = none)
      (pages : call.turn.cache.table.pages = call.found.table.pages)
      (flags :
        ∀ page,
          (call.turn.cache.table.get? page).map Store.historic =
            (call.found.table.get? page).map Store.historic)
  /-- A store is created in an empty table. -/
  | creates
      (stays : call.clears = false)
      (uncommitted : call.committed? = none)
      (created : call.created? = some call.found.current)
      (empty : call.found.table.pages = [])
      (pages : call.turn.cache.table.pages = [call.found.current])
      (flag :
        (call.turn.cache.table.get? call.found.current).map Store.historic =
          some false)
  | commits
      (pending : Pending κ ν)
      (observed : ι)
      (settles :
        call.operation = .settle pending.generation .succeeded observed)
      (found : call.found.pending = some pending)
      (committed : call.committed? = some observed)
      (made :
        call.turn.cache.table =
          (call.found.table.commit observed pending.finished).1)
  | clears
      (clears : call.clears = true)
      (pages : call.turn.cache.table.pages = [])

omit [DecidableEq κ] in
/-- A call that commits the pending store creates none, and clears nothing. -/
theorem created?_of_committed
    {call : Call ι κ ν}
    {page : ι}
    (committed : call.committed? = some page) :
    call.created? = none ∧ call.clears = false := by
  obtain ⟨operation, cache⟩ := call
  cases operation with
  | settle generation outcome observed =>
      exact ⟨rfl, rfl⟩
  | _ =>
      cases committed

theorem placement_of_set
    {cache : Cache ι κ ν}
    (sound : cache.Sound)
    (idle : cache.pending = none)
    (key : κ)
    (value : ν) :
    Placement ⟨.access (.set key value), cache⟩ := by
  have turned :
      (cache.perform (.access (.set key value))).cache.table =
        (cache.table.ensure cache.current).1.adjust cache.current
          (Store.insert key value) := by
    simp [Cache.perform, Cache.take, Turn.answering, Cache.set, idle]
  by_cases retained : cache.current ∈ cache.table.pages
  · have contained := (Table.contains_iff_mem_pages _ _).mpr retained
    have ensured : (cache.table.ensure cache.current).1 = cache.table := by
      rw [Table.ensure_of_mem retained]
    refine .leaves rfl rfl ?_ ?_ ?_
    · simp [created?, idle, Cache.retains, contained]
    · simp [turn, turned, ensured]
    · intro page
      simp only [turn, turned, ensured]
      by_cases same : page = cache.current
      · rw [same, Table.get?_adjust_self, Option.map_map]
        rfl
      · rw [Table.get?_adjust_of_ne same]
  · have empty := sound.pages_eq_nil retained
    have ensured := Table.ensure_of_pages_eq_nil empty cache.current
    have notContained : cache.table.contains cache.current = false := by
      rw [← Bool.not_eq_true, Table.contains_iff_mem_pages]
      exact retained
    refine .creates rfl rfl ?_ empty ?_ ?_
    · simp [created?, idle, Cache.retains, notContained]
    · simp only [turn, turned, ensured, Table.pages_adjust]
      rfl
    · simp only [turn, turned, ensured, Table.get?_adjust_self, Option.map_map]
      simp [Table.get?, Assoc.find?]

theorem placement_of_delete
    {cache : Cache ι κ ν}
    (idle : cache.pending = none)
    (key : κ) :
    Placement ⟨.access (.delete key), cache⟩ := by
  have turned :
      (cache.perform (.access (.delete key))).cache.table =
        cache.table.adjust cache.current (Store.erase key) := by
    simp [Cache.perform, Cache.take, Turn.answering, Cache.delete,
      Cache.adjustTarget, idle]
  refine .leaves rfl rfl rfl (by simp [turn, turned]) ?_
  intro page
  simp only [turn, turned]
  by_cases same : page = cache.current
  · rw [same, Table.get?_adjust_self, Option.map_map]
    rfl
  · rw [Table.get?_adjust_of_ne same]

/-- A call that does not change the table leaves all stores where they are. -/
theorem placement_of_same
    {call : Call ι κ ν}
    (stays : call.clears = false)
    (uncommitted : call.committed? = none)
    (uncreated : call.created? = none)
    (same : call.turn.cache.table = call.found.table) :
    call.Placement :=
  .leaves stays uncommitted uncreated (by rw [same]) (by simp [same])

/-- Every call does one of these to the committed stores. -/
theorem placement_of_sound
    {call : Call ι κ ν}
    (sound : call.found.Sound) :
    call.Placement := by
  obtain ⟨operation, cache⟩ := call
  cases Cache.effect_perform operation cache with
  | edits reached pending isAccess found _ made =>
      subst isAccess
      refine placement_of_same rfl rfl ?_ (by rw [turn, made])
      simp [created?, found]
  | reads reached isAccess idle reading _ same =>
      subst isAccess
      refine placement_of_same rfl rfl ?_ (by rw [turn, same])
      cases reached <;> first | rfl | cases reading
  | sets key value isAccess idle =>
      subst isAccess
      exact placement_of_set sound idle key value
  | deletes key isAccess idle =>
      subst isAccess
      exact placement_of_delete idle key
  | ignores attempt observed isAnnouncement _ _ same =>
      subst isAnnouncement
      exact placement_of_same rfl rfl rfl (by rw [turn, same])
  | accepts attempt observed isAnnouncement _ _ made =>
      subst isAnnouncement
      exact placement_of_same rfl rfl rfl (by rw [turn, made])
  | comesLate generation outcome observed isSettlement gone _ same =>
      subst isSettlement
      refine placement_of_same rfl ?_ rfl (by rw [turn, same])
      cases found : cache.pending with
      | none => cases outcome <;> simp [committed?, found]
      | some pending =>
          cases outcome <;> simp [committed?, found, gone pending found]
  | commits pending observed isSettlement found _ made =>
      subst isSettlement
      refine .commits pending observed rfl found ?_ (by rw [turn, made])
      simp [committed?, found]
  | drops pending outcome observed isSettlement found unsuccessful _ made =>
      subst isSettlement
      refine placement_of_same rfl ?_ rfl (by rw [turn, made])
      cases outcome with
      | succeeded => exact absurd rfl unsuccessful
      | _ => rfl
  | clears observed isClearing _ made =>
      subst isClearing
      refine .clears rfl ?_
      rw [turn, made]
      exact Table.pages_clear cache.table

end Call

/-! ## What was touched since the last clearing -/

section Touches

variable {ι κ ν : Type} [DecidableEq ι] [DecidableEq κ]

omit [DecidableEq ι] [DecidableEq κ] in
/-- The calls after the last clearing. -/
def sinceClearing (calls : List (Call ι κ ν)) : List (Call ι κ ν) :=
  calls.rtakeWhile fun call => !call.clears

omit [DecidableEq κ] in
/-- The pages for which stores were created by a write. -/
def created (calls : List (Call ι κ ν)) : List ι :=
  calls.filterMap Call.created?

omit [DecidableEq ι] [DecidableEq κ] in
/-- The pages for which pending stores were committed. -/
def committed (calls : List (Call ι κ ν)) : List ι :=
  calls.filterMap Call.committed?

omit [DecidableEq ι] [DecidableEq κ] in
theorem sinceClearing_concat_of_clears
    {call : Call ι κ ν}
    (clears : call.clears = true)
    (calls : List (Call ι κ ν)) :
    sinceClearing (calls ++ [call]) = [] :=
  List.rtakeWhile_concat_neg _ _ _ (by simp [clears])

omit [DecidableEq ι] [DecidableEq κ] in
theorem sinceClearing_concat_of_stays
    {call : Call ι κ ν}
    (stays : call.clears = false)
    (calls : List (Call ι κ ν)) :
    sinceClearing (calls ++ [call]) = sinceClearing calls ++ [call] :=
  List.rtakeWhile_concat_pos _ _ _ (by simp [stays])

/--
The retained pages are the recent ones among those created and committed, of
which one at most was created.
-/
structure Touched (calls : List (Call ι κ ν)) (cache : Cache ι κ ν) : Prop where
  pages :
    cache.table.pages =
      recent cache.table.capacity (created calls ++ committed calls)
  once : (created calls).length ≤ 1

/-- One more call keeps the account of what was touched. -/
theorem Touched.concat
    {calls : List (Call ι κ ν)}
    {call : Call ι κ ν}
    (touched : Touched (sinceClearing calls) call.found)
    (sound : call.found.Sound) :
    Touched (sinceClearing (calls ++ [call])) call.turn.cache := by
  have capacity :
      call.turn.cache.table.capacity = call.found.table.capacity :=
    Cache.capacity_perform call.operation call.found
  have positive := call.found.table.capacity_pos
  cases Call.placement_of_sound sound with
  | leaves stays uncommitted uncreated pages =>
      rw [sinceClearing_concat_of_stays stays]
      have noMore :
          created (sinceClearing calls ++ [call]) =
              created (sinceClearing calls) ∧
            committed (sinceClearing calls ++ [call]) =
              committed (sinceClearing calls) := by
        simp [created, committed, uncreated, uncommitted]
      refine ⟨?_, ?_⟩
      · rw [pages, capacity, noMore.1, noMore.2]
        exact touched.pages
      · rw [noMore.1]
        exact touched.once
  | creates stays uncommitted isCreated empty pages =>
      rw [sinceClearing_concat_of_stays stays]
      -- Nothing has been touched yet, or the table would not be empty.
      have nothing :
          created (sinceClearing calls) ++ committed (sinceClearing calls) =
            [] :=
        eq_nil_of_recent_eq_nil positive (touched.pages.symm.trans empty)
      obtain ⟨noCreation, noCommit⟩ := List.append_eq_nil_iff.mp nothing
      have first :
          created (sinceClearing calls ++ [call]) = [call.found.current] ∧
            committed (sinceClearing calls ++ [call]) = [] := by
        rw [created, committed, List.filterMap_append, List.filterMap_append,
          ← created, ← committed, noCreation, noCommit]
        simp [isCreated, uncommitted]
      refine ⟨?_, by simp [first]⟩
      rw [pages, capacity, first.1, first.2]
      exact (recent_of_nodup (by simp) positive).symm
  | commits pending observed settles found isCommitted made =>
      obtain ⟨uncreated, stays⟩ := Call.created?_of_committed isCommitted
      rw [sinceClearing_concat_of_stays stays]
      have next :
          created (sinceClearing calls ++ [call]) =
              created (sinceClearing calls) ∧
            committed (sinceClearing calls ++ [call]) =
              committed (sinceClearing calls) ++ [observed] := by
        simp [created, committed, uncreated, isCommitted]
      refine ⟨?_, ?_⟩
      · rw [capacity, next.1, next.2, made, Table.pages_commit sound.table,
          touched.pages, recent_append, List.append_assoc]
      · rw [next.1]
        exact touched.once
  | clears clears pages =>
      rw [sinceClearing_concat_of_clears clears]
      refine ⟨?_, Nat.zero_le 1⟩
      rw [pages]
      exact (recent_of_nodup List.nodup_nil (Nat.zero_le _)).symm

/-- After every run the retained pages are the recent ones since the clearing. -/
theorem touched_after
    {fresh : Cache ι κ ν}
    (sound : fresh.Sound)
    (untouched : fresh.table.pages = [])
    (operations : List (Operation ι κ ν)) :
    Touched (sinceClearing (fresh.calls operations))
      (fresh.after operations) := by
  induction operations using List.reverseRecOn with
  | nil =>
      refine ⟨?_, Nat.zero_le 1⟩
      rw [Cache.after_nil, untouched]
      exact (recent_of_nodup List.nodup_nil (Nat.zero_le _)).symm
  | append_singleton operations operation inductionHypothesis =>
      rw [Cache.calls_concat, Cache.after_concat]
      exact inductionHypothesis.concat (sound.after operations)

end Touches

namespace Cache

variable {ι κ ν : Type} [DecidableEq ι] [DecidableEq κ]

/-! ## Evictions -/

omit [DecidableEq κ] in
/-- A commit evicts exactly what it no longer retains. -/
theorem evict_mem_commit_iff
    {table : Table ι κ ν}
    (sound : table.Sound)
    {page other : ι}
    {store : Store κ ν} :
    ⟨.evict, other⟩ ∈ (table.commit page store).2 ↔
      other ∈ table.pages ∧ other ∉ (table.commit page store).1.pages := by
  have isEviction : (⟨.evict, other⟩ : Departure ι).evicts = true := rfl
  have filtered :
      ⟨.evict, other⟩ ∈ (table.commit page store).2 ↔
        ⟨.evict, other⟩ ∈
          (table.commit page store).2.filter Departure.evicts := by
    rw [List.mem_filter, isEviction]
    simp
  rw [filtered, Table.evicted_by_commit sound, List.mem_map]
  constructor
  · rintro ⟨evicted, member, isEvicted⟩
    cases isEvicted
    simpa using member
  · intro gone
    exact ⟨other, by simpa using gone, rfl⟩

/-- Only a commit evicts a page, which is then not the one it commits. -/
theorem evicted_perform
    {cache : Cache ι κ ν}
    (sound : cache.Sound)
    {operation : Operation ι κ ν}
    {page : ι}
    (left : ⟨.evict, page⟩ ∈ (cache.perform operation).departures) :
    ∃ pending observed,
      operation = .settle pending.generation .succeeded observed ∧
        cache.pending = some pending ∧
        ⟨.evict, page⟩ ∈
          (cache.table.commit observed pending.finished).2 ∧
        (cache.perform operation).cache =
          { cache with
            table := (cache.table.commit observed pending.finished).1
            current := observed
            pending := none } := by
  cases operation with
  | access reached =>
      have silent := (Call.departures_access sound reached).1
      simp only [perform, silent] at left
      cases left
  | announce attempt observed =>
      simp only [perform, Turn.answering, announce] at left
      split at left
      · cases left
      · simp only [abandoned] at left
        split at left <;> simp at left
  | settle generation outcome observed =>
      cases effect_perform (.settle generation outcome observed) cache with
      | commits pending _ isSettlement found _ made =>
          cases isSettlement
          refine ⟨pending, observed, rfl, found, ?_, made⟩
          simp only [perform, Turn.answering, settle_of_pending found, if_true]
            at left
          rw [(commit_eq pending observed cache).2] at left
          exact left
      | drops pending _ _ isSettlement found unsuccessful _ made =>
          cases isSettlement
          simp only [perform, Turn.answering, settle_of_pending found,
            if_neg unsuccessful, discard] at left
          simp at left
      | comesLate _ _ _ isSettlement gone _ same =>
          cases isSettlement
          simp only [perform, Turn.answering, settle_of_stale gone, settleStale]
            at left
          cases left
      | edits _ _ impossible | reads _ impossible | sets _ _ impossible
      | deletes _ impossible | ignores _ _ impossible
      | accepts _ _ impossible | clears _ impossible =>
          cases impossible
  | clear observed =>
      simp only [perform, Turn.answering, clear, List.mem_append] at left
      rcases left with cleared | dropped
      · simp [Table.clear] at cleared
      · simp only [abandoned] at dropped
        split at dropped <;> simp at dropped

/-- Every call of a run finds a sound cache. -/
theorem sound_of_mem_calls
    {cache : Cache ι κ ν}
    (sound : cache.Sound)
    {operations : List (Operation ι κ ν)}
    {call : Call ι κ ν}
    (member : call ∈ cache.calls operations) :
    call.found.Sound := by
  induction operations generalizing cache with
  | nil =>
      cases member
  | cons operation rest inductionHypothesis =>
      rcases List.mem_cons.mp member with rfl | later
      · exact sound
      · exact inductionHypothesis (sound.perform operation) later

omit [DecidableEq κ] in
/-- A store is created for the current page alone, and in an empty table. -/
theorem Sound.created
    {call : Call ι κ ν}
    (sound : call.found.Sound)
    {page : ι}
    (isCreated : call.created? = some page) :
    page = call.found.current ∧ call.found.table.pages = [] := by
  obtain ⟨operation, cache⟩ := call
  simp only [Call.created?] at isCreated
  split at isCreated
  · split at isCreated
    · cases isCreated
    · next absent =>
        cases isCreated
        refine ⟨rfl, sound.pages_eq_nil ?_⟩
        rwa [retains, Table.contains_iff_mem_pages] at absent
  · cases isCreated

omit [DecidableEq κ] in
/-- With room for two pages no commit evicts the page that it leaves. -/
theorem current_not_evicted
    {cache : Cache ι κ ν}
    (sound : cache.Sound)
    (room : 2 ≤ cache.table.capacity)
    (observed : ι)
    (store : Store κ ν) :
    ⟨.evict, cache.current⟩ ∉ (cache.table.commit observed store).2 := by
  intro left
  obtain ⟨retained, dropped⟩ := (evict_mem_commit_iff sound.table).mp left
  obtain ⟨first, _, full⟩ := Table.dropped_by_commit sound.table retained dropped
  have last := sound.getLast?_pages retained
  have distinct := sound.table.distinct
  -- The page touched first would be the page touched last.
  rcases shape : cache.table.pages with _ | ⟨head, _ | ⟨second, rest⟩⟩
  · rw [shape] at first
    cases first
  · rw [shape, List.length_singleton] at full
    omega
  · rw [shape] at first last distinct
    cases first
    rw [List.getLast?_cons_cons] at last
    exact (List.nodup_cons.mp distinct).1 (List.mem_of_getLast? last)

/-- So whatever is retained when a commit leaves it is retained afterwards. -/
theorem retains_current_settle
    {cache : Cache ι κ ν}
    (sound : cache.Sound)
    (room : 2 ≤ cache.table.capacity)
    (retained : cache.retains cache.current = true)
    (generation : Nat)
    (outcome : Outcome)
    (observed : ι) :
    (cache.perform (.settle generation outcome observed)).cache.retains
        cache.current =
      true := by
  let call : Call ι κ ν := ⟨.settle generation outcome observed, cache⟩
  have placed : call.Placement := Call.placement_of_sound sound
  have isPage := (Table.contains_iff_mem_pages _ _).mp retained
  change call.turn.cache.retains cache.current = true
  rw [retains, Table.contains_iff_mem_pages]
  cases placed with
  | leaves _ _ _ pages =>
      rw [pages]
      exact isPage
  | creates _ _ impossible | clears impossible =>
      cases impossible
  | commits pending page _ _ _ made =>
      by_contra dropped
      rw [made] at dropped
      exact current_not_evicted sound room page pending.finished
        ((evict_mem_commit_iff sound.table).mpr ⟨isPage, dropped⟩)

omit [DecidableEq ι] [DecidableEq κ] in
theorem pages_of_empty?
    {capacity : Nat}
    {start : ι}
    {cache : Cache ι κ ν}
    (built : empty? capacity start = some cache) :
    cache.table.pages = [] := by
  obtain ⟨table, made, rfl⟩ := Option.map_eq_some_iff.mp built
  exact (Table.sound_of_empty? made).2.1

/--
The current page is the last to go.  After every run nothing is retained, or the
page touched last is the current one.  So a write evicts nothing, no eviction
lets go of the page that is current afterwards, and a commit that leaves a page
does not evict it if there is room for two.  The retained pages are, in order,
the last distinct ones, as many as the capacity allows, of what was touched since
the last clearing: the page for which a write created a store in the empty table,
if there is one, and after it the pages that were committed.

Calls from inside of other calls take turns of their own, so this holds however
the calls of a run are nested.
-/
theorem current_page_is_the_last_to_go
    {capacity : Nat}
    {start : ι}
    {fresh : Cache ι κ ν}
    (built : empty? capacity start = some fresh)
    (operations : List (Operation ι κ ν)) :
    let cache := fresh.after operations
    let since := sinceClearing (fresh.calls operations)
    (cache.table.pages = [] ∨
      cache.table.pages.getLast? = some cache.current) ∧
    (∀ key value,
      (cache.set key value).departures = [] ∧
        cache.table.pages ⊆ (cache.set key value).cache.table.pages) ∧
    (∀ operation page,
      ⟨.evict, page⟩ ∈ (cache.perform operation).departures →
      (cache.perform operation).cache.retains page = false ∧
        page ≠ (cache.perform operation).cache.current) ∧
    (2 ≤ capacity →
      ∀ generation outcome observed,
        let turn := cache.perform (.settle generation outcome observed)
        ⟨.evict, cache.current⟩ ∉ turn.departures ∧
          (cache.retains cache.current = true →
            turn.cache.retains cache.current = true)) ∧
    cache.table.pages =
        recent capacity (NavState.created since ++ committed since) ∧
      (NavState.created since).length ≤ 1 ∧
      ∀ call ∈ since,
        ∀ page,
          call.created? = some page →
          page = call.found.current ∧ call.found.table.pages = [] := by
  intro cache since
  have freshSound := sound_of_empty? built
  have sound : cache.Sound := freshSound.after operations
  have isCapacity : cache.table.capacity = capacity := by
    rw [capacity_after, capacity_of_empty? built]
  have touched := touched_after freshSound (pages_of_empty? built) operations
  refine ⟨?_, ?_, ?_, ?_, ?_, touched.once, ?_⟩
  · by_cases retained : cache.current ∈ cache.table.pages
    · exact .inr (sound.getLast?_pages retained)
    · exact .inl (sound.pages_eq_nil retained)
  · intro key value
    exact Call.departures_access sound (.set key value)
  · intro operation page left
    obtain ⟨pending, observed, _, _, evicted, made⟩ :=
      evicted_perform sound left
    have dropped := ((evict_mem_commit_iff sound.table).mp evicted).2
    rw [made, retains, ← Bool.not_eq_true, Table.contains_iff_mem_pages]
    refine ⟨dropped, ?_⟩
    rintro rfl
    exact dropped
      (Table.mem_pages_of_get? (Table.get?_commit_self sound.table _ _))
  · intro room generation outcome observed turn
    rw [← isCapacity] at room
    refine ⟨?_, fun retained =>
      retains_current_settle sound room retained generation outcome observed⟩
    intro left
    obtain ⟨pending, page, _, _, evicted, _⟩ := evicted_perform sound left
    exact current_not_evicted sound room page pending.finished evicted
  · rw [← isCapacity]
    exact touched.pages
  · intro call member page isCreated
    have isCall : call ∈ fresh.calls operations :=
      List.rtakeWhile_suffix _ _ |>.subset member
    exact (sound_of_mem_calls freshSound isCall).created isCreated

/--
A page is created, two are committed, the first is evicted, and everything is
cleared.  Then a page is created again and left, and come back to.  The next
commit evicts the page that was left, and not the one that it leaves.
-/
theorem current_page_is_the_last_to_go_of_cleared :
    let fresh : Cache Nat Nat Nat := ⟨⟨[], 2, by decide⟩, 1, none, 0, []⟩
    let operations : List (Operation Nat Nat Nat) :=
      [.access (.set 0 5), .announce 7 1, .settle 1 .succeeded 2,
        .announce 8 2, .settle 2 .succeeded 3, .clear 3,
        .access (.set 0 6), .announce 9 3, .settle 3 .succeeded 1,
        .announce 10 3, .settle 4 .succeeded 3, .announce 11 3]
    let cache := fresh.after operations
    let since := sinceClearing (fresh.calls operations)
    let leaving := cache.perform (.settle 5 .succeeded 4)
    (empty? 2 1 = some fresh ∧
        2 ≤ 2 ∧
        ⟨.evict, 1⟩ ∈ leaving.departures ∧
        cache.retains cache.current = true) ∧
      (NavState.created since = [3] ∧ committed since = [1, 3]) ∧
      cache.table.pages = recent 2 ([3] ++ [1, 3]) ∧
      cache.table.pages = [1, 3] ∧
      leaving.cache.retains 1 = false ∧
      leaving.cache.retains cache.current = true ∧
      (cache.set 0 7).departures = [] := by
  intro fresh operations cache since leaving
  have built : empty? 2 1 = some fresh := rfl
  obtain ⟨_, writes, evictions, room, pages, _⟩ :=
    current_page_is_the_last_to_go built operations
  have evicts : ⟨.evict, 1⟩ ∈ leaving.departures := by decide +kernel
  have retained : cache.retains cache.current = true := by decide +kernel
  have touches :
      NavState.created since = [3] ∧ committed since = [1, 3] := by
    decide +kernel
  rw [touches.1, touches.2] at pages
  have dropped := evictions (.settle 5 .succeeded 4) 1 evicts
  obtain ⟨_, stays⟩ := room (Nat.le_refl 2) 5 .succeeded 4
  exact ⟨⟨built, Nat.le_refl 2, evicts, retained⟩, touches, pages,
    by decide +kernel, dropped.1, stays retained, (writes 0 7).1⟩

end Cache

end NavState
