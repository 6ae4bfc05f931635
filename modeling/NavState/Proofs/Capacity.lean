import NavState.Proofs.Reachability

namespace NavState

/-!
# More capacity

Two caches that differ in their capacity alone take the same run.  The smaller
one never has anything that the larger one lacks: its pages are the last ones of
the larger, and its stores bind no key that theirs do not.

A page whose store is created by a write is touched only where it is missing, so
tables alone do not agree like this.  In a cache such a store is created in an
empty table only, and so in both caches or in neither.
-/

namespace Store

variable {κ ν : Type} [DecidableEq κ]

/-- Every binding of one store is a binding of the other, under the same flag. -/
structure Within (small large : Store κ ν) : Prop where
  historic : small.historic = large.historic
  bindings :
    ∀ key value,
      small.get? key = some value →
      large.get? key = some value

theorem Within.refl (store : Store κ ν) : store.Within store :=
  ⟨rfl, fun _ _ bound => bound⟩

theorem Within.insert
    {small large : Store κ ν}
    (within : small.Within large)
    (key : κ)
    (value : ν) :
    (small.insert key value).Within (large.insert key value) where
  historic := within.historic
  bindings := by
    intro other found bound
    by_cases same : other = key
    · subst same
      rw [get?_insert_self] at bound ⊢
      exact bound
    · rw [get?_insert_of_ne same] at bound ⊢
      exact within.bindings other found bound

theorem Within.erase
    {small large : Store κ ν}
    (within : small.Within large)
    (key : κ) :
    (small.erase key).Within (large.erase key) where
  historic := within.historic
  bindings := by
    intro other found bound
    by_cases same : other = key
    · subst same
      rw [get?_erase_self] at bound
      cases bound
    · rw [get?_erase_of_ne same] at bound ⊢
      exact within.bindings other found bound

theorem Within.markHistoric
    {small large : Store κ ν}
    (within : small.Within large)
    (historic : Bool) :
    (small.markHistoric historic).Within (large.markHistoric historic) :=
  ⟨rfl, within.bindings⟩

theorem Within.edit
    {ι : Type}
    {small large : Store κ ν}
    (within : small.Within large)
    (access : Access ι κ ν) :
    (access.edit small).Within (access.edit large) := by
  cases access with
  | set key value =>
      exact within.insert key value
  | delete key =>
      exact within.erase key
  | _ =>
      exact within

/-- A key reads as nothing in the smaller store, or the same in both. -/
theorem Within.get?_eq
    {small large : Store κ ν}
    (within : small.Within large)
    (key : κ) :
    small.get? key = none ∨ small.get? key = large.get? key := by
  cases bound : small.get? key with
  | none =>
      exact .inl rfl
  | some value =>
      exact .inr (within.bindings key value bound).symm

end Store

namespace Table

variable {ι κ ν : Type} [DecidableEq ι] [DecidableEq κ]

/-- One table retains the last pages of the other, with nothing bound beyond it. -/
structure Within (small large : Table ι κ ν) : Prop where
  capacity : small.capacity ≤ large.capacity
  pages : small.pages = large.pages.rtake small.capacity
  stores :
    ∀ page store,
      small.get? page = some store →
      ∃ other, large.get? page = some other ∧ store.Within other

theorem within_of_pages_eq_nil
    {small large : Table ι κ ν}
    (atMost : small.capacity ≤ large.capacity)
    (empty : small.pages = [])
    (emptyLarge : large.pages = []) :
    small.Within large where
  capacity := atMost
  pages := by
    rw [empty, emptyLarge, List.rtake_nil]
  stores := by
    intro page store found
    have retained := mem_pages_of_get? found
    rw [empty] at retained
    cases retained

theorem Within.mem_pages
    {small large : Table ι κ ν}
    (within : small.Within large)
    {page : ι}
    (retained : page ∈ small.pages) :
    page ∈ large.pages := by
  rw [within.pages] at retained
  exact List.mem_of_mem_drop retained

/-- The smaller table is empty only if the larger one is. -/
theorem Within.pages_eq_nil_iff
    {small large : Table ι κ ν}
    (within : small.Within large) :
    small.pages = [] ↔ large.pages = [] := by
  have positive := small.capacity_pos
  rw [within.pages, List.rtake, List.drop_eq_nil_iff]
  refine ⟨fun few => ?_, fun empty => by simp [empty]⟩
  by_contra nonempty
  have long := List.length_pos_of_ne_nil nonempty
  omega

theorem Within.adjust
    {small large : Table ι κ ν}
    (within : small.Within large)
    (page : ι)
    {change : Store κ ν → Store κ ν}
    (changes :
      ∀ {store other : Store κ ν},
        store.Within other →
        (change store).Within (change other)) :
    (small.adjust page change).Within (large.adjust page change) where
  capacity := within.capacity
  pages := by
    rw [pages_adjust, pages_adjust]
    exact within.pages
  stores := by
    intro other store found
    by_cases same : other = page
    · subst same
      change Assoc.find? other (Assoc.adjust other change _) = _ at found
      rw [Assoc.find?_adjust_self, Option.map_eq_some_iff] at found
      obtain ⟨before, foundBefore, rfl⟩ := found
      obtain ⟨wider, foundWider, inside⟩ :=
        within.stores other before foundBefore
      refine ⟨change wider, ?_, changes inside⟩
      change Assoc.find? other (Assoc.adjust other change _) = _
      rw [Assoc.find?_adjust_self, Option.map_eq_some_iff]
      exact ⟨wider, foundWider, rfl⟩
    · rw [get?_adjust_of_ne same] at found ⊢
      exact within.stores other store found

theorem Within.commit
    {small large : Table ι κ ν}
    (within : small.Within large)
    (smallSound : small.Sound)
    (largeSound : large.Sound)
    (page : ι)
    {store other : Store κ ν}
    (inside : store.Within other) :
    (small.commit page store).1.Within (large.commit page other).1 := by
  have pages :
      (small.commit page store).1.pages =
        (large.commit page other).1.pages.rtake small.capacity := by
    rw [pages_commit smallSound, pages_commit largeSound,
      rtake_recent within.capacity, within.pages]
    have cut :
        large.pages.rtake small.capacity =
          recent small.capacity large.pages := by
      rw [recent, largeSound.distinct.dedup]
    rw [cut, recent_append]
  refine ⟨within.capacity, pages, ?_⟩
  intro kept found isThere
  by_cases same : kept = page
  · subst same
    rw [get?_commit_self smallSound] at isThere
    cases isThere
    exact ⟨other, get?_commit_self largeSound kept other, inside⟩
  · have stays := mem_pages_of_get? isThere
    rw [get?_commit_of_ne smallSound store same stays] at isThere
    obtain ⟨wider, foundWider, wide⟩ := within.stores kept found isThere
    have staysWide : kept ∈ (large.commit page other).1.pages := by
      rw [pages] at stays
      exact List.mem_of_mem_drop stays
    rw [get?_commit_of_ne largeSound other same staysWide]
    exact ⟨wider, foundWider, wide⟩

end Table

/-- Pending stores of one attempt in two caches. -/
structure Pending.Within
    {κ ν : Type}
    [DecidableEq κ]
    (small large : Pending κ ν) :
    Prop where
  generation : small.generation = large.generation
  movement : small.movement = large.movement
  store : small.store.Within large.store

theorem Pending.Within.finished
    {κ ν : Type}
    [DecidableEq κ]
    {small large : Pending κ ν}
    (within : small.Within large) :
    small.finished.Within large.finished := by
  rw [Pending.finished, Pending.finished, within.movement]
  cases large.movement with
  | forward =>
      exact within.store.markHistoric false
  | traversal =>
      exact within.store

namespace Cache

variable {ι κ ν : Type} [DecidableEq ι] [DecidableEq κ]

/-- Two caches on the same way, of which the smaller one may have forgotten more. -/
structure Within (small large : Cache ι κ ν) : Prop where
  table : small.table.Within large.table
  current : small.current = large.current
  pending : Option.Rel Pending.Within small.pending large.pending
  generation : small.generation = large.generation
  handled : small.handled = large.handled

/-- What two caches answer: the smaller one gives nothing, or both give the same. -/
structure AnswersWithin (small large : Cache ι κ ν) : Prop where
  get :
    ∀ key,
      (small.get key).result = none ∨
        (small.get key).result = (large.get key).result
  delete :
    ∀ key,
      (small.delete key).result = none ∨
        (small.delete key).result = (large.delete key).result
  set :
    ∀ key value,
      (small.set key value).result = (large.set key value).result
  isHistoric : small.isHistoric = large.isHistoric

/-- Nothing is in flight in either cache, or an attempt is in both. -/
theorem Within.pending_cases
    {small large : Cache ι κ ν}
    (within : small.Within large) :
    (small.pending = none ∧ large.pending = none) ∨
      ∃ pending other,
        small.pending = some pending ∧
          large.pending = some other ∧
          pending.Within other := by
  have both := within.pending
  generalize small.pending = here at both ⊢
  generalize large.pending = there at both ⊢
  cases both with
  | none =>
      exact .inl ⟨rfl, rfl⟩
  | some inside =>
      exact .inr ⟨_, _, rfl, rfl, inside⟩

/-- The current page is retained in both caches or in neither. -/
theorem Within.current_mem_iff
    {small large : Cache ι κ ν}
    (within : small.Within large)
    (sound : small.Sound) :
    small.current ∈ small.table.pages ↔
      large.current ∈ large.table.pages := by
  rw [← within.current]
  refine ⟨within.table.mem_pages, fun retained => ?_⟩
  by_contra absent
  have empty := sound.pages_eq_nil absent
  rw [within.table.pages_eq_nil_iff.mp empty] at retained
  exact List.not_mem_nil retained

/-- Both caches read from corresponding stores, or from none. -/
theorem Within.target?
    {small large : Cache ι κ ν}
    (within : small.Within large)
    (sound : small.Sound) :
    (small.target? = none ∧ large.target? = none) ∨
      ∃ store other,
        small.target? = some store ∧
          large.target? = some other ∧
          store.Within other := by
  rcases within.pending_cases with
      ⟨idle, idleLarge⟩ | ⟨pending, other, found, foundLarge, inside⟩
  · simp only [Cache.target?, idle, idleLarge]
    cases found : small.table.get? small.current with
    | some store =>
        obtain ⟨other, foundOther, inside⟩ :=
          within.table.stores _ store found
        rw [within.current] at foundOther
        exact .inr ⟨store, other, rfl, foundOther, inside⟩
    | none =>
        have absent := (Table.get?_eq_none_iff _ _).mp found
        rw [within.current_mem_iff sound] at absent
        exact .inl ⟨rfl, (Table.get?_eq_none_iff _ _).mpr absent⟩
  · simp only [Cache.target?, found, foundLarge]
    exact .inr ⟨_, _, rfl, rfl, inside.store⟩

/-- A write gives back what it wrote. -/
theorem result_set
    (key : κ)
    (value : ν)
    (cache : Cache ι κ ν) :
    (cache.set key value).result = value := by
  simp only [set]
  split <;> rfl

/-- What the caches answer follows from the stores that they read from. -/
theorem Within.answers
    {small large : Cache ι κ ν}
    (within : small.Within large)
    (sound : small.Sound) :
    small.AnswersWithin large := by
  have sets (key : κ) (value : ν) :
      (small.set key value).result = (large.set key value).result := by
    rw [result_set, result_set]
  rcases within.target? sound with
      ⟨nothing, nothingLarge⟩ | ⟨store, other, found, foundLarge, inside⟩
  · have looked (key : κ) : small.lookup? key = none := by
      rw [lookup?, nothing]
    refine ⟨fun key => .inl (looked key), fun key => .inl (looked key),
      sets, ?_⟩
    rw [isHistoric, isHistoric, nothing, nothingLarge]
  · have looked (key : κ) :
        small.lookup? key = none ∨
          small.lookup? key = large.lookup? key := by
      rw [lookup?, lookup?, found, foundLarge]
      exact inside.get?_eq key
    refine ⟨looked, looked, sets, ?_⟩
    rw [isHistoric, isHistoric, found, foundLarge]
    exact inside.historic

/-! ## One operation -/

theorem Within.prepare
    {small large : Cache ι κ ν}
    (within : small.Within large)
    (observed : ι) :
    (small.prepare observed).1 = (large.prepare observed).1 ∧
      (small.prepare observed).2.Within (large.prepare observed).2 := by
  by_cases isCurrent : observed = small.current
  · have isCurrentLarge : observed = large.current :=
      isCurrent.trans within.current
    rw [Cache.prepare, Cache.prepare, if_pos isCurrent, if_pos isCurrentLarge]
    exact ⟨rfl, .refl _⟩
  · have notCurrentLarge : observed ≠ large.current := by
      rw [← within.current]
      exact isCurrent
    rw [Cache.prepare, Cache.prepare, if_neg isCurrent,
      if_neg notCurrentLarge]
    refine ⟨rfl, ?_⟩
    cases found : small.table.get? observed with
    | some store =>
        obtain ⟨other, foundOther, inside⟩ :=
          within.table.stores observed store found
        rw [foundOther]
        exact inside.markHistoric true
    | none =>
        -- The page may be retained in the larger cache, which then copies more.
        exact ⟨rfl, fun key value bound => nomatch bound⟩

/-- A write with nothing in flight creates a store in both caches or in neither. -/
theorem Within.ensure
    {small large : Cache ι κ ν}
    (within : small.Within large)
    (sound : small.Sound)
    (soundLarge : large.Sound) :
    (small.table.ensure small.current).1.Within
      (large.table.ensure large.current).1 := by
  by_cases retained : small.current ∈ small.table.pages
  · have retainedLarge := (within.current_mem_iff sound).mp retained
    rw [Table.ensure_of_mem retained, Table.ensure_of_mem retainedLarge]
    exact within.table
  · have absentLarge := mt (within.current_mem_iff sound).mpr retained
    rw [Table.ensure_of_pages_eq_nil (sound.pages_eq_nil retained),
      Table.ensure_of_pages_eq_nil (soundLarge.pages_eq_nil absentLarge),
      within.current]
    refine ⟨within.table.capacity, ?_, ?_⟩
    · exact (rtake_of_length_le small.table.capacity_pos).symm
    · intro page store found
      exact ⟨store, found, .refl store⟩

theorem Within.take
    {small large : Cache ι κ ν}
    (within : small.Within large)
    (sound : small.Sound)
    (soundLarge : large.Sound)
    (access : Access ι κ ν) :
    (small.take access).cache.Within (large.take access).cache := by
  rcases within.pending_cases with
      ⟨idle, idleLarge⟩ | ⟨pending, other, found, foundLarge, inside⟩
  · have rewritten
        {table other : Table ι κ ν}
        (inside : table.Within other) :
        Within { small with table := table } { large with table := other } :=
      ⟨inside, within.current, within.pending, within.generation,
        within.handled⟩
    cases access with
    | set key value =>
        have ensured := within.ensure sound soundLarge
        have written :=
          ensured.adjust small.current fun inside => inside.insert key value
        conv at written =>
          arg 2
          rw [within.current]
        simpa only [Cache.take, Turn.answering, Cache.set, idle, idleLarge]
          using rewritten written
    | delete key =>
        have written :=
          within.table.adjust small.current fun inside => inside.erase key
        conv at written =>
          arg 2
          rw [within.current]
        simpa only [Cache.take, Turn.answering, Cache.delete, adjustTarget,
          idle, idleLarge] using rewritten written
    | _ =>
        exact within
  · rw [take_of_pending found, take_of_pending foundLarge]
    have edited :
        Pending.Within
          { pending with store := access.edit pending.store }
          { other with store := access.edit other.store } :=
      { inside with store := inside.store.edit access }
    exact ⟨within.table, within.current, .some edited, within.generation,
      within.handled⟩

/-- Every operation keeps one cache within the other. -/
theorem Within.perform
    {small large : Cache ι κ ν}
    (within : small.Within large)
    (sound : small.Sound)
    (soundLarge : large.Sound)
    (operation : Operation ι κ ν) :
    (small.perform operation).cache.Within
      (large.perform operation).cache := by
  cases operation with
  | access access =>
      exact within.take sound soundLarge access
  | announce attempt observed =>
      change
        (small.announce attempt observed).cache.Within
          (large.announce attempt observed).cache
      by_cases remembered : attempt ∈ small.handled
      · have rememberedLarge : attempt ∈ large.handled := by
          rw [← within.handled]
          exact remembered
        rw [(announce_of_mem remembered observed).2.1,
          (announce_of_mem rememberedLarge observed).2.1]
        exact within
      · have unknownLarge : attempt ∉ large.handled := by
          rw [← within.handled]
          exact remembered
        rw [(announce_of_not_mem remembered observed).2,
          (announce_of_not_mem unknownLarge observed).2, within.handled,
          within.generation]
        obtain ⟨movement, store⟩ := within.prepare observed
        exact ⟨within.table, within.current, .some ⟨rfl, movement, store⟩,
          rfl, rfl⟩
  | settle generation outcome observed =>
      change
        (small.settle generation outcome observed).cache.Within
          (large.settle generation outcome observed).cache
      rcases within.pending_cases with
          ⟨idle, idleLarge⟩ | ⟨pending, other, found, foundLarge, inside⟩
      · rw [settle_of_stale (by simp [idle]),
          settle_of_stale (by simp [idleLarge])]
        exact within
      · by_cases own : pending.generation = generation
        · subst own
          rw [settle_of_pending found, inside.generation,
            settle_of_pending foundLarge]
          by_cases succeeded : outcome = .succeeded
          · rw [if_pos succeeded, if_pos succeeded, (commit_eq _ _ _).1,
              (commit_eq _ _ _).1]
            exact ⟨within.table.commit sound.table soundLarge.table observed
                inside.finished,
              rfl, .none, within.generation, within.handled⟩
          · rw [if_neg succeeded, if_neg succeeded]
            exact ⟨within.table, within.current, .none, within.generation,
              within.handled⟩
        · have ownLarge : other.generation ≠ generation := by
            rw [← inside.generation]
            exact own
          rw [settle_of_stale (by simp [found, own]),
            settle_of_stale (by simp [foundLarge, ownLarge])]
          exact within
  | clear observed =>
      have emptied :
          small.table.clear.1.Within large.table.clear.1 :=
        Table.within_of_pages_eq_nil within.table.capacity rfl rfl
      exact ⟨emptied, rfl, .none, within.generation, within.handled⟩

/-! ## Runs -/

/-- A run keeps one cache within the other. -/
theorem Within.after
    {small large : Cache ι κ ν}
    (within : small.Within large)
    (sound : small.Sound)
    (soundLarge : large.Sound)
    (operations : List (Operation ι κ ν)) :
    (small.after operations).Within (large.after operations) := by
  induction operations generalizing small large with
  | nil =>
      exact within
  | cons operation rest inductionHypothesis =>
      exact inductionHypothesis (within.perform sound soundLarge operation)
        (sound.perform operation) (soundLarge.perform operation)

/-- An operation leaves the capacity of the table as it is. -/
theorem capacity_perform
    (operation : Operation ι κ ν)
    (cache : Cache ι κ ν) :
    (cache.perform operation).cache.table.capacity = cache.table.capacity := by
  cases effect_perform operation cache with
  | sets key value _ _ _ made =>
      rw [made]
      simp only [Table.adjust, Table.ensure]
      split <;> rfl
  | reads _ _ _ _ _ same | ignores _ _ _ _ _ same
  | comesLate _ _ _ _ _ _ same =>
      rw [same]
  | edits _ _ _ _ _ made | accepts _ _ _ _ _ made
  | drops _ _ _ _ _ _ _ made =>
      rw [made]
  | deletes _ _ _ _ made | commits _ _ _ _ _ made | clears _ _ _ made =>
      rw [made]
      rfl

theorem capacity_after
    (operations : List (Operation ι κ ν))
    (cache : Cache ι κ ν) :
    (cache.after operations).table.capacity = cache.table.capacity := by
  induction operations generalizing cache with
  | nil =>
      rfl
  | cons operation rest inductionHypothesis =>
      rw [after_cons, inductionHypothesis, capacity_perform]

omit [DecidableEq ι] [DecidableEq κ] in
theorem capacity_of_empty?
    {capacity : Nat}
    {start : ι}
    {cache : Cache ι κ ν}
    (built : empty? capacity start = some cache) :
    cache.table.capacity = capacity := by
  obtain ⟨table, made, rfl⟩ := Option.map_eq_some_iff.mp built
  exact (Table.sound_of_empty? made).2.2

theorem within_of_empty?
    {narrow wide : Nat}
    (atMost : narrow ≤ wide)
    {start : ι}
    {small large : Cache ι κ ν}
    (built : empty? narrow start = some small)
    (builtLarge : empty? wide start = some large) :
    small.Within large := by
  have capacities : small.table.capacity ≤ large.table.capacity := by
    rw [capacity_of_empty? built, capacity_of_empty? builtLarge]
    exact atMost
  obtain ⟨table, made, rfl⟩ := Option.map_eq_some_iff.mp built
  obtain ⟨other, madeLarge, rfl⟩ := Option.map_eq_some_iff.mp builtLarge
  obtain ⟨_, noPages, _⟩ := Table.sound_of_empty? made
  obtain ⟨_, noPagesLarge, _⟩ := Table.sound_of_empty? madeLarge
  exact ⟨Table.within_of_pages_eq_nil capacities noPages noPagesLarge, rfl,
    .none, rfl, rfl⟩

/--
More capacity never loses state.  After the same run, a cache of smaller
capacity is within one of larger capacity: it retains as many of the other's
last pages as it has room for, its stores bind nothing that theirs do not, and
what it answers is nothing or the same.
-/
theorem more_capacity_never_loses_state
    {narrow wide : Nat}
    (atMost : narrow ≤ wide)
    {start : ι}
    {small large : Cache ι κ ν}
    (built : empty? narrow start = some small)
    (builtLarge : empty? wide start = some large)
    (operations : List (Operation ι κ ν)) :
    let smallEnd := small.after operations
    let largeEnd := large.after operations
    smallEnd.table.capacity = narrow ∧
      largeEnd.table.capacity = wide ∧
      smallEnd.Within largeEnd ∧
      smallEnd.AnswersWithin largeEnd := by
  intro smallEnd largeEnd
  have sound := sound_of_empty? built
  have soundLarge := sound_of_empty? builtLarge
  have within :=
    (within_of_empty? atMost built builtLarge).after sound soundLarge
      operations
  refine ⟨?_, ?_, within, within.answers (sound.after operations)⟩
  · rw [capacity_after, capacity_of_empty? built]
  · rw [capacity_after, capacity_of_empty? builtLarge]

/--
A traversal back to a page that the smaller cache has dropped: only the larger
one copies its store, and the smaller one still commits it under the same flag.
-/
theorem more_capacity_never_loses_state_of_one_and_three :
    let small : Cache Nat Nat Nat := ⟨⟨[], 1, by decide⟩, 1, none, 0, []⟩
    let large : Cache Nat Nat Nat := ⟨⟨[], 3, by decide⟩, 1, none, 0, []⟩
    let operations : List (Operation Nat Nat Nat) :=
      [.access (.set 0 5), .announce 7 1, .settle 1 .succeeded 2,
        .announce 8 1, .access (.set 3 9), .settle 2 .succeeded 1]
    (1 ≤ 3 ∧ empty? 1 1 = some small ∧ empty? 3 1 = some large) ∧
      (small.after operations).table.entries = [(1, ⟨[(3, 9)], true⟩)] ∧
      (large.after operations).table.entries =
        [(2, ⟨[], false⟩), (1, ⟨[(0, 5), (3, 9)], true⟩)] ∧
      (small.after operations).Within (large.after operations) ∧
      (small.after operations).AnswersWithin (large.after operations) := by
  intro small large operations
  have built : empty? 1 1 = some small := rfl
  have builtLarge : empty? 3 1 = some large := rfl
  obtain ⟨_, _, within, answers⟩ :=
    more_capacity_never_loses_state (by decide) built builtLarge operations
  exact ⟨⟨by decide, built, builtLarge⟩, by decide, by decide, within, answers⟩

end Cache

end NavState
