import NavState.Proofs.Operations

namespace NavState

/-!
# Reachable caches

What one operation keeps of a cache, and so what holds of every cache that some
run leads to: the invariant of the table and the pending store, and the laws of
generations and of remembered attempts.
-/

namespace Cache

variable {ι κ ν : Type} [DecidableEq ι] [DecidableEq κ]

/-! ## What every operation keeps -/

/--
What holds of every cache on its way: the table is sound, the pending store is
of the newest generation, and the page touched last is the current one.
-/
structure Sound (cache : Cache ι κ ν) : Prop where
  table : cache.table.Sound
  newest :
    ∀ pending,
      cache.pending = some pending →
      pending.generation = cache.generation ∧ 0 < cache.generation
  lastTouched :
    ∀ page,
      cache.table.pages.getLast? = some page →
      page = cache.current

omit [DecidableEq ι] [DecidableEq κ] in
theorem sound_of_empty?
    {capacity : Nat}
    {start : ι}
    {cache : Cache ι κ ν}
    (built : empty? capacity start = some cache) :
    cache.Sound := by
  obtain ⟨table, made, rfl⟩ := Option.map_eq_some_iff.mp built
  obtain ⟨sound, noPages, _⟩ := Table.sound_of_empty? made
  exact {
    table := sound
    newest := by simp
    lastTouched := by simp [noPages]
  }

omit [DecidableEq ι] [DecidableEq κ] in
/-- If the current page is retained, it is the page touched last. -/
theorem Sound.getLast?_pages
    {cache : Cache ι κ ν}
    (sound : cache.Sound)
    (retained : cache.current ∈ cache.table.pages) :
    cache.table.pages.getLast? = some cache.current := by
  have nonempty : cache.table.pages ≠ [] := List.ne_nil_of_mem retained
  have last := List.getLast?_eq_getLast_of_ne_nil nonempty
  rw [last, sound.lastTouched _ last]

omit [DecidableEq ι] [DecidableEq κ] in
/-- If the current page is not retained, none is. -/
theorem Sound.pages_eq_nil
    {cache : Cache ι κ ν}
    (sound : cache.Sound)
    (absent : cache.current ∉ cache.table.pages) :
    cache.table.pages = [] := by
  by_contra nonempty
  have last := List.getLast?_eq_getLast_of_ne_nil nonempty
  have isCurrent := sound.lastTouched _ last
  exact absent (isCurrent ▸ List.getLast_mem nonempty)

omit [DecidableEq κ] in
/-- Creating the store of the current page makes it the page touched last. -/
theorem Sound.getLast?_ensure
    {cache : Cache ι κ ν}
    (sound : cache.Sound) :
    (cache.table.ensure cache.current).1.pages.getLast? =
      some cache.current := by
  rw [Table.pages_ensure sound.table]
  by_cases retained : cache.current ∈ cache.table.pages
  · rw [if_pos retained]
    exact sound.getLast?_pages retained
  · rw [if_neg retained]
    exact getLast?_recent_concat cache.table.capacity_pos _ _

theorem Sound.perform
    {cache : Cache ι κ ν}
    (sound : cache.Sound)
    (operation : Operation ι κ ν) :
    (cache.perform operation).cache.Sound := by
  cases effect_perform operation cache with
  | edits reached pending _ found _ made =>
      rw [made]
      exact {
        table := sound.table
        newest := by
          intro edited shape
          cases shape
          exact sound.newest pending found
        lastTouched := sound.lastTouched
      }
  | reads _ _ _ _ _ same =>
      rw [same]
      exact sound
  | sets key value _ idle _ made =>
      rw [made]
      exact {
        table := (sound.table.ensure cache.current).adjust _ _
        newest := by simp [idle]
        lastTouched := by
          intro page last
          rw [Table.pages_adjust, sound.getLast?_ensure] at last
          exact (Option.some.inj last).symm
      }
  | deletes key _ _ _ made =>
      rw [made]
      exact {
        table := sound.table.adjust _ _
        newest := sound.newest
        lastTouched := by
          rw [Table.pages_adjust]
          exact sound.lastTouched
      }
  | ignores _ _ _ _ _ same =>
      rw [same]
      exact sound
  | accepts attempt observed _ _ _ made =>
      rw [made]
      exact {
        table := sound.table
        newest := by
          intro pending shape
          cases shape
          exact ⟨rfl, Nat.succ_pos _⟩
        lastTouched := sound.lastTouched
      }
  | comesLate _ _ _ _ _ _ same =>
      rw [same]
      exact sound
  | commits pending observed _ _ _ made =>
      rw [made]
      exact {
        table := sound.table.commit observed _
        newest := by simp
        lastTouched := by
          intro page last
          rw [Table.pages_commit sound.table,
            getLast?_recent_concat cache.table.capacity_pos] at last
          exact (Option.some.inj last).symm
      }
  | drops _ _ _ _ _ _ _ made =>
      rw [made]
      exact {
        table := sound.table
        newest := by simp
        lastTouched := sound.lastTouched
      }
  | clears observed _ _ made =>
      rw [made]
      exact {
        table := Table.Sound.clear cache.table
        newest := by simp
        lastTouched := by
          intro page last
          simp at last
      }

theorem Sound.after
    {cache : Cache ι κ ν}
    (sound : cache.Sound)
    (operations : List (Operation ι κ ν)) :
    (cache.after operations).Sound := by
  induction operations generalizing cache with
  | nil =>
      exact sound
  | cons operation rest inductionHypothesis =>
      exact inductionHypothesis (sound.perform operation)

theorem Reachable.sound
    {cache : Cache ι κ ν}
    (reachable : cache.Reachable) :
    cache.Sound := by
  obtain ⟨capacity, start, fresh, operations, built, rfl⟩ := reachable
  exact (sound_of_empty? built).after operations

theorem Reachable.after
    {cache : Cache ι κ ν}
    (reachable : cache.Reachable)
    (operations : List (Operation ι κ ν)) :
    (cache.after operations).Reachable := by
  obtain ⟨capacity, start, fresh, earlier, built, rfl⟩ := reachable
  refine ⟨capacity, start, fresh, earlier ++ operations, built, ?_⟩
  rw [after_append]

/-! ## Generations and remembered attempts -/

/-- An operation hands out the next generation, or none and keeps the old one. -/
theorem generation_perform
    (operation : Operation ι κ ν)
    (cache : Cache ι κ ν) :
    ((cache.perform operation).result.generation? = none ∧
        (cache.perform operation).cache.generation = cache.generation) ∨
      ((cache.perform operation).result.generation? =
          some (cache.generation + 1) ∧
        (cache.perform operation).cache.generation =
          cache.generation + 1) := by
  cases effect_perform operation cache with
  | edits _ _ _ _ nothing made =>
      exact .inl ⟨nothing, by rw [made]⟩
  | reads _ _ _ _ nothing same =>
      exact .inl ⟨nothing, by rw [same]⟩
  | sets _ _ _ _ nothing made =>
      exact .inl ⟨nothing, by rw [made]⟩
  | deletes _ _ _ nothing made =>
      exact .inl ⟨nothing, by rw [made]⟩
  | ignores _ _ _ _ nothing same =>
      exact .inl ⟨nothing, by rw [same]⟩
  | accepts _ _ _ _ next made =>
      exact .inr ⟨next, by rw [made]⟩
  | comesLate _ _ _ _ _ nothing same =>
      exact .inl ⟨nothing, by rw [same]⟩
  | commits _ _ _ _ nothing made =>
      exact .inl ⟨nothing, by rw [made]⟩
  | drops _ _ _ _ _ _ nothing made =>
      exact .inl ⟨nothing, by rw [made]⟩
  | clears _ _ nothing made =>
      exact .inl ⟨nothing, by rw [made]⟩

/-- The generations handed out in a run follow each other without a gap. -/
theorem accepted_eq_range'
    (operations : List (Operation ι κ ν))
    (cache : Cache ι κ ν) :
    cache.accepted operations =
        List.range' (cache.generation + 1)
          (cache.accepted operations).length ∧
      (cache.after operations).generation =
        cache.generation + (cache.accepted operations).length := by
  induction operations generalizing cache with
  | nil =>
      simp [accepted]
  | cons operation rest inductionHypothesis =>
      obtain ⟨restRange, restGeneration⟩ :=
        inductionHypothesis (cache.perform operation).cache
      rcases generation_perform operation cache with
          ⟨nothing, same⟩ | ⟨handedOut, next⟩
      · rw [same] at restRange restGeneration
        simp only [accepted, nothing, Option.toList_none, List.nil_append,
          after_cons]
        exact ⟨restRange, restGeneration⟩
      · rw [next] at restRange restGeneration
        simp only [accepted, handedOut, Option.toList_some,
          List.cons_append, List.nil_append, List.length_cons,
          List.range'_succ, after_cons]
        refine ⟨?_, ?_⟩
        · rw [← restRange]
        · omega

theorem nodup_accepted
    (operations : List (Operation ι κ ν))
    (cache : Cache ι κ ν) :
    (cache.accepted operations).Nodup := by
  rw [(accepted_eq_range' operations cache).1]
  exact List.nodup_range'

/-- The generation of a cache is the one it handed out last. -/
theorem getLast?_accepted
    {operations : List (Operation ι κ ν)}
    {cache : Cache ι κ ν}
    (later : cache.generation < (cache.after operations).generation) :
    (cache.accepted operations).getLast? =
      some (cache.after operations).generation := by
  obtain ⟨range, generation⟩ := accepted_eq_range' operations cache
  have nonempty : (cache.accepted operations).length ≠ 0 := by omega
  rw [range, List.getLast?_range', if_neg nonempty, generation]
  congr 1
  omega

/-- What is remembered after an operation was remembered or is announced by it. -/
theorem handled_perform_subset
    (operation : Operation ι κ ν)
    (cache : Cache ι κ ν) :
    (cache.perform operation).cache.handled ⊆
      cache.handled ++ operation.attempt?.toList := by
  cases effect_perform operation cache with
  | accepts attempt observed isAnnouncement _ _ made =>
      rw [made, isAnnouncement]
      exact List.drop_subset _ _
  | reads _ _ _ _ _ same | ignores _ _ _ _ _ same
  | comesLate _ _ _ _ _ _ same =>
      rw [same]
      exact List.subset_append_left _ _
  | edits _ _ _ _ _ made | sets _ _ _ _ _ made | deletes _ _ _ _ made
  | commits _ _ _ _ _ made | drops _ _ _ _ _ _ _ made
  | clears _ _ _ made =>
      rw [made]
      exact List.subset_append_left _ _

/-- What is remembered after a run was remembered or is announced in it. -/
theorem handled_after_subset
    (operations : List (Operation ι κ ν))
    (cache : Cache ι κ ν) :
    (cache.after operations).handled ⊆
      cache.handled ++ attempts operations := by
  induction operations generalizing cache with
  | nil =>
      simp
  | cons operation rest inductionHypothesis =>
      have step := handled_perform_subset operation cache
      have announced :
          operation.attempt?.toList ++ attempts rest =
            attempts (operation :: rest) := by
        cases shape : operation.attempt? <;> simp [attempts, shape]
      rw [after_cons, ← announced, ← List.append_assoc]
      exact List.Subset.trans (inductionHypothesis _)
        (List.append_subset.mpr
          ⟨List.Subset.trans step (List.subset_append_left _ _),
            List.subset_append_right _ _⟩)

omit [DecidableEq ι] [DecidableEq κ] in
theorem handled_of_empty?
    {capacity : Nat}
    {start : ι}
    {cache : Cache ι κ ν}
    (built : empty? capacity start = some cache) :
    cache.handled = [] ∧ cache.generation = 0 ∧ cache.pending = none := by
  obtain ⟨table, _, rfl⟩ := Option.map_eq_some_iff.mp built
  exact ⟨rfl, rfl, rfl⟩

end Cache

end NavState
