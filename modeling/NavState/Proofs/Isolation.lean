import NavState.Proofs.Reachability

namespace NavState

/-!
# Isolation of pages

The committed store of a page changes only where something is meant for that
very page: a commit while the history shows it, a write while it is the current
page and nothing is in flight, its eviction, or a clearing.  Whatever happens to
other pages and to pending stores, copies of that store among them, leaves it
alone.

With nothing in flight the current page reads back what was written to it last.
-/

/-- What an access binds a key to, if it writes to that key. -/
def Access.written?
    {ι κ ν : Type}
    [DecidableEq κ]
    (key : κ)
    (access : Access ι κ ν) :
    Option (Option ν) :=
  match access with
  | .set other value => if other = key then some (some value) else none
  | .delete other => if other = key then some none else none
  | _ => none

/-- What a key is bound to by the last write to it, or else initially. -/
def lastWritten
    {ι κ ν : Type}
    [DecidableEq κ]
    (key : κ)
    (initially : Option ν)
    (accesses : List (Access ι κ ν)) :
    Option ν :=
  (accesses.reverse.findSome? (Access.written? key)).getD initially

theorem lastWritten_cons
    {ι κ ν : Type}
    [DecidableEq κ]
    (key : κ)
    (initially : Option ν)
    (access : Access ι κ ν)
    (rest : List (Access ι κ ν)) :
    lastWritten key initially (access :: rest) =
      lastWritten key ((access.written? key).getD initially) rest := by
  simp only [lastWritten, List.reverse_cons, List.findSome?_append]
  cases rest.reverse.findSome? (Access.written? key) with
  | some value =>
      rfl
  | none =>
      cases written : access.written? key <;> simp [written]

namespace Store

variable {κ ν : Type} [DecidableEq κ]

/-- Removing a key that is not bound changes nothing. -/
theorem erase_of_get?_eq_none
    {key : κ}
    {store : Store κ ν}
    (unbound : store.get? key = none) :
    store.erase key = store := by
  have absent : key ∉ Assoc.keys store.bindings :=
    (Assoc.find?_eq_none_iff key store.bindings).mp unbound
  have same : Assoc.erase key store.bindings = store.bindings := by
    rw [Assoc.erase, List.filter_eq_self]
    intro entry member
    have different : entry.1 ≠ key := by
      rintro rfl
      exact absent (List.mem_map_of_mem member)
    simpa using different
  rw [erase, same]

end Store

namespace Table

variable {ι κ ν : Type}

/-- What trimming drops is told to be evicted. -/
theorem mem_evicted_of_trim
    {page : ι}
    {table : Table ι κ ν}
    (retained : page ∈ table.pages)
    (dropped : page ∉ table.trim.1.pages) :
    ⟨.evict, page⟩ ∈ table.trim.2 := by
  have stays := table.pages_trim
  rw [← stays] at retained
  have inFront := (List.mem_append.mp retained).resolve_right dropped
  simp only [trim, List.map_map, List.mem_map, Function.comp_apply] at inFront
  obtain ⟨other, member, rfl⟩ := inFront
  exact List.mem_map_of_mem member

variable [DecidableEq ι]

/-- A page other than the committed one stays, or is told to be evicted. -/
theorem mem_pages_commit_of_not_evicted
    {page other : ι}
    {store : Store κ ν}
    {table : Table ι κ ν}
    (retained : other ∈ table.pages)
    (different : other ≠ page)
    (notEvicted : ⟨.evict, other⟩ ∉ (table.commit page store).2) :
    other ∈ (table.commit page store).1.pages := by
  by_contra dropped
  refine notEvicted (List.mem_append_right _ (mem_evicted_of_trim ?_ dropped))
  simp [pages, Assoc.keys_bind, different]
  exact retained

end Table

namespace Cache

variable {ι κ ν : Type} [DecidableEq ι] [DecidableEq κ]

/-! ## What is meant for a page -/

/--
Whether an operation is meant for the committed store of a page: it clears the
cache, commits the pending store for the page, or, with the page current and
nothing in flight, sets a key or deletes one that is bound.
-/
def isMeantFor
    (page : ι)
    (operation : Operation ι κ ν)
    (cache : Cache ι κ ν) :
    Bool :=
  match operation, cache.pending with
  | .clear _, _ => true
  | .settle generation .succeeded observed, some pending =>
      pending.generation = generation && observed = page
  | .access (.set _ _), none => cache.current = page
  | .access (.delete key), none => cache.current = page && cache.binds key
  | _, _ => false

/-- Whether an operation is meant for a page or evicts it. -/
def disturbs
    (page : ι)
    (operation : Operation ι κ ν)
    (cache : Cache ι κ ν) :
    Bool :=
  cache.isMeantFor page operation ||
    decide (⟨.evict, page⟩ ∈ (cache.perform operation).departures)

/-- No operation of a run disturbs a page. -/
def Undisturbed
    (page : ι)
    (operations : List (Operation ι κ ν))
    (cache : Cache ι κ ν) :
    Prop :=
  match operations with
  | [] => True
  | operation :: rest =>
      cache.disturbs page operation = false ∧
        (cache.perform operation).cache.Undisturbed page rest

/-- An operation that does not disturb a page leaves its store as it is. -/
theorem get?_perform_of_undisturbed
    {cache : Cache ι κ ν}
    (sound : cache.Sound)
    {page : ι}
    (retained : page ∈ cache.table.pages)
    {operation : Operation ι κ ν}
    (undisturbed : cache.disturbs page operation = false) :
    (cache.perform operation).cache.table.get? page =
      cache.table.get? page := by
  rw [disturbs, Bool.or_eq_false_iff, decide_eq_false_iff_not] at undisturbed
  obtain ⟨notMeant, notEvicted⟩ := undisturbed
  cases effect_perform operation cache with
  | edits _ _ _ _ _ made | accepts _ _ _ _ _ made
  | drops _ _ _ _ _ _ _ made =>
      rw [made]
  | reads _ _ _ _ _ same | ignores _ _ _ _ _ same
  | comesLate _ _ _ _ _ _ same =>
      rw [same]
  | sets key value isAccess idle _ made =>
      subst isAccess
      have different : page ≠ cache.current := by
        rintro rfl
        simp [isMeantFor, idle] at notMeant
      -- With any page retained, the current one is, so no store is created.
      have currentRetained : cache.current ∈ cache.table.pages := by
        by_contra absent
        rw [sound.pages_eq_nil absent] at retained
        cases retained
      rw [made, Table.ensure_of_mem currentRetained]
      exact Table.get?_adjust_of_ne different _ cache.table
  | deletes key isAccess idle _ made =>
      subst isAccess
      rw [made]
      by_cases same : page = cache.current
      · subst same
        have unbound : cache.lookup? key = none := by
          simpa [isMeantFor, idle, binds] using notMeant
        rw [Table.get?_adjust_self]
        cases found : cache.table.get? cache.current with
        | none =>
            rfl
        | some store =>
            simp only [lookup?, target?, idle, found] at unbound
            rw [Option.map_some, Store.erase_of_get?_eq_none unbound]
      · exact Table.get?_adjust_of_ne same _ cache.table
  | commits pending observed isSettlement found _ made =>
      subst isSettlement
      have different : page ≠ observed := by
        rintro rfl
        simp [isMeantFor, found] at notMeant
      have left :
          (cache.perform
              (.settle pending.generation .succeeded observed)).departures =
            (cache.table.commit observed pending.finished).2 := by
        simp only [perform, Turn.answering, settle_of_pending found]
        exact (commit_eq pending observed cache).2
      rw [left] at notEvicted
      rw [made]
      exact Table.get?_commit_of_ne sound.table _ different
        (Table.mem_pages_commit_of_not_evicted retained different notEvicted)
  | clears observed isClearing =>
      subst isClearing
      simp [isMeantFor] at notMeant

/-- So does a run of such operations. -/
theorem get?_after_of_undisturbed
    {cache : Cache ι κ ν}
    (sound : cache.Sound)
    {page : ι}
    (retained : page ∈ cache.table.pages)
    {operations : List (Operation ι κ ν)}
    (undisturbed : cache.Undisturbed page operations) :
    (cache.after operations).table.get? page = cache.table.get? page := by
  induction operations generalizing cache with
  | nil =>
      rfl
  | cons operation rest inductionHypothesis =>
      obtain ⟨first, later⟩ := undisturbed
      have same := get?_perform_of_undisturbed sound retained first
      have stillRetained :
          page ∈ (cache.perform operation).cache.table.pages := by
        by_contra absent
        have gone := (Table.get?_eq_none_iff page _).mpr absent
        rw [same] at gone
        exact (Table.get?_eq_none_iff page _).mp gone retained
      rw [after_cons,
        inductionHypothesis (sound.perform operation) stillRetained later, same]

/-! ## Reads and writes with nothing in flight -/

/-- The store of the current page, which is empty if it is not retained. -/
def openStore (cache : Cache ι κ ν) : Store κ ν :=
  (cache.table.get? cache.current).getD {}

omit [DecidableEq κ] in
/-- Once the store of the current page is ensured, it is there. -/
theorem Sound.get?_ensure_current
    {cache : Cache ι κ ν}
    (sound : cache.Sound) :
    (cache.table.ensure cache.current).1.get? cache.current =
      some cache.openStore := by
  by_cases retained : cache.current ∈ cache.table.pages
  · obtain ⟨store, found⟩ :=
      Option.isSome_iff_exists.mp
        ((Table.contains_iff_mem_pages _ _).mpr retained)
    rw [Table.ensure_of_mem retained, openStore, found]
    rfl
  · have nothing := (Table.get?_eq_none_iff _ _).mpr retained
    rw [Table.ensure_of_pages_eq_nil (sound.pages_eq_nil retained), openStore,
      nothing]
    simp [Table.get?, Assoc.find?]

theorem lookup?_of_idle
    {cache : Cache ι κ ν}
    (idle : cache.pending = none)
    (key : κ) :
    cache.lookup? key = cache.openStore.get? key := by
  simp only [lookup?, target?, idle, openStore]
  cases cache.table.get? cache.current <;> rfl

/-- With nothing in flight a key reads as what an access writes to it, if any. -/
theorem lookup?_take_of_idle
    {cache : Cache ι κ ν}
    (sound : cache.Sound)
    (idle : cache.pending = none)
    (access : Access ι κ ν)
    (key : κ) :
    (cache.take access).cache.lookup? key =
      (access.written? key).getD (cache.lookup? key) := by
  cases access with
  | set other value =>
      have written :
          (cache.take (.set other value)).cache.lookup? key =
            (cache.openStore.insert other value).get? key := by
        simp only [take, Turn.answering, set, idle, lookup?, target?]
        rw [Table.get?_adjust_self, sound.get?_ensure_current]
        rfl
      rw [written, lookup?_of_idle idle]
      by_cases same : key = other
      · subst same
        simp [Access.written?]
      · rw [Store.get?_insert_of_ne same]
        simp [Access.written?, Ne.symm same]
  | delete other =>
      have erased :
          (cache.take (.delete other)).cache.lookup? key =
            (cache.openStore.erase other).get? key := by
        simp only [take, Turn.answering, delete, adjustTarget, idle, lookup?,
          target?, openStore]
        rw [Table.get?_adjust_self]
        cases cache.table.get? cache.current <;> rfl
      rw [erased, lookup?_of_idle idle]
      by_cases same : key = other
      · subst same
        simp [Access.written?]
      · rw [Store.get?_erase_of_ne same]
        simp [Access.written?, Ne.symm same]
  | _ =>
      rfl

/-- What a key reads as after some accesses is what was written to it last. -/
theorem lookup?_accesses_of_idle
    {cache : Cache ι κ ν}
    (sound : cache.Sound)
    (idle : cache.pending = none)
    (accesses : List (Access ι κ ν))
    (key : κ) :
    (cache.after (accesses.map .access)).lookup? key =
      lastWritten key (cache.lookup? key) accesses := by
  induction accesses generalizing cache with
  | nil =>
      rfl
  | cons access rest inductionHypothesis =>
      rw [List.map_cons, after_cons, lastWritten_cons,
        ← lookup?_take_of_idle sound idle access key]
      exact inductionHypothesis (sound.perform (.access access))
        (pending_take_of_idle idle access)

/-- Only a set touches a page. -/
theorem pages_take_of_not_set
    {access : Access ι κ ν}
    (noSet : ∀ key value, access ≠ .set key value)
    (cache : Cache ι κ ν) :
    (cache.take access).cache.table.pages = cache.table.pages := by
  cases access with
  | set key value =>
      exact absurd rfl (noSet key value)
  | delete key =>
      simp only [take, Turn.answering, delete, adjustTarget]
      cases cache.pending with
      | some pending =>
          rfl
      | none =>
          exact Table.pages_adjust _ _ cache.table
  | _ =>
      rfl

theorem pages_accesses_of_no_set
    {accesses : List (Access ι κ ν)}
    (noSet : ∀ key value, .set key value ∉ accesses)
    (cache : Cache ι κ ν) :
    (cache.after (accesses.map .access)).table.pages = cache.table.pages := by
  induction accesses generalizing cache with
  | nil =>
      rfl
  | cons access rest inductionHypothesis =>
      have restNoSet : ∀ key value, .set key value ∉ rest :=
        fun key value member => noSet key value (List.mem_cons_of_mem _ member)
      have first : ∀ key value, access ≠ .set key value := by
        rintro key value rfl
        exact noSet key value List.mem_cons_self
      rw [List.map_cons, after_cons, inductionHypothesis restNoSet]
      exact pages_take_of_not_set first cache

/--
Pages are isolated from each other.  A page that is retained and undisturbed by
a run has the same store after it, with all bindings and the flag.  With nothing
in flight, gets and deletes give what the last write to their key left.  And
accesses other than sets create no store and leave the recency order alone.

Calls from inside of other calls take turns of their own, so this holds however
the calls of a run are nested.
-/
theorem pages_are_isolated
    {cache : Cache ι κ ν}
    (reachable : cache.Reachable) :
    (∀ (page : ι) (operations : List (Operation ι κ ν)),
      cache.retains page = true →
      cache.Undisturbed page operations →
      let ended := cache.after operations
      ended.retains page = true ∧
        ended.entry? page = cache.entry? page) ∧
    (cache.isTransitioning = false →
      ∀ (accesses : List (Access ι κ ν)) (key : κ),
        let ended := cache.after (accesses.map .access)
        let last := lastWritten key (cache.get key).result accesses
        (ended.get key).result = last ∧ (ended.delete key).result = last) ∧
    ∀ accesses : List (Access ι κ ν),
      (∀ key value, .set key value ∉ accesses) →
      (cache.after (accesses.map .access)).table.pages =
        cache.table.pages := by
  refine ⟨?_, ?_, fun accesses noSet => pages_accesses_of_no_set noSet cache⟩
  · intro page operations retained undisturbed ended
    have isPage := (Table.contains_iff_mem_pages _ _).mp retained
    have same :=
      get?_after_of_undisturbed reachable.sound isPage undisturbed
    refine ⟨?_, same⟩
    rw [retains, Table.contains, same]
    exact retained
  · intro landed accesses key ended last
    have idle : cache.pending = none := by
      simpa [isTransitioning] using landed
    have reads := lookup?_accesses_of_idle reachable.sound idle accesses key
    exact ⟨reads, reads⟩

/--
The first page through writes to a copy of its store, a stale settlement, a
failure, and a commit for the second page.
-/
theorem pages_are_isolated_of_copied :
    let fresh : Cache Nat Nat Nat := ⟨⟨[], 2, by decide⟩, 1, none, 0, []⟩
    let opened :=
      fresh.after
        [.access (.set 0 5), .announce 7 1, .settle 1 .succeeded 2]
    let operations : List (Operation Nat Nat Nat) :=
      [.access (.set 0 8), .announce 8 1, .access (.set 0 9),
        .access (.delete 0), .settle 1 .succeeded 1, .settle 2 .failed 1,
        .announce 9 2, .settle 3 .succeeded 2, .access (.delete 3)]
    let ended := opened.after operations
    let accesses : List (Access Nat Nat Nat) :=
      [.set 0 6, .delete 0, .set 0 7, .set 3 4, .delete 3, .get 0]
    (opened.retains 1 = true ∧
        opened.Undisturbed 1 operations ∧
        opened.isTransitioning = false) ∧
      ended.entry? 1 = opened.entry? 1 ∧
      opened.entry? 1 = some ⟨[(0, 5)], false⟩ ∧
      ((opened.after (accesses.map .access)).get 0).result = some 7 ∧
      ((opened.after (accesses.map .access)).get 3).result = none ∧
      (opened.after [.access (.delete 0)]).table.pages = [1, 2] := by
  intro fresh opened operations ended accesses
  have reachable : opened.Reachable := ⟨2, 1, fresh, _, rfl, rfl⟩
  have undisturbed : opened.Undisturbed 1 operations := by
    refine ⟨?_, ?_, ?_, ?_, ?_, ?_, ?_, ?_, ?_, trivial⟩ <;> decide
  obtain ⟨isolated, reads, untouched⟩ := pages_are_isolated reachable
  have retained : opened.retains 1 = true := by decide
  have idle : opened.isTransitioning = false := by decide
  refine ⟨⟨retained, undisturbed, idle⟩,
    (isolated 1 operations retained undisturbed).2, by decide, ?_, ?_, ?_⟩
  · exact (reads idle accesses 0).1
  · exact (reads idle accesses 3).1
  · exact untouched [.delete 0] (by simp)

end Cache

end NavState
