import Mathlib.Logic.Function.Basic
import NavState.Proofs.Flight

namespace NavState

/-!
# Commits

What an attempt reads is what it wrote over the bindings it started from, and a
successful settlement stores just that for the page shown at that moment.  The
other pages keep their stores, except for the one that has to make room.
-/

section Overlays

variable {ι κ ν : Type} [DecidableEq κ]

/-- What a key is bound to once an operation wrote over some bindings. -/
def overlay
    (bindings : κ → Option ν)
    (operation : Operation ι κ ν) :
    κ → Option ν :=
  match operation with
  | .access (.set key value) => Function.update bindings key (some value)
  | .access (.delete key) => Function.update bindings key none
  | _ => bindings

/-- What a key is bound to once a run wrote over some bindings. -/
def overlaid
    (operations : List (Operation ι κ ν))
    (bindings : κ → Option ν) :
    κ → Option ν :=
  operations.foldl overlay bindings

theorem get?_edit_eq_overlay
    (operation : Operation ι κ ν)
    (store : Store κ ν) :
    (fun key => (operation.edit store).get? key) =
      overlay (fun key => store.get? key) operation := by
  funext key
  cases operation with
  | access reached =>
      cases reached with
      | set other value =>
          change (store.insert other value).get? key = _
          by_cases same : key = other
          · subst same
            rw [Store.get?_insert_self, overlay, Function.update_self]
          · rw [Store.get?_insert_of_ne same, overlay,
              Function.update_of_ne same]
      | delete other =>
          change (store.erase other).get? key = _
          by_cases same : key = other
          · subst same
            rw [Store.get?_erase_self, overlay, Function.update_self]
          · rw [Store.get?_erase_of_ne same, overlay,
              Function.update_of_ne same]
      | _ =>
          rfl
  | _ =>
      rfl

/-- Edits of a store, one after the other, overlay its bindings. -/
theorem get?_edited_eq_overlaid
    (operations : List (Operation ι κ ν))
    (store : Store κ ν) :
    (fun key => (edited operations store).get? key) =
      overlaid operations fun key => store.get? key := by
  induction operations generalizing store with
  | nil =>
      rfl
  | cons operation rest inductionHypothesis =>
      have step := inductionHypothesis (operation.edit store)
      rw [get?_edit_eq_overlay operation store] at step
      exact step

end Overlays

namespace Cache

variable {ι κ ν : Type} [DecidableEq ι] [DecidableEq κ]

/--
The bindings an attempt starts from: none if the history still shows the current
page, and otherwise those that are committed for the page it shows.
-/
def startingBindings
    (observed : ι)
    (cache : Cache ι κ ν) :
    κ → Option ν :=
  if observed = cache.current then
    fun _ => none
  else
    fun key => (cache.entry? observed).bind fun store => store.get? key

theorem get?_prepare
    (observed : ι)
    (cache : Cache ι κ ν) :
    (fun key => (cache.prepare observed).2.get? key) =
      cache.startingBindings observed := by
  funext key
  by_cases isCurrent : observed = cache.current
  · simp only [prepare, startingBindings, if_pos isCurrent]
    rfl
  · simp only [prepare, startingBindings, if_neg isCurrent]
    change
      ((cache.table.get? observed).getD {}).get? key =
        (cache.table.get? observed).bind fun store => store.get? key
    cases cache.table.get? observed <;> rfl

theorem lookup?_of_pending
    {cache : Cache ι κ ν}
    {pending : Pending κ ν}
    (found : cache.pending = some pending)
    (key : κ) :
    cache.lookup? key = pending.store.get? key := by
  simp [lookup?, target?, found]

/-- What a commit of `written` for the page `shown` makes of a cache. -/
structure Committed
    (written : κ → Option ν)
    (shown : ι)
    (settling ended : Cache ι κ ν) :
    Prop where
  stored :
    ∃ store,
      ended.entry? shown = some store ∧
        ∀ key, store.get? key = written key
  current : ended.current = shown
  landed : ended.isTransitioning = false
  reads : ∀ key, (ended.get key).result = written key
  others :
    ∀ page,
      page ≠ shown →
      ended.retains page = true →
      ended.entry? page = settling.entry? page
  room :
    ∀ page,
      settling.retains page = true →
      ended.retains page = false →
      settling.table.pages.head? = some page ∧
        settling.retains shown = false ∧
        settling.table.size = settling.table.capacity

theorem committed_settle
    {cache : Cache ι κ ν}
    (sound : cache.Sound)
    {pending : Pending κ ν}
    (found : cache.pending = some pending)
    (shown : ι) :
    Committed (fun key => pending.store.get? key) shown cache
      (cache.settle pending.generation .succeeded shown).cache := by
  rw [settle_of_pending found, if_pos rfl, (commit_eq pending shown cache).1]
  have stored :=
    Table.get?_commit_self sound.table shown pending.finished
  have bindings :
      ∀ key, pending.finished.get? key = pending.store.get? key := by
    intro key
    rw [Store.get?, Pending.bindings_finished, Store.get?]
  refine ⟨⟨pending.finished, stored, bindings⟩, rfl, rfl, ?_, ?_, ?_⟩
  · intro key
    simp only [get, lookup?, target?, stored]
    exact bindings key
  · intro page isOther kept
    exact Table.get?_commit_of_ne sound.table pending.finished isOther
      ((Table.contains_iff_mem_pages page _).mp kept)
  · intro page retained dropped
    have inTable := (Table.contains_iff_mem_pages page _).mp retained
    have notInTable :
        page ∉ (cache.table.commit shown pending.finished).1.pages := by
      rw [← Table.contains_iff_mem_pages]
      simpa [retains] using dropped
    obtain ⟨isFirst, isNew, full⟩ :=
      Table.dropped_by_commit sound.table inTable notInTable
    refine ⟨isFirst, ?_, ?_⟩
    · rw [retains, ← Bool.not_eq_true, Table.contains_iff_mem_pages]
      exact isNew
    · rw [← Table.length_pages, full]

/--
A commit stores exactly what its attempt wrote.  As long as an accepted attempt
is neither superseded, cleared away nor settled, reads and deletes give what the
writes so far make of the bindings it started from, and if it succeeds then,
that is what is committed for the page shown.
-/
theorem commit_stores_what_was_written
    {cache : Cache ι κ ν}
    (reachable : cache.Reachable)
    {attempt : UInt64}
    {observed : ι}
    {generation : Nat}
    (accepted :
      (cache.announce attempt observed).result = some generation)
    {operations : List (Operation ι κ ν)}
    (newest :
      (cache.announce attempt observed).cache.StaysNewest operations)
    (unsettled : Unsettled generation operations) :
    let settling := (cache.announce attempt observed).cache.after operations
    let written := overlaid operations (cache.startingBindings observed)
    (∀ key,
        (settling.get key).result = written key ∧
          (settling.delete key).result = written key) ∧
      ∀ shown,
        Committed written shown settling
          (settling.settle generation .succeeded shown).cache := by
  intro settling written
  let pending : Pending κ ν :=
    ⟨generation, (cache.prepare observed).1,
      edited operations (cache.prepare observed).2⟩
  have found : settling.pending = some pending :=
    congrArg Cache.pending (after_announce accepted newest unsettled)
  have bound : (fun key => pending.store.get? key) = written := by
    change (fun key => (edited operations _).get? key) = written
    rw [get?_edited_eq_overlaid, get?_prepare]
  have announcedReachable :
      settling.Reachable := by
    have oneMore := reachable.after (.announce attempt observed :: operations)
    exact oneMore
  refine ⟨?_, ?_⟩
  · intro key
    have looked : settling.lookup? key = written key := by
      rw [lookup?_of_pending found, ← bound]
    exact ⟨looked, looked⟩
  · intro shown
    have committed := committed_settle announcedReachable.sound found shown
    rw [bound] at committed
    exact committed

/-- A link out of a full table, and what it commits for the new page. -/
theorem commit_stores_what_was_written_in_full_table :
    let fresh : Cache Nat Nat Nat := ⟨⟨[], 2, by decide⟩, 1, none, 0, []⟩
    let full :=
      fresh.after
        [.announce 10 1, .access (.set 0 5), .settle 1 .succeeded 1,
          .announce 11 1, .settle 2 .succeeded 2]
    let operations : List (Operation Nat Nat Nat) :=
      [.access (.set 0 7), .announce 10 2, .settle 1 .succeeded 2,
        .access (.get 0), .access (.set 1 8), .access (.delete 1)]
    let settling := (full.announce 12 2).cache.after operations
    full.table.pages = [1, 2] ∧
      (settling.get 0).result = some 7 ∧
      Committed (overlaid operations (full.startingBindings 2)) 3 settling
        (settling.settle 3 .succeeded 3).cache ∧
      (settling.settle 3 .succeeded 3).cache.table.pages = [2, 3] := by
  intro fresh full operations settling
  have reachable : full.Reachable := ⟨2, 1, fresh, _, rfl, rfl⟩
  have accepted : (full.announce 12 2).result = some 3 := by decide
  have newest : (full.announce 12 2).cache.StaysNewest operations := by
    refine ⟨by decide, ?_⟩
    intro observed member
    simp [operations] at member
  have unsettled : Unsettled 3 operations := by
    intro outcome observed member
    simp [operations] at member
  have law :=
    commit_stores_what_was_written reachable accepted newest unsettled
  refine ⟨by decide, ?_, law.2 3, by decide⟩
  rw [(law.1 0).1]
  rfl

end Cache

end NavState
