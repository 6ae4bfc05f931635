import NavState.Proofs.Departures
import NavState.Proofs.Flight

namespace NavState

/-!
# What one call reports

A call counts events and publishes the number of pages it retains.  Its reports
are in balance as its turn is: a transition that is counted is in flight until a
commit or a discard is counted, each settlement and each announcement is counted
once, and the number published last is the number of pages retained.
-/

/-- Whether a report counts an event of a tally. -/
def Report.counts {ι : Type} (tally : Tally) (report : Report ι) : Bool :=
  match report with
  | .count counted => counted = tally
  | .size _ => false
  | .note _ => false

theorem Report.eq_of_counts
    {ι : Type}
    {tally : Tally}
    {report : Report ι}
    (counts : report.counts tally = true) :
    report = .count tally := by
  cases report with
  | count counted =>
      rw [of_decide_eq_true counts]
  | size pages =>
      cases counts
  | note note =>
      cases counts

/-- Whether accesses are what a tally counts. -/
def Tally.ofAccess (tally : Tally) : Bool :=
  match tally with
  | .hit => true
  | .miss => true
  | .set => true
  | .delete => true
  | _ => false

/-- What has been counted and published. -/
structure Ledger where
  count : Tally → Nat := fun _ => 0
  /-- The number of pages that was published last. -/
  pages : Nat := 0

namespace Ledger

variable {ι : Type}

/-- Count one more event. -/
def increase (tally : Tally) (ledger : Ledger) : Ledger :=
  { ledger with
    count := fun other =>
      if other = tally then
        ledger.count other + 1
      else
        ledger.count other }

/-- Take one report in. -/
def file (ledger : Ledger) (report : Report ι) : Ledger :=
  match report with
  | .count tally => ledger.increase tally
  | .size pages => { ledger with pages := pages }
  | .note _ => ledger

/-- Take the reports of a turn in, in order. -/
def enter (reports : List (Report ι)) (ledger : Ledger) : Ledger :=
  reports.foldl file ledger

@[simp] theorem enter_nil (ledger : Ledger) :
    ledger.enter ([] : List (Report ι)) = ledger :=
  rfl

@[simp] theorem enter_cons
    (report : Report ι)
    (rest : List (Report ι))
    (ledger : Ledger) :
    ledger.enter (report :: rest) = (ledger.file report).enter rest :=
  rfl

@[simp] theorem enter_append
    (earlier later : List (Report ι))
    (ledger : Ledger) :
    ledger.enter (earlier ++ later) = (ledger.enter earlier).enter later :=
  List.foldl_append

@[simp] theorem count_increase (tally other : Tally) (ledger : Ledger) :
    (ledger.increase tally).count other =
      ledger.count other + if other = tally then 1 else 0 := by
  simp only [increase]
  split <;> rfl

@[simp] theorem pages_increase (tally : Tally) (ledger : Ledger) :
    (ledger.increase tally).pages = ledger.pages :=
  rfl

/-- Every report that counts an event counts once. -/
theorem count_enter
    (tally : Tally)
    (reports : List (Report ι))
    (ledger : Ledger) :
    (ledger.enter reports).count tally =
      ledger.count tally + reports.countP (Report.counts tally) := by
  induction reports generalizing ledger with
  | nil =>
      rfl
  | cons report rest inductionHypothesis =>
      rw [enter_cons, inductionHypothesis, List.countP_cons]
      cases report with
      | count counted =>
          rw [file, count_increase]
          simp only [Report.counts, decide_eq_true_eq, @eq_comm _ counted tally]
          omega
      | size pages =>
          simp [file, Report.counts]
      | note note =>
          simp [file, Report.counts]

end Ledger

/-! ## Notes on evictions -/

section Notes

variable {ι : Type}

/-- Notes count nothing. -/
theorem count_not_mem_evictionNotes
    (tally : Tally)
    (departures : List (Departure ι)) :
    .count tally ∉ evictionNotes departures := by
  intro member
  obtain ⟨⟨reason, page⟩, _, noted⟩ := List.mem_filterMap.mp member
  cases reason <;> cases noted

theorem countP_evictionNotes
    (tally : Tally)
    (departures : List (Departure ι)) :
    (evictionNotes departures).countP (Report.counts tally) = 0 := by
  rw [List.countP_eq_zero]
  intro report member counts
  rw [Report.eq_of_counts counts] at member
  exact count_not_mem_evictionNotes tally departures member

/-- Notes change no account. -/
theorem enter_evictionNotes
    (departures : List (Departure ι))
    (ledger : Ledger) :
    ledger.enter (evictionNotes departures) = ledger := by
  induction departures with
  | nil =>
      rfl
  | cons departure rest inductionHypothesis =>
      obtain ⟨reason, page⟩ := departure
      cases reason <;> exact inductionHypothesis

end Notes

/-- Whether a store left because the table was full. -/
def Departure.evicts {ι : Type} (departure : Departure ι) : Bool :=
  departure.reason = .evict

/-! ## Evictions from a table -/

namespace Table

variable {ι κ ν : Type} [DecidableEq ι]

/-- What a commit evicts is what it no longer retains. -/
theorem evicted_by_commit
    {table : Table ι κ ν}
    (sound : table.Sound)
    (page : ι)
    (store : Store κ ν) :
    (table.commit page store).2.filter Departure.evicts =
      (table.pages.filter fun other =>
        other ∉ (table.commit page store).1.pages).map
          (Departure.mk .evict) := by
  let bound : Table ι κ ν :=
    { table with entries := Assoc.bind page store table.entries }
  let kept := bound.trim.1.pages
  let dropped := bound.trim.2.map Departure.page
  have boundPages : bound.pages = table.pages.filter (· ≠ page) ++ [page] :=
    Assoc.keys_bind page store table.entries
  have parts : dropped ++ kept = table.pages.filter (· ≠ page) ++ [page] :=
    bound.pages_trim.trans boundPages
  have distinct : (dropped ++ kept).Nodup := by
    rw [parts, ← boundPages]
    exact Assoc.nodup_keys_bind sound.distinct page store
  have isKept : page ∈ kept := by
    have last :=
      getLast?_recent_concat table.capacity_pos table.pages page
    rw [← pages_commit sound page store] at last
    exact List.mem_of_getLast? last
  have gone : dropped = table.pages.filter (· ∉ kept) := by
    have front : (dropped ++ kept).filter (· ∉ kept) = dropped := by
      have apart := List.disjoint_of_nodup_append distinct
      rw [List.filter_append, List.filter_eq_self.mpr, List.filter_eq_nil_iff.mpr,
        List.append_nil]
      · simp
      · intro other member
        simpa using apart member
    rw [← front, parts, List.filter_append, List.filter_filter]
    have rest : [page].filter (· ∉ kept) = [] := by simp [isKept]
    rw [rest, List.append_nil]
    apply List.filter_congr
    intro other _
    by_cases same : other = page
    · simp [same, isKept]
    · simp [same]
  have onlyEvicted : bound.trim.2.filter Departure.evicts = bound.trim.2 := by
    rw [List.filter_eq_self]
    intro departure member
    obtain ⟨other, _, rfl⟩ := List.mem_map.mp member
    rfl
  have asEvicted : bound.trim.2 = dropped.map (Departure.mk .evict) := by
    simp [dropped, trim, Function.comp_def]
  simp only [commit, List.filter_append]
  rw [onlyEvicted, asEvicted, gone]
  split <;> rfl

end Table

/-! ## Settlements that are waited for -/

/--
The settlements that may still run after an operation began, of those that might
before.  Each runs once at most.
-/
def Operation.release?
    {ι κ ν : Type}
    (waiting : List Nat)
    (operation : Operation ι κ ν) :
    Option (List Nat) :=
  match operation with
  | .settle generation _ _ =>
      if generation ∈ waiting then
        some (waiting.erase generation)
      else
        none
  | _ => some waiting

theorem Operation.eq_erase_of_release?
    {ι κ ν : Type}
    {waiting rest : List Nat}
    {generation : Nat}
    {outcome : Outcome}
    {observed : ι}
    (released :
      (settle generation outcome observed : Operation ι κ ν).release? waiting =
        some rest) :
    generation ∈ waiting ∧ rest = waiting.erase generation := by
  obtain ⟨waits, isRest⟩ := Option.ite_none_right_eq_some.mp released
  exact ⟨waits, (Option.some.inj isRest).symm⟩

theorem Operation.sublist_of_release?
    {ι κ ν : Type}
    {operation : Operation ι κ ν}
    {waiting rest : List Nat}
    (released : operation.release? waiting = some rest) :
    rest.Sublist waiting := by
  cases operation with
  | settle generation outcome observed =>
      rw [(eq_erase_of_release? released).2]
      exact List.erase_sublist
  | _ =>
      cases released
      exact List.Sublist.refl waiting

namespace Cache

variable {ι κ ν : Type}

/-- How many settlements that may still run have no pending store left. -/
def overdue (waiting : List Nat) (cache : Cache ι κ ν) : Nat :=
  waiting.countP fun generation =>
    cache.pending.map Pending.generation ≠ some generation

theorem overdue_of_idle
    {cache : Cache ι κ ν}
    (idle : cache.pending = none)
    (waiting : List Nat) :
    cache.overdue waiting = waiting.length := by
  rw [overdue, List.countP_eq_length]
  simp [idle]

/-- The settlement of the pending store is the only one not to be overdue. -/
theorem overdue_of_pending
    {cache : Cache ι κ ν}
    {pending : Pending κ ν}
    (found : cache.pending = some pending)
    (waiting : List Nat) :
    cache.overdue waiting + waiting.count pending.generation =
      waiting.length := by
  induction waiting with
  | nil =>
      rfl
  | cons generation rest inductionHypothesis =>
      rw [overdue] at inductionHypothesis ⊢
      rw [List.countP_cons, List.count_cons, List.length_cons,
        ← inductionHypothesis]
      have own :
          cache.pending.map Pending.generation ≠ some generation ↔
            ¬generation = pending.generation := by
        simp [found, eq_comm]
      simp only [own, decide_eq_true_eq, beq_iff_eq, ite_not]
      split <;> omega

/-- A generation that is put in flight adds nothing that is overdue. -/
theorem overdue_append_newest
    {cache : Cache ι κ ν}
    {pending : Pending κ ν}
    (found : cache.pending = some pending)
    {waiting : List Nat}
    (isNew : pending.generation ∉ waiting) :
    cache.overdue (waiting ++ [pending.generation]) = waiting.length := by
  have parts := overdue_of_pending found (waiting ++ [pending.generation])
  have own :
      (waiting ++ [pending.generation]).count pending.generation = 1 := by
    simp [List.count_eq_zero.mpr isNew]
  rw [own, List.length_append, List.length_singleton] at parts
  omega

theorem length_le_overdue
    {waiting : List Nat}
    (distinct : waiting.Nodup)
    (cache : Cache ι κ ν) :
    waiting.length ≤ cache.overdue waiting + cache.isTransitioning.toNat := by
  cases found : cache.pending with
  | none =>
      rw [overdue_of_idle found]
      omega
  | some pending =>
      have parts := overdue_of_pending found waiting
      have once := List.nodup_iff_count_le_one.mp distinct pending.generation
      simp only [isTransitioning, found, Option.isSome_some, Bool.toNat_true]
      omega

/-- A settlement that comes late was overdue. -/
theorem overdue_erase
    {generation : Nat}
    {waiting : List Nat}
    (waits : generation ∈ waiting)
    {cache : Cache ι κ ν}
    (gone :
      ∀ pending,
        cache.pending = some pending →
        pending.generation ≠ generation) :
    cache.overdue (waiting.erase generation) + 1 = cache.overdue waiting := by
  have late : cache.pending.map Pending.generation ≠ some generation := by
    intro same
    obtain ⟨pending, found, isOwn⟩ := Option.map_eq_some_iff.mp same
    exact gone pending found isOwn
  rw [overdue, overdue, (List.perm_cons_erase waits).countP_eq,
    List.countP_cons_of_pos (by simpa using late)]

end Cache

/-! ## Calls -/

namespace Call

variable {ι κ ν : Type} [DecidableEq ι] [DecidableEq κ]

/-- How often a call counts an event of a tally itself. -/
def raises (tally : Tally) (call : Call ι κ ν) : Nat :=
  call.turn.reports.countP (Report.counts tally)

/-- The pages whose stores a call lets go of because the table is full. -/
def evicted (call : Call ι κ ν) : List ι :=
  match call.operation with
  | .clear _ => []
  | _ =>
      call.found.table.pages.filter fun page =>
        page ∉ call.turn.cache.table.pages

/-- What a call reports is what it does. -/
structure Reported (call : Call ι κ ν) : Prop where
  /-- A counted transition is in flight, or it was committed or discarded. -/
  flights :
    call.found.isTransitioning.toNat + call.raises .transition =
      call.raises .commit + call.raises .discard +
        call.turn.cache.isTransitioning.toNat
  announcements :
    ∀ attempt observed,
      call.operation = .announce attempt observed →
      call.raises .transition + call.raises .duplicate = 1
  settlements :
    ∀ generation outcome observed,
      call.operation = .settle generation outcome observed →
      call.raises .commit + call.raises .discard + call.raises .stale = 1
  pages :
    ∀ ledger : Ledger,
      ledger.pages = call.found.table.size →
      (ledger.enter call.turn.reports).pages = call.turn.cache.table.size
  /-- Evictions are counted when they are announced. -/
  evictions :
    call.raises .evict = 0 ∧
      call.turn.departures.countP Departure.evicts = call.evicted.length
  /-- A settlement comes late after a discard that was counted. -/
  late :
    ∀ waiting rest,
      waiting.Nodup →
      (∀ generation ∈ waiting, generation ≤ call.found.generation) →
      call.operation.release? waiting = some rest →
      call.raises .stale +
          call.turn.cache.overdue
            (rest ++ call.turn.result.generation?.toList) ≤
        call.found.overdue waiting + call.raises .discard

/-! ### Accesses -/

/-- Accesses count accesses. -/
theorem ofAccess_of_access
    {reached : Access ι κ ν}
    {cache : Cache ι κ ν}
    {tally : Tally}
    (counted : .count tally ∈ (cache.take reached).reports) :
    tally.ofAccess = true := by
  cases reached with
  | get key =>
      simp only [Cache.take, Turn.answering, Cache.get, List.mem_singleton,
        Report.count.injEq] at counted
      subst counted
      split <;> rfl
  | set key value =>
      cases found : cache.pending with
      | some pending =>
          simp only [Cache.take, Turn.answering, Cache.set, found,
            List.mem_cons, reduceCtorEq, Report.count.injEq, List.not_mem_nil,
            or_false, false_or] at counted
          subst counted
          rfl
      | none =>
          simp only [Cache.take, Turn.answering, Cache.set, found,
            List.mem_append, List.mem_cons, reduceCtorEq, Report.count.injEq,
            List.not_mem_nil, or_false, false_or] at counted
          rcases counted with noted | rfl
          · exact absurd noted (count_not_mem_evictionNotes tally _)
          · rfl
  | delete key =>
      cases List.mem_singleton.mp counted
      rfl
  | _ =>
      cases counted

/-- An access counts nothing else. -/
theorem raises_access
    {tally : Tally}
    (other : tally.ofAccess = false)
    (reached : Access ι κ ν)
    (cache : Cache ι κ ν) :
    raises tally ⟨.access reached, cache⟩ = 0 := by
  rw [raises, List.countP_eq_zero]
  intro report member counts
  rw [Report.eq_of_counts counts] at member
  rw [ofAccess_of_access member] at other
  cases other

/-- With the current page retained or nothing retained, nothing is evicted. -/
theorem departures_access
    {cache : Cache ι κ ν}
    (sound : cache.Sound)
    (reached : Access ι κ ν) :
    (cache.take reached).departures = [] ∧
      cache.table.pages ⊆ (cache.take reached).cache.table.pages := by
  cases reached with
  | set key value =>
      cases found : cache.pending with
      | some pending =>
          simp [Cache.take, Turn.answering, Cache.set, found]
      | none =>
          simp only [Cache.take, Turn.answering, Cache.set, found,
            Table.pages_adjust]
          by_cases retained : cache.current ∈ cache.table.pages
          · rw [Table.ensure_of_mem retained]
            exact ⟨rfl, List.Subset.refl _⟩
          · have empty := sound.pages_eq_nil retained
            rw [Table.ensure_of_pages_eq_nil empty, empty]
            exact ⟨rfl, List.nil_subset _⟩
  | delete key =>
      refine ⟨rfl, ?_⟩
      simp only [Cache.take, Turn.answering, Cache.delete, Cache.adjustTarget]
      split <;> simp
  | _ =>
      exact ⟨rfl, List.Subset.refl _⟩

theorem pages_access
    {cache : Cache ι κ ν}
    {ledger : Ledger}
    (published : ledger.pages = cache.table.size)
    (reached : Access ι κ ν) :
    (ledger.enter (cache.take reached).reports).pages =
      (cache.take reached).cache.table.size := by
  cases reached with
  | set key value =>
      cases found : cache.pending with
      | some pending =>
          simp [Cache.take, Turn.answering, Cache.set, found, Ledger.file]
      | none =>
          simp [Cache.take, Turn.answering, Cache.set, found, Ledger.file]
  | delete key =>
      have kept : (cache.adjustTarget (Store.erase key)).table.size =
          cache.table.size := by
        simp only [Cache.adjustTarget, ← Table.length_pages]
        split <;> simp
      simp [Cache.take, Turn.answering, Cache.delete, Ledger.file, kept,
        published]
  | _ =>
      exact published

theorem reported_of_access
    {cache : Cache ι κ ν}
    (sound : cache.Sound)
    (reached : Access ι κ ν) :
    Reported ⟨.access reached, cache⟩ := by
  have without {tally : Tally} (other : tally.ofAccess = false) :=
    raises_access other reached cache
  obtain ⟨silent, kept⟩ := departures_access sound reached
  have flight :
      (cache.take reached).cache.isTransitioning = cache.isTransitioning := by
    have same := congrArg Option.isSome (Cache.generation_take reached cache).1
    rw [Option.isSome_map, Option.isSome_map] at same
    exact same
  exact {
    flights := by
      rw [without rfl, without rfl, without rfl]
      simp [turn, Cache.perform, flight]
    announcements := by simp
    settlements := by simp
    pages := fun _ published => pages_access published reached
    evictions := by
      refine ⟨without rfl, ?_⟩
      have nothing : evicted ⟨.access reached, cache⟩ = [] := by
        rw [evicted, List.filter_eq_nil_iff]
        intro page retained dropped
        exact of_decide_eq_true dropped (kept retained)
      rw [nothing]
      simp [turn, Cache.perform, silent]
    late := by
      intro waiting rest _ _ released
      cases released
      have same :
          (cache.take reached).cache.overdue waiting = cache.overdue waiting := by
        rw [Cache.overdue, Cache.overdue, (Cache.generation_take reached cache).1]
      rw [without rfl]
      simp [turn, Cache.perform, same]
  }

/-! ### Announcements, settlements and clearings -/

/-- A call that leaves all pages where they are evicts nothing. -/
theorem evicted_of_pages_eq
    {call : Call ι κ ν}
    (same : call.turn.cache.table.pages = call.found.table.pages) :
    call.evicted = [] := by
  rw [evicted]
  split
  · rfl
  · rw [same, List.filter_eq_nil_iff]
    simp

omit [DecidableEq ι] [DecidableEq κ] in
theorem countP_evicts_abandoned (cache : Cache ι κ ν) :
    cache.abandoned.countP Departure.evicts = 0 := by
  rw [Cache.abandoned]
  cases cache.pending <;> rfl

theorem reported_of_ignored
    {attempt : UInt64}
    {observed : ι}
    {cache : Cache ι κ ν}
    (remembered : attempt ∈ cache.handled) :
    Reported ⟨.announce attempt observed, cache⟩ := by
  have ignores :
      cache.perform (.announce attempt observed) =
        ⟨.announced none, cache,
          [.note (.ignored attempt), .count .duplicate], []⟩ := by
    simp [Cache.perform, Turn.answering, Cache.announce, Cache.remember?,
      remembered]
  have counted (tally : Tally) :
      raises tally ⟨.announce attempt observed, cache⟩ =
        if tally = .duplicate then 1 else 0 := by
    simp only [raises, turn, ignores]
    cases tally <;> rfl
  exact {
    flights := by simp [counted, turn, ignores]
    announcements := by simp [counted]
    settlements := by simp
    pages := by simp [turn, ignores, Ledger.file]
    evictions := by
      rw [evicted_of_pages_eq (by rw [turn, ignores])]
      simp [counted, turn, ignores]
    late := by
      intro waiting rest _ _ released
      cases released
      simp [counted, turn, ignores, Answer.generation?]
  }

omit [DecidableEq ι] [DecidableEq κ] in
/-- What is superseded counts as discarded. -/
theorem countP_supersededReports (tally : Tally) (cache : Cache ι κ ν) :
    cache.supersededReports.countP (Report.counts tally) =
      if tally = .discard then cache.isTransitioning.toNat else 0 := by
  rw [Cache.supersededReports, Cache.isTransitioning]
  cases cache.pending <;> cases tally <;> rfl

omit [DecidableEq ι] [DecidableEq κ] in
theorem pages_supersededReports (cache : Cache ι κ ν) (ledger : Ledger) :
    (ledger.enter cache.supersededReports).pages = ledger.pages := by
  rw [Cache.supersededReports]
  cases cache.pending <;> rfl

theorem reported_of_accepted
    {attempt : UInt64}
    {observed : ι}
    {cache : Cache ι κ ν}
    (unknown : attempt ∉ cache.handled) :
    Reported ⟨.announce attempt observed, cache⟩ := by
  have accepted := Cache.announce_of_not_mem unknown observed
  have left :
      (cache.announce attempt observed).departures = cache.abandoned := by
    simp [Cache.announce, Cache.remember?, unknown]
  have reports :
      (cache.announce attempt observed).reports =
        [.note (.started attempt (cache.generation + 1)
            (cache.prepare observed).1 cache.current observed)] ++
          cache.supersededReports ++
          [.count .transition] := by
    simp [Cache.announce, Cache.remember?, unknown]
  have counted (tally : Tally) :
      raises tally ⟨.announce attempt observed, cache⟩ =
        (if tally = .discard then cache.isTransitioning.toNat else 0) +
          if tally = .transition then 1 else 0 := by
    simp only [raises, turn, Cache.perform, Turn.answering, reports,
      List.countP_append, countP_supersededReports]
    cases tally <;> simp [Report.counts]
  exact {
    flights := by
      simp [counted, turn, Cache.perform, Turn.answering, accepted,
        Cache.isTransitioning]
    announcements := by simp [counted]
    settlements := by simp
    pages := by
      intro ledger published
      simp only [turn, Cache.perform, Turn.answering, reports, accepted,
        Ledger.enter_append, Ledger.enter_cons, Ledger.enter_nil, Ledger.file,
        Ledger.pages_increase, pages_supersededReports]
      exact published
    evictions := by
      rw [evicted_of_pages_eq (by simp [turn, Cache.perform, Turn.answering,
        accepted])]
      simp [counted, turn, Cache.perform, Turn.answering, left,
        countP_evicts_abandoned]
    late := by
      intro waiting rest distinct given released
      cases released
      have atMost := Cache.length_le_overdue distinct cache
      have isNew : cache.generation + 1 ∉ waiting := fun waits =>
        absurd (given _ waits) (Nat.not_succ_le_self cache.generation)
      have newest :=
        Cache.overdue_append_newest (congrArg Cache.pending accepted.2) isNew
      simp only [counted, turn, Cache.perform, Turn.answering,
        Answer.generation?, accepted.1, Option.toList_some, newest, reduceCtorEq,
        if_true, if_false]
      omega
  }

theorem reported_of_stale
    {generation : Nat}
    {outcome : Outcome}
    {observed : ι}
    {cache : Cache ι κ ν}
    (gone :
      ∀ pending,
        cache.pending = some pending →
        pending.generation ≠ generation) :
    Reported ⟨.settle generation outcome observed, cache⟩ := by
  have stale :
      cache.perform (.settle generation outcome observed) =
        ⟨.nothing, cache,
          [.note (.stale generation outcome), .count .stale], []⟩ := by
    simp [Cache.perform, Turn.answering,
      Cache.settle_of_stale gone outcome observed, Cache.settleStale]
  have counted (tally : Tally) :
      raises tally ⟨.settle generation outcome observed, cache⟩ =
        if tally = .stale then 1 else 0 := by
    simp only [raises, turn, stale]
    cases tally <;> rfl
  exact {
    flights := by simp [counted, turn, stale]
    announcements := by simp
    settlements := by simp [counted]
    pages := by simp [turn, stale, Ledger.file]
    evictions := by
      rw [evicted_of_pages_eq (by rw [turn, stale])]
      simp [counted, turn, stale]
    late := by
      intro waiting rest _ _ released
      obtain ⟨waits, rfl⟩ := Operation.eq_erase_of_release? released
      have before := Cache.overdue_erase waits gone
      simp only [counted, turn, stale, Answer.generation?, Option.toList_none,
        List.append_nil, reduceCtorEq, if_true, if_false]
      omega
  }

theorem reported_of_discard
    {pending : Pending κ ν}
    {outcome : Outcome}
    {observed : ι}
    {cache : Cache ι κ ν}
    (found : cache.pending = some pending)
    (unsuccessful : outcome ≠ .succeeded) :
    Reported ⟨.settle pending.generation outcome observed, cache⟩ := by
  have dropped :
      cache.perform (.settle pending.generation outcome observed) =
        ⟨.nothing, { cache with pending := none },
          [.note (.unsuccessful pending.generation outcome), .count .discard],
          [⟨.discard, cache.current⟩]⟩ := by
    simp only [Cache.perform, Turn.answering,
      Cache.settle_of_pending found outcome observed, if_neg unsuccessful]
    rfl
  have counted (tally : Tally) :
      raises tally ⟨.settle pending.generation outcome observed, cache⟩ =
        if tally = .discard then 1 else 0 := by
    simp only [raises, turn, dropped]
    cases tally <;> rfl
  exact {
    flights := by simp [counted, turn, dropped, Cache.isTransitioning, found]
    announcements := by simp
    settlements := by simp [counted]
    pages := by simp [turn, dropped, Ledger.file]
    evictions := by
      rw [evicted_of_pages_eq (by rw [turn, dropped])]
      simp [counted, turn, dropped, Departure.evicts]
    late := by
      intro waiting rest distinct _ released
      obtain ⟨waits, rfl⟩ := Operation.eq_erase_of_release? released
      have parts := Cache.overdue_of_pending found waiting
      have once := List.nodup_iff_count_le_one.mp distinct pending.generation
      have nothing (waiting : List Nat) :
          { cache with pending := none }.overdue waiting = waiting.length :=
        Cache.overdue_of_idle rfl waiting
      simp only [counted, turn, dropped, Answer.generation?, Option.toList_none,
        List.append_nil, nothing, List.length_erase_of_mem waits, reduceCtorEq,
        if_true, if_false]
      omega
  }

theorem reported_of_commit
    {pending : Pending κ ν}
    {observed : ι}
    {cache : Cache ι κ ν}
    (sound : cache.Sound)
    (found : cache.pending = some pending) :
    Reported ⟨.settle pending.generation .succeeded observed, cache⟩ := by
  let table := (cache.table.commit observed pending.finished).1
  let departures := (cache.table.commit observed pending.finished).2
  have committed :
      cache.perform (.settle pending.generation .succeeded observed) =
        ⟨.nothing,
          { cache with table := table, current := observed, pending := none },
          [.note (.committed pending.generation pending.movement observed)] ++
            evictionNotes departures ++
            [.count .commit, .size table.size],
          departures⟩ := by
    simp only [Cache.perform, Turn.answering,
      Cache.settle_of_pending found .succeeded observed, if_true]
    rfl
  have counted (tally : Tally) :
      raises tally ⟨.settle pending.generation .succeeded observed, cache⟩ =
        if tally = .commit then 1 else 0 := by
    simp only [raises, turn, committed, List.countP_append,
      countP_evictionNotes]
    cases tally <;> rfl
  exact {
    flights := by
      simp [counted, turn, committed, Cache.isTransitioning, found]
    announcements := by simp
    settlements := by simp [counted]
    pages := by
      simp [turn, committed, Ledger.file, enter_evictionNotes]
    evictions := by
      refine ⟨by simp [counted], ?_⟩
      have gone :=
        Table.evicted_by_commit sound.table observed pending.finished
      simp only [turn, committed, evicted, List.countP_eq_length_filter]
      rw [gone, List.length_map]
    late := by
      intro waiting rest distinct _ released
      obtain ⟨waits, rfl⟩ := Operation.eq_erase_of_release? released
      have parts := Cache.overdue_of_pending found waiting
      have once := List.nodup_iff_count_le_one.mp distinct pending.generation
      have nothing (waiting : List Nat) :
          { cache with table := table, current := observed, pending := none
            }.overdue waiting =
            waiting.length :=
        Cache.overdue_of_idle rfl waiting
      simp only [counted, turn, committed, Answer.generation?,
        Option.toList_none, List.append_nil, nothing,
        List.length_erase_of_mem waits, reduceCtorEq, if_false]
      omega
  }

theorem reported_of_clear (observed : ι) (cache : Cache ι κ ν) :
    Reported ⟨.clear observed, cache⟩ := by
  have counted (tally : Tally) :
      raises tally ⟨.clear observed, cache⟩ =
        if tally = .discard then cache.isTransitioning.toNat else 0 := by
    simp only [raises, turn, Cache.perform, Turn.answering, Cache.clear,
      Cache.clearedReports, Cache.isTransitioning]
    cases cache.pending <;> cases tally <;> rfl
  have without : cache.table.clear.2.countP Departure.evicts = 0 := by
    rw [List.countP_eq_zero]
    intro departure member
    obtain ⟨page, _, rfl⟩ := List.mem_map.mp member
    simp [Departure.evicts]
  exact {
    flights := by
      have landed : (cache.clear observed).cache.isTransitioning = false := rfl
      simp [counted, turn, Cache.perform, Turn.answering, landed]
    announcements := by simp
    settlements := by simp
    pages := by
      intro ledger _
      simp [turn, Cache.perform, Turn.answering, Cache.clear, Ledger.file,
        ← Table.length_pages]
    evictions := by
      refine ⟨by simp [counted], ?_⟩
      simp [turn, Cache.perform, Turn.answering, Cache.clear, without,
        countP_evicts_abandoned, evicted]
    late := by
      intro waiting rest distinct _ released
      cases released
      have atMost := Cache.length_le_overdue distinct cache
      have landed : (cache.clear observed).cache.pending = none := rfl
      simpa [counted, turn, Cache.perform, Turn.answering, Answer.generation?,
        Cache.overdue_of_idle landed] using atMost
  }

/-- Every call reports what it does. -/
theorem reported_of_sound
    {call : Call ι κ ν}
    (sound : call.found.Sound) :
    call.Reported := by
  obtain ⟨operation, cache⟩ := call
  cases Cache.effect_perform operation cache with
  | edits reached _ isAccess | reads reached isAccess =>
      subst isAccess
      exact reported_of_access sound reached
  | sets key value isAccess | deletes key isAccess =>
      subst isAccess
      exact reported_of_access sound _
  | ignores attempt observed isAnnouncement remembered =>
      subst isAnnouncement
      exact reported_of_ignored remembered
  | accepts attempt observed isAnnouncement unknown =>
      subst isAnnouncement
      exact reported_of_accepted unknown
  | comesLate generation outcome observed isSettlement gone =>
      subst isSettlement
      exact reported_of_stale gone
  | commits pending observed isSettlement found =>
      subst isSettlement
      exact reported_of_commit sound found
  | drops pending outcome observed isSettlement found unsuccessful =>
      subst isSettlement
      exact reported_of_discard found unsuccessful
  | clears observed isClearing =>
      subst isClearing
      exact reported_of_clear observed cache

end Call

end NavState
