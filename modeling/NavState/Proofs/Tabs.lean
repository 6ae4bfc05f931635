import NavState.Proofs.Flight
import NavState.Proofs.Histories

namespace NavState

/-!
# Sessions of a tab

A tab is a history with a cache that follows it.  Its session is a list of legs:
accesses between attempts, and attempts that run one after the other.  A link
pushes an entry just before it succeeds, a lapsed link leaves the history where
it is, and a traversal is announced when the history has gone to its entry.

Between two legs the tab is in step: the cache is on the entry that the history
shows, and it retains a store for it.
-/

/-- The page that a report tells the commit of. -/
def Report.committed?
    {ι : Type}
    (report : Report ι) :
    Option ι :=
  match report with
  | .note (.committed _ _ page) => some page
  | _ => none

/-- The pages committed in a turn. -/
def Turn.committed
    {ι κ ν ρ : Type}
    (turn : Turn ι κ ν ρ) :
    List ι :=
  turn.reports.filterMap Report.committed?

/-- A history and the cache that follows it. -/
structure Tab (κ ν : Type) where
  history : History
  cache : Cache Nat κ ν
  deriving DecidableEq

/-- A part of a session with no attempt in flight at its ends. -/
inductive Leg (κ ν : Type) where
  /-- A read or a write between two attempts. -/
  | rest (access : Access Nat κ ν)
  | link (attempt : UInt64) (during : List (Access Nat κ ν))
  /-- A link that fails or is aborted. -/
  | lapse
      (attempt : UInt64)
      (during : List (Access Nat κ ν))
      (outcome : Outcome)
      (unsuccessful : outcome ≠ .succeeded)
  /-- The history goes first, and `early` accesses may precede the announcement. -/
  | traversal
      (delta : Int)
      (away : delta ≠ 0)
      (early : List (Access Nat κ ν))
      (attempt : UInt64)
      (during : List (Access Nat κ ν))

namespace Leg

variable {κ ν : Type}

/-- The attempts that a leg announces. -/
def attempts (leg : Leg κ ν) : List UInt64 :=
  match leg with
  | .rest _ => []
  | .link attempt _ => [attempt]
  | .lapse attempt _ _ _ => [attempt]
  | .traversal _ _ _ attempt _ => [attempt]

/-- The accesses of a leg that are not part of its attempt. -/
def outside (leg : Leg κ ν) : List (Access Nat κ ν) :=
  match leg with
  | .rest access => [access]
  | .link _ _ => []
  | .lapse _ _ _ _ => []
  | .traversal _ _ early _ _ => early

/-- A leg writes inside its attempt at most. -/
def Quiet (leg : Leg κ ν) : Prop :=
  ∀ access, access ∈ leg.outside → access.writes = false

end Leg

namespace Cache

variable {ι κ ν : Type} [DecidableEq ι] [DecidableEq κ]

/-- Take accesses one after the other. -/
def afterAccesses
    (accesses : List (Access ι κ ν))
    (cache : Cache ι κ ν) :
    Cache ι κ ν :=
  cache.after (accesses.map .access)

/--
Make an attempt from its announcement to its settlement, with the pages it
commits.  An attempt that is ignored is not settled.
-/
def attempted
    (attempt : UInt64)
    (observed : ι)
    (during : List (Access ι κ ν))
    (outcome : Outcome)
    (shown : ι)
    (cache : Cache ι κ ν) :
    Cache ι κ ν × List ι :=
  let announced := cache.announce attempt observed
  let settling := announced.cache.afterAccesses during
  match announced.result with
  | none => (settling, [])
  | some generation =>
      let settled := settling.settle generation outcome shown
      (settled.cache, settled.committed)

end Cache

namespace Tab

variable {κ ν : Type} [DecidableEq κ]

/-- Take a leg, with the pages it commits; the history may not go that far. -/
def take?
    (leg : Leg κ ν)
    (tab : Tab κ ν) :
    Option (Tab κ ν × List Nat) :=
  match leg with
  | .rest access =>
      some (⟨tab.history, tab.cache.afterAccesses [access]⟩, [])
  | .link attempt during =>
      let pushed := tab.history.push
      let (cache, committed) :=
        tab.cache.attempted attempt tab.history.current during .succeeded
          pushed.current
      some (⟨pushed, cache⟩, committed)
  | .lapse attempt during outcome _ =>
      let (cache, committed) :=
        tab.cache.attempted attempt tab.history.current during outcome
          tab.history.current
      some (⟨tab.history, cache⟩, committed)
  | .traversal delta _ early attempt during =>
      match tab.history.go? delta with
      | none => none
      | some moved =>
          let (cache, committed) :=
            (tab.cache.afterAccesses early).attempted attempt moved.current
              during .succeeded moved.current
          some (⟨moved, cache⟩, committed)

/-- Take the legs of a session, with the pages they commit in order. -/
def travel?
    (legs : List (Leg κ ν))
    (tab : Tab κ ν) :
    Option (Tab κ ν × List Nat) :=
  match legs with
  | [] => some (tab, [])
  | leg :: rest =>
      match tab.take? leg with
      | none => none
      | some (reached, committed) =>
          match reached.travel? rest with
          | none => none
          | some (ended, later) => some (ended, committed ++ later)

end Tab

/-! ## What a leg makes of the cache -/

namespace Cache

variable {ι κ ν : Type} [DecidableEq ι] [DecidableEq κ]

/-- A cache with nothing in flight and a store for its current page. -/
structure Resting (cache : Cache ι κ ν) : Prop where
  sound : cache.Sound
  idle : cache.pending = none
  retained : cache.current ∈ cache.table.pages

/--
Some attempts and accesses lead from a cache to another and commit some pages.
The pages retained in the end are the recent ones.  Those that were not
committed keep their stores; for the current page this is so only if the
accesses outside the attempts were `quiet`.
-/
structure Leads
    (quiet : Prop)
    (attempts : List UInt64)
    (committed : List ι)
    (before ended : Cache ι κ ν) :
    Prop where
  resting : ended.Resting
  capacity : ended.table.capacity = before.table.capacity
  pages :
    ended.table.pages =
      recent before.table.capacity (before.table.pages ++ committed)
  current : ended.current = committed.getLast?.getD before.current
  handled : ended.handled ⊆ before.handled ++ attempts
  stores :
    ∀ page,
      (page = before.current → quiet) →
      page ∉ committed →
      page ∈ ended.table.pages →
      ended.table.get? page = before.table.get? page

/-- Attempts that differ from each other and that the cache does not remember. -/
structure Unused (attempts : List UInt64) (cache : Cache ι κ ν) : Prop where
  distinct : attempts.Nodup
  unknown : ∀ attempt, attempt ∈ attempts → attempt ∉ cache.handled

omit [DecidableEq κ] in
theorem Resting.leads
    {cache : Cache ι κ ν}
    (resting : cache.Resting)
    (quiet : Prop) :
    Leads quiet [] [] cache cache where
  resting := resting
  capacity := rfl
  pages := by
    rw [List.append_nil]
    exact (recent_of_nodup resting.sound.table.distinct
      resting.sound.table.within).symm
  current := rfl
  handled := by simp
  stores := fun _ _ _ _ => rfl

namespace Leads

variable {quiet : Prop} {attempts : List UInt64} {committed : List ι}
variable {before ended : Cache ι κ ν}

omit [DecidableEq κ] in
/-- A page that stays without being committed was there before. -/
theorem retained_before
    (leads : Leads quiet attempts committed before ended)
    {page : ι}
    (absent : page ∉ committed)
    (stays : page ∈ ended.table.pages) :
    page ∈ before.table.pages := by
  rw [leads.pages] at stays
  rcases List.mem_append.mp (mem_of_mem_recent stays) with retained | isNew
  · exact retained
  · exact absurd isNew absent

omit [DecidableEq κ] in
theorem weaken
    {quieter : Prop}
    (leads : Leads quiet attempts committed before ended)
    (implies : quieter → quiet) :
    Leads quieter attempts committed before ended :=
  { leads with
    stores := fun page quietHere =>
      leads.stores page fun isCurrent => implies (quietHere isCurrent) }

omit [DecidableEq κ] in
/-- If any page was committed, the current one was. -/
theorem current_mem
    (leads : Leads quiet attempts committed before ended)
    (commits : committed ≠ []) :
    ended.current ∈ committed := by
  rw [leads.current, List.getLast?_eq_getLast_of_ne_nil commits]
  exact List.getLast_mem commits

omit [DecidableEq κ] in
/-- What was unused before and is not among the attempts is unused after them. -/
theorem unused
    (leads : Leads quiet attempts committed before ended)
    {later : List UInt64}
    (unusedBefore : before.Unused (attempts ++ later)) :
    ended.Unused later where
  distinct := (List.nodup_append.mp unusedBefore.distinct).2.1
  unknown := by
    intro attempt isLater remembered
    rcases List.mem_append.mp (leads.handled remembered) with known | isEarlier
    · exact unusedBefore.unknown attempt (by simp [isLater]) known
    · have apart := (List.nodup_append.mp unusedBefore.distinct).2.2
      exact apart attempt isEarlier attempt isLater rfl

omit [DecidableEq κ] in
/--
What leads on leads all the way.  Quietness is asked of the second part only if
the first one commits nothing, since otherwise the page was left.
-/
theorem trans
    {quietLater : Prop}
    {attemptsLater : List UInt64}
    {committedLater : List ι}
    {after : Cache ι κ ν}
    (first : Leads quiet attempts committed before ended)
    (second : Leads quietLater attemptsLater committedLater ended after)
    (stillQuiet : committed = [] → quiet → quietLater) :
    Leads quiet (attempts ++ attemptsLater) (committed ++ committedLater)
      before after where
  resting := second.resting
  capacity := second.capacity.trans first.capacity
  pages := by
    rw [second.pages, first.pages, first.capacity, recent_append,
      List.append_assoc]
  current := by
    rw [second.current, first.current, List.getLast?_append]
    cases committedLater.getLast? <;> rfl
  handled := by
    rw [← List.append_assoc]
    exact List.Subset.trans second.handled
      (List.append_subset.mpr
        ⟨List.Subset.trans first.handled (List.subset_append_left _ _),
          List.subset_append_right _ _⟩)
  stores := by
    intro page quietHere absent stays
    rw [List.mem_append, not_or] at absent
    have staysBetween := second.retained_before absent.2 stays
    have quietThere : page = ended.current → quietLater := by
      intro isCurrent
      by_cases commits : committed = []
      · apply stillQuiet commits
        apply quietHere
        rw [isCurrent, first.current, commits]
        rfl
      · have wasCommitted := first.current_mem commits
        rw [← isCurrent] at wasCommitted
        exact absurd wasCommitted absent.1
    calc
      after.table.get? page = ended.table.get? page :=
        second.stores page quietThere absent.2 stays
      _ = before.table.get? page :=
        first.stores page quietHere absent.1 staysBetween

omit [DecidableEq κ] in
/--
The page that was current, and so touched last, is retained as long as fewer
other pages than the capacity are committed.
-/
theorem current_mem_iff
    (leads : Leads quiet attempts committed before ended)
    (resting : before.Resting)
    (absent : before.current ∉ committed) :
    before.current ∈ ended.table.pages ↔
      committed.toFinset.card < before.table.capacity := by
  have last := resting.sound.getLast?_pages resting.retained
  rcases List.getLast?_eq_some_iff.mp last with ⟨front, pages⟩
  rw [leads.pages, pages, List.append_assoc]
  exact mem_recent_iff absent _ front

end Leads

omit [DecidableEq κ] in
/-- Editing the store of the current page in place leads nowhere. -/
theorem Resting.leads_adjust
    {cache : Cache ι κ ν}
    (resting : cache.Resting)
    {quiet : Prop}
    (notQuiet : ¬ quiet)
    (change : Store κ ν → Store κ ν) :
    Leads quiet [] [] cache
      { cache with table := cache.table.adjust cache.current change } where
  resting := {
    sound := {
      table := resting.sound.table.adjust _ _
      newest := resting.sound.newest
      lastTouched := by
        rw [Table.pages_adjust]
        exact resting.sound.lastTouched
    }
    idle := resting.idle
    retained := by
      rw [Table.pages_adjust]
      exact resting.retained
  }
  capacity := rfl
  pages := by
    rw [Table.pages_adjust]
    exact (resting.leads quiet).pages
  current := rfl
  handled := by simp
  stores := by
    intro page quietHere _ _
    have isOther : page ≠ cache.current := fun same => notQuiet (quietHere same)
    exact Table.get?_adjust_of_ne isOther change cache.table

/-- An access outside of attempts leads nowhere. -/
theorem Resting.leads_take
    {cache : Cache ι κ ν}
    (resting : cache.Resting)
    (access : Access ι κ ν) :
    Leads (access.writes = false) [] [] cache (cache.take access).cache := by
  have idle := resting.idle
  cases access with
  | set key value =>
      have edits :
          (cache.take (.set key value)).cache =
            { cache with
              table :=
                cache.table.adjust cache.current (Store.insert key value) } := by
        simp [take, Turn.answering, set, idle,
          Table.ensure_of_mem resting.retained]
      rw [edits]
      exact resting.leads_adjust (by simp [Access.writes]) _
  | delete key =>
      have edits :
          (cache.take (.delete key)).cache =
            { cache with
              table := cache.table.adjust cache.current (Store.erase key) } := by
        simp [take, Turn.answering, delete, adjustTarget, idle]
      rw [edits]
      exact resting.leads_adjust (by simp [Access.writes]) _
  | get key =>
      exact resting.leads _
  | binds key =>
      exact resting.leads _
  | entry page =>
      exact resting.leads _
  | isHistoric =>
      exact resting.leads _

/-- Accesses outside of attempts lead nowhere. -/
theorem Resting.leads_accesses
    {cache : Cache ι κ ν}
    (resting : cache.Resting)
    (accesses : List (Access ι κ ν)) :
    Leads (∀ access, access ∈ accesses → access.writes = false) [] [] cache
      (cache.afterAccesses accesses) := by
  induction accesses generalizing cache with
  | nil =>
      exact resting.leads _
  | cons access rest inductionHypothesis =>
      have first := resting.leads_take access
      have second := inductionHypothesis first.resting
      have firstQuiet :
          (∀ other, other ∈ access :: rest → other.writes = false) →
            access.writes = false :=
        fun quiet => quiet access (by simp)
      exact (first.weaken firstQuiet).trans second
        fun _ quiet other member => quiet other (by simp [member])

omit [DecidableEq ι] [DecidableEq κ] in
theorem filterMap_evictionNotes (departures : List (Departure ι)) :
    (evictionNotes departures).filterMap Report.committed? = [] := by
  rw [List.filterMap_eq_nil_iff]
  intro report member
  obtain ⟨departure, _, told⟩ := List.mem_filterMap.mp member
  obtain ⟨reason, page⟩ := departure
  cases reason <;> simp at told
  subst told
  rfl

omit [DecidableEq κ] in
theorem committed_commit
    (pending : Pending κ ν)
    (shown : ι)
    (cache : Cache ι κ ν) :
    (cache.commit pending shown).committed = [shown] := by
  simp [Turn.committed, commit, filterMap_evictionNotes, Report.committed?]

/-- What a whole attempt does to the cache, if it is not ignored. -/
theorem attempted_of_not_mem
    {attempt : UInt64}
    {cache : Cache ι κ ν}
    (unknown : attempt ∉ cache.handled)
    (observed : ι)
    (during : List (Access ι κ ν))
    (outcome : Outcome)
    (shown : ι) :
    ∃ store,
      cache.attempted attempt observed during outcome shown =
        if outcome = .succeeded then
          ({ (cache.announce attempt observed).cache with
              table := (cache.table.commit shown store).1
              current := shown
              pending := none },
            [shown])
        else
          ({ (cache.announce attempt observed).cache with pending := none },
            []) := by
  have only :
      ∀ operation,
        operation ∈ during.map Operation.access →
        ∃ reached, operation = .access reached := by
    intro operation member
    obtain ⟨reached, _, same⟩ := List.mem_map.mp member
    exact ⟨reached, same.symm⟩
  obtain ⟨accepted, _⟩ := announce_of_not_mem unknown observed
  obtain ⟨_, _, sameTable, _⟩ := pending_announce accepted
  have settling :=
    after_announce accepted (staysNewest_of_accesses only _)
      (unsettled_of_accesses only _)
  let pending : Pending κ ν :=
    ⟨cache.generation + 1, (cache.prepare observed).1,
      edited (during.map .access) (cache.prepare observed).2⟩
  refine ⟨pending.finished, ?_⟩
  simp only [attempted, accepted, afterAccesses, settling]
  rw [@settle_of_pending _ _ _ _ _ pending rfl]
  by_cases succeeded : outcome = .succeeded
  · rw [if_pos succeeded, if_pos succeeded, committed_commit, (commit_eq _ _ _).1,
      ← sameTable]
  · rw [if_neg succeeded, if_neg succeeded]
    rfl

/-- A whole attempt commits the page shown if it succeeds, and leads to it. -/
theorem Resting.leads_attempted
    {cache : Cache ι κ ν}
    (resting : cache.Resting)
    {attempt : UInt64}
    (unknown : attempt ∉ cache.handled)
    (observed : ι)
    (during : List (Access ι κ ν))
    (outcome : Outcome)
    (shown : ι) :
    (cache.attempted attempt observed during outcome shown).2 =
        (if outcome = .succeeded then [shown] else []) ∧
      Leads True [attempt]
        (cache.attempted attempt observed during outcome shown).2
        cache
        (cache.attempted attempt observed during outcome shown).1 := by
  have remembered :
      (cache.announce attempt observed).cache.handled ⊆
        cache.handled ++ [attempt] := by
    rw [(announce_of_not_mem unknown observed).2]
    exact List.drop_subset _ _
  obtain ⟨accepted, _⟩ := announce_of_not_mem unknown observed
  obtain ⟨_, _, sameTable, sameCurrent⟩ := pending_announce accepted
  obtain ⟨store, made⟩ :=
    attempted_of_not_mem unknown observed during outcome shown
  rw [made]
  by_cases succeeded : outcome = .succeeded
  · rw [if_pos succeeded, if_pos succeeded]
    refine ⟨rfl, ?_⟩
    have pages := Table.pages_commit resting.sound.table shown store
    have last :=
      getLast?_recent_concat cache.table.capacity_pos cache.table.pages shown
    rw [← pages] at last
    exact {
      resting := {
        sound := {
          table := resting.sound.table.commit shown store
          newest := by simp
          lastTouched := by
            intro page isLast
            rw [last] at isLast
            exact (Option.some.inj isLast).symm
        }
        idle := rfl
        retained := List.mem_of_getLast? last
      }
      capacity := rfl
      pages := pages
      current := rfl
      handled := remembered
      stores := by
        intro page _ absent stays
        have isOther : page ≠ shown := by simpa using absent
        exact Table.get?_commit_of_ne resting.sound.table store isOther stays
    }
  · rw [if_neg succeeded, if_neg succeeded]
    refine ⟨rfl, ?_⟩
    have stayed := resting.leads True
    exact {
      resting := {
        sound := {
          table := by
            rw [sameTable]
            exact resting.sound.table
          newest := by simp
          lastTouched := by
            rw [sameTable, sameCurrent]
            exact resting.sound.lastTouched
        }
        idle := rfl
        retained := by
          rw [sameTable, sameCurrent]
          exact resting.retained
      }
      capacity := congrArg Table.capacity sameTable
      pages := by
        rw [sameTable]
        exact stayed.pages
      current := sameCurrent
      handled := remembered
      stores := by
        intro page _ _ _
        rw [sameTable]
    }

end Cache

/-! ## What a leg makes of the tab -/

namespace Tab

variable {κ ν : Type} [DecidableEq κ]

/-- The history and the cache show the same page, with nothing in flight. -/
structure InStep (tab : Tab κ ν) : Prop where
  history : tab.history.Sound
  resting : tab.cache.Resting
  shown : tab.history.current = tab.cache.current

/-- A leg keeps the tab in step, and it commits no page it starts from. -/
theorem InStep.take?
    {tab reached : Tab κ ν}
    {leg : Leg κ ν}
    {committed : List Nat}
    (inStep : tab.InStep)
    (fresh : ∀ attempt, attempt ∈ leg.attempts → attempt ∉ tab.cache.handled)
    (took : tab.take? leg = some (reached, committed)) :
    reached.InStep ∧
      Cache.Leads leg.Quiet leg.attempts committed tab.cache reached.cache ∧
      tab.cache.current ∉ committed := by
  have resting := inStep.resting
  cases leg with
  | rest access =>
      obtain ⟨rfl, rfl⟩ := Prod.mk.inj (Option.some.inj took)
      have leads := resting.leads_accesses [access]
      refine ⟨⟨inStep.history, leads.resting, ?_⟩, leads, by simp⟩
      exact inStep.shown.trans leads.current.symm
  | link attempt during =>
      simp only [Tab.take?] at took
      obtain ⟨rfl, rfl⟩ := Prod.mk.inj (Option.some.inj took)
      have unknown := fresh attempt (by simp [Leg.attempts])
      obtain ⟨commits, leads⟩ :=
        resting.leads_attempted unknown tab.history.current during .succeeded
          tab.history.push.current
      rw [if_pos rfl] at commits
      rw [commits] at leads ⊢
      refine ⟨⟨inStep.history.push, leads.resting, leads.current.symm⟩,
        leads.weaken fun _ => trivial, ?_⟩
      rw [List.mem_singleton, ← inStep.shown]
      intro same
      have known := tab.history.current_mem
      rw [same] at known
      exact inStep.history.current_push_not_mem known
  | lapse attempt during outcome unsuccessful =>
      simp only [Tab.take?] at took
      obtain ⟨rfl, rfl⟩ := Prod.mk.inj (Option.some.inj took)
      have unknown := fresh attempt (by simp [Leg.attempts])
      obtain ⟨commits, leads⟩ :=
        resting.leads_attempted unknown tab.history.current during outcome
          tab.history.current
      rw [if_neg unsuccessful] at commits
      rw [commits] at leads ⊢
      refine ⟨⟨inStep.history, leads.resting, ?_⟩,
        leads.weaken fun _ => trivial, by simp⟩
      exact inStep.shown.trans leads.current.symm
  | traversal delta away early attempt during =>
      cases went : tab.history.go? delta with
      | none =>
          simp [Tab.take?, went] at took
      | some moved =>
          simp only [Tab.take?, went] at took
          obtain ⟨rfl, rfl⟩ := Prod.mk.inj (Option.some.inj took)
          have before := resting.leads_accesses early
          have unknown :
              attempt ∉ (tab.cache.afterAccesses early).handled := by
            intro remembered
            have wasKnown := before.handled remembered
            rw [List.append_nil] at wasKnown
            exact fresh attempt (by simp [Leg.attempts]) wasKnown
          obtain ⟨commits, attempted⟩ :=
            before.resting.leads_attempted unknown moved.current during
              .succeeded moved.current
          rw [if_pos rfl] at commits
          rw [commits] at attempted ⊢
          have leads := before.trans attempted fun _ _ => trivial
          refine ⟨⟨inStep.history.go? went, leads.resting,
            leads.current.symm⟩, leads, ?_⟩
          rw [List.mem_singleton, ← inStep.shown]
          exact (inStep.history.current_ne_of_go? away went).symm

/-- The legs of a session keep the tab in step. -/
theorem InStep.travel?
    {legs : List (Leg κ ν)}
    {tab ended : Tab κ ν}
    {committed : List Nat}
    (inStep : tab.InStep)
    (unused : tab.cache.Unused (legs.flatMap Leg.attempts))
    (travelled : tab.travel? legs = some (ended, committed)) :
    ended.InStep ∧
      Cache.Leads (∀ leg, leg ∈ legs → leg.Quiet)
        (legs.flatMap Leg.attempts) committed tab.cache ended.cache := by
  induction legs generalizing tab committed with
  | nil =>
      obtain ⟨rfl, rfl⟩ := Prod.mk.inj (Option.some.inj travelled)
      exact ⟨inStep, inStep.resting.leads _⟩
  | cons leg rest inductionHypothesis =>
      rw [List.flatMap_cons] at unused ⊢
      simp only [Tab.travel?] at travelled
      split at travelled
      · cases travelled
      · next reached here took =>
          split at travelled
          · cases travelled
          · next _ later wentOn =>
              obtain ⟨rfl, rfl⟩ := Prod.mk.inj (Option.some.inj travelled)
              have fresh :
                  ∀ attempt,
                    attempt ∈ leg.attempts →
                    attempt ∉ tab.cache.handled :=
                fun attempt member =>
                  unused.unknown attempt (by simp [member])
              obtain ⟨reachedInStep, first, _⟩ := inStep.take? fresh took
              obtain ⟨endedInStep, second⟩ :=
                inductionHypothesis reachedInStep (first.unused unused) wentOn
              have firstQuiet :
                  (∀ other, other ∈ leg :: rest → other.Quiet) → leg.Quiet :=
                fun quiet => quiet leg (by simp)
              refine ⟨endedInStep,
                (first.weaken firstQuiet).trans second ?_⟩
              intro _ quiet other member
              exact quiet other (by simp [member])

end Tab

end NavState
