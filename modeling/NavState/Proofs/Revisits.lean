import NavState.Proofs.Tabs

namespace NavState.Tab

/-!
# Coming back to a page

A page that is left is the page touched last.  Whether it is still retained when
the history shows it again therefore depends on the pages committed since, and
as long as it is retained nothing has touched its store.
-/

variable {κ ν : Type} [DecidableEq κ]

/--
A session stays on the page it starts from, leaves it by committing the page
`first`, and commits the pages `later` without coming back.  While the page is
current, only attempts write.
-/
structure Absence
    (start : Tab κ ν)
    (stay : List (Leg κ ν))
    (leave : Leg κ ν)
    (away : List (Leg κ ν))
    (first : Nat)
    (later : List Nat)
    (gone : Tab κ ν) :
    Prop where
  travels :
    ∃ waiting left,
      start.travel? stay = some (waiting, []) ∧
        waiting.take? leave = some (left, [first]) ∧
        left.travel? away = some (gone, later)
  quiet : ∀ leg, leg ∈ stay ++ [leave] → leg.Quiet
  unseen : start.cache.current ∉ later

/-- The attempts of an absence, in order. -/
def absenceAttempts
    (stay : List (Leg κ ν))
    (leave : Leg κ ν)
    (away : List (Leg κ ν)) :
    List UInt64 :=
  stay.flatMap Leg.attempts ++ leave.attempts ++ away.flatMap Leg.attempts

/-- An absence leads to the page it commits last, and never back to the start. -/
theorem Absence.leads
    {start gone : Tab κ ν}
    {stay away : List (Leg κ ν)}
    {leave : Leg κ ν}
    {first : Nat}
    {later : List Nat}
    (absence : start.Absence stay leave away first later gone)
    (inStep : start.InStep)
    (unused : start.cache.Unused (absenceAttempts stay leave away)) :
    gone.InStep ∧
      Cache.Leads True (absenceAttempts stay leave away) (first :: later)
        start.cache gone.cache ∧
      start.cache.current ∉ first :: later := by
  obtain ⟨waiting, left, stays, leaves, goesOn⟩ := absence.travels
  rw [absenceAttempts, List.append_assoc] at unused
  have unusedStaying :
      start.cache.Unused (stay.flatMap Leg.attempts) :=
    ⟨(List.nodup_append.mp unused.distinct).1,
      fun attempt member => unused.unknown attempt (by simp [member])⟩
  obtain ⟨waitingInStep, staying⟩ := inStep.travel? unusedStaying stays
  have unusedLeaving := staying.unused unused
  have freshLeaving :
      ∀ attempt,
        attempt ∈ leave.attempts →
        attempt ∉ waiting.cache.handled :=
    fun attempt member => unusedLeaving.unknown attempt (by simp [member])
  obtain ⟨leftInStep, leaving, notBack⟩ :=
    waitingInStep.take? freshLeaving leaves
  obtain ⟨goneInStep, going⟩ :=
    leftInStep.travel? (leaving.unused unusedLeaving) goesOn
  have stayingQuiet : True → ∀ leg, leg ∈ stay → leg.Quiet :=
    fun _ leg member => absence.quiet leg (by simp [member])
  have leavingQuiet : leave.Quiet := absence.quiet leave (by simp)
  have departed :=
    (staying.weaken stayingQuiet).trans leaving fun _ _ => leavingQuiet
  have whole := departed.trans going (by simp)
  have sameCurrent : waiting.cache.current = start.cache.current :=
    staying.current
  rw [sameCurrent, List.mem_singleton] at notBack
  refine ⟨goneInStep, whole, ?_⟩
  simp [notBack, absence.unseen]

/-- A tab with a committed store for the page it shows is in step. -/
theorem inStep_of_reachable
    {tab : Tab κ ν}
    (historyReachable : tab.history.Reachable)
    (cacheReachable : tab.cache.Reachable)
    (idle : tab.cache.pending = none)
    (shown : tab.history.current = tab.cache.current)
    {store : Store κ ν}
    (committed : tab.cache.entry? tab.cache.current = some store) :
    tab.InStep where
  history := historyReachable.sound
  resting := {
    sound := cacheReachable.sound
    idle := idle
    retained := Table.mem_pages_of_get? committed
  }
  shown := shown

omit [DecidableEq κ] in
/-- An attempt announced on another page starts from what is retained of it. -/
theorem target?_announce_of_ne
    {attempt : UInt64}
    {cache : Cache Nat κ ν}
    {observed : Nat}
    (unknown : attempt ∉ cache.handled)
    (elsewhere : observed ≠ cache.current) :
    (cache.announce attempt observed).cache.target? =
      some
        (Store.markHistoric true ((cache.table.get? observed).getD {})) := by
  rw [(Cache.announce_of_not_mem unknown observed).2, Cache.target?,
    Cache.prepare, if_neg elsewhere]

/--
Leaving a page and coming back restores it exactly as long as the capacity
promises.  When the history shows the page again and an attempt is announced,
reads start from its committed bindings if fewer pages than the capacity were
committed in between; otherwise it is not retained, and they start from nothing.
-/
theorem revisit_restores_within_capacity
    {start : Tab κ ν}
    (historyReachable : start.history.Reachable)
    (cacheReachable : start.cache.Reachable)
    (idle : start.cache.pending = none)
    (shown : start.history.current = start.cache.current)
    {store : Store κ ν}
    (committed : start.cache.entry? start.cache.current = some store)
    {stay away : List (Leg κ ν)}
    {leave : Leg κ ν}
    {first : Nat}
    {later : List Nat}
    {gone : Tab κ ν}
    (absence : start.Absence stay leave away first later gone)
    {attempt : UInt64}
    (unused :
      start.cache.Unused (absenceAttempts stay leave away ++ [attempt])) :
    ∀ (early : List (Access Nat κ ν)) (delta : Int) (returned : History),
      let announced :=
        (gone.cache.afterAccesses early).announce attempt returned.current
      gone.history.go? delta = some returned →
      returned.current = start.cache.current →
      announced.result.isSome = true ∧
        start.cache.current ∉ first :: later ∧
        ((first :: later).toFinset.card < start.cache.table.capacity →
          ∃ target,
            announced.cache.target? = some target ∧
              target.bindings = store.bindings) ∧
        (start.cache.table.capacity ≤ (first :: later).toFinset.card →
          announced.cache.retains start.cache.current = false ∧
            ∃ target,
              announced.cache.target? = some target ∧
                target.bindings = []) := by
  intro early delta returned announced _ reveals
  have inStep :=
    inStep_of_reachable historyReachable cacheReachable idle shown committed
  have unusedAway : start.cache.Unused (absenceAttempts stay leave away) :=
    ⟨(List.nodup_append.mp unused.distinct).1,
      fun earlier member => unused.unknown earlier (by simp [member])⟩
  obtain ⟨goneInStep, leads, absent⟩ := absence.leads inStep unusedAway
  have whole :=
    leads.trans (goneInStep.resting.leads_accesses early) (by simp)
  rw [List.append_nil, List.append_nil] at whole
  have retained := whole.current_mem_iff inStep.resting absent
  have unknown : attempt ∉ (gone.cache.afterAccesses early).handled :=
    (whole.unused unused).unknown attempt (by simp)
  have elsewhere :
      returned.current ≠ (gone.cache.afterAccesses early).current := by
    intro same
    have wasCommitted := whole.current_mem (by simp)
    rw [← same, reveals] at wasCommitted
    exact absent wasCommitted
  obtain ⟨accepted, made⟩ :=
    Cache.announce_of_not_mem unknown returned.current
  have target := target?_announce_of_ne unknown elsewhere
  refine ⟨by rw [accepted]; rfl, absent, ?_, ?_⟩
  · intro few
    have kept :=
      whole.stores start.cache.current (fun _ => trivial) absent
        (retained.mpr few)
    have found :
        (gone.cache.afterAccesses early).table.get? returned.current =
          some store := by
      rw [reveals, kept]
      exact committed
    rw [found] at target
    exact ⟨_, target, rfl⟩
  · intro many
    have dropped :
        start.cache.current ∉ (gone.cache.afterAccesses early).table.pages :=
      fun member => Nat.not_lt_of_le many (retained.mp member)
    have nothing :
        (gone.cache.afterAccesses early).table.get? returned.current =
          none := by
      rw [reveals]
      exact (Table.get?_eq_none_iff _ _).mpr dropped
    rw [nothing] at target
    refine ⟨?_, _, target, rfl⟩
    change
      ((gone.cache.afterAccesses early).announce attempt
        returned.current).cache.table.contains start.cache.current = false
    rw [made, ← Bool.not_eq_true, Table.contains_iff_mem_pages]
    exact dropped

/-- Two pages later, a cache of three pages restores the first and one of two does not. -/
theorem revisit_restores_within_capacity_of_three :
    let start (capacity : Nat) (positive : 0 < capacity) : Tab Nat Nat :=
      ⟨.initial,
        ⟨⟨[(1, ⟨[(0, 5)], false⟩)], capacity, positive⟩, 1, none, 1, [7]⟩⟩
    let stay : List (Leg Nat Nat) :=
      [.rest (.get 0), .lapse 8 [.set 0 9] .failed (by decide)]
    let leave : Leg Nat Nat := .link 9 [.set 0 6]
    let away : List (Leg Nat Nat) :=
      [.rest (.set 1 1), .link 10 [], .traversal (-1) (by decide) [] 11 []]
    let history : History := ⟨[1, 2, 3], 1, 4, by decide⟩
    let second : Store Nat Nat := ⟨[(0, 6), (1, 1)], true⟩
    let roomy : Tab Nat Nat :=
      ⟨history,
        ⟨⟨[(1, ⟨[(0, 5)], false⟩), (3, ⟨[], false⟩), (2, second)], 3,
          by decide⟩, 2, none, 5, [7, 8, 9, 10, 11]⟩⟩
    let tight : Tab Nat Nat :=
      ⟨history,
        ⟨⟨[(3, ⟨[], false⟩), (2, second)], 2, by decide⟩, 2, none, 5,
          [7, 8, 9, 10, 11]⟩⟩
    (start 3 (by decide)).Absence stay leave away 2 [3, 2] roomy ∧
      (start 2 (by decide)).Absence stay leave away 2 [3, 2] tight ∧
      (∃ target,
        (roomy.cache.announce 12 1).cache.target? = some target ∧
          target.bindings = [(0, 5)]) ∧
      (tight.cache.announce 12 1).cache.retains 1 = false := by
  intro start stay leave away history second roomy tight
  have quiet : ∀ leg, leg ∈ stay ++ [leave] → leg.Quiet := by
    intro leg member access outside
    simp only [stay, leave, List.cons_append, List.nil_append, List.mem_cons,
      List.not_mem_nil, or_false] at member
    rcases member with rfl | rfl | rfl <;> simp [Leg.outside] at outside
    rw [outside]
    rfl
  let waiting (capacity : Nat) (positive : 0 < capacity) : Tab Nat Nat :=
    ⟨.initial,
      ⟨⟨[(1, ⟨[(0, 5)], false⟩)], capacity, positive⟩, 1, none, 2, [7, 8]⟩⟩
  let left (capacity : Nat) (positive : 0 < capacity) : Tab Nat Nat :=
    ⟨⟨[1, 2], 1, 3, by decide⟩,
      ⟨⟨[(1, ⟨[(0, 5)], false⟩), (2, ⟨[(0, 6)], false⟩)], capacity, positive⟩,
        2, none, 3, [7, 8, 9]⟩⟩
  have roomyAbsence :
      (start 3 (by decide)).Absence stay leave away 2 [3, 2] roomy :=
    ⟨⟨waiting 3 (by decide), left 3 (by decide),
      by decide +kernel, by decide +kernel, by decide +kernel⟩, quiet,
      by decide⟩
  have tightAbsence :
      (start 2 (by decide)).Absence stay leave away 2 [3, 2] tight :=
    ⟨⟨waiting 2 (by decide), left 2 (by decide),
      by decide +kernel, by decide +kernel, by decide +kernel⟩, quiet,
      by decide⟩
  have fromNew : History.initial.Reachable := ⟨[], rfl⟩
  have roomyReachable : (start 3 (by decide)).cache.Reachable :=
    ⟨3, 1, ⟨⟨[], 3, by decide⟩, 1, none, 0, []⟩,
      [.announce 7 1, .access (.set 0 5), .settle 1 .succeeded 1],
      rfl, by decide⟩
  have tightReachable : (start 2 (by decide)).cache.Reachable :=
    ⟨2, 1, ⟨⟨[], 2, by decide⟩, 1, none, 0, []⟩,
      [.announce 7 1, .access (.set 0 5), .settle 1 .succeeded 1],
      rfl, by decide⟩
  have unknown :
      ∀ attempt,
        attempt ∈ absenceAttempts stay leave away ++ [12] →
        attempt ∉ [(7 : UInt64)] := by
    intro attempt member remembered
    rw [List.mem_singleton.mp remembered] at member
    exact absurd member (by decide)
  have roomyUnused :
      (start 3 (by decide)).cache.Unused
        (absenceAttempts stay leave away ++ [12]) :=
    ⟨by decide, unknown⟩
  have tightUnused :
      (start 2 (by decide)).cache.Unused
        (absenceAttempts stay leave away ++ [12]) :=
    ⟨by decide, unknown⟩
  refine ⟨roomyAbsence, tightAbsence, ?_, ?_⟩
  · obtain ⟨_, _, few, _⟩ :=
      revisit_restores_within_capacity fromNew roomyReachable rfl rfl rfl
        roomyAbsence roomyUnused [] (-1) ⟨[1, 2, 3], 0, 4, by decide⟩
        (by decide) (by decide)
    exact few (by decide)
  · obtain ⟨_, _, _, many⟩ :=
      revisit_restores_within_capacity fromNew tightReachable rfl rfl rfl
        tightAbsence tightUnused [] (-1) ⟨[1, 2, 3], 0, 4, by decide⟩
        (by decide) (by decide)
    exact (many (by decide)).1

end NavState.Tab
