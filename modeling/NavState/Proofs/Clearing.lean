import NavState.Proofs.Reachability

namespace NavState

/-!
# Clearing

A cleared cache keeps counting generations from where it was, remembers the
attempts it accepted, and may still be told how earlier ones ended.  None of
this shows.  It answers and announces what a new cache does that is told nothing
of the attempts from before the clearing.

A used cache is a new one that has aged: its generations are ahead by those that
were handed out before, and before the attempts that a new cache remembers stand
some that only the used one does.
-/

/-- The generation that belongs to an answer, counted from `past` on. -/
def Answer.since
    {κ ν : Type}
    (past : Nat)
    (answer : Answer κ ν) :
    Answer κ ν :=
  match answer with
  | .announced generation => .announced (generation.map (· - past))
  | _ => answer

/--
An operation for a cache that counts generations from `past` on.  It is nothing
if it settles a generation from before.
-/
def Operation.since
    {ι κ ν : Type}
    (past : Nat)
    (operation : Operation ι κ ν) :
    Option (Operation ι κ ν) :=
  match operation with
  | .settle generation outcome observed =>
      if generation ≤ past then
        none
      else
        some (.settle (generation - past) outcome observed)
  | _ => some operation

namespace Cache

variable {ι κ ν : Type}

/-- Two caches that cannot be told apart by what is stored in them. -/
structure LooksLike (cache other : Cache ι κ ν) : Prop where
  table : cache.table = other.table
  current : cache.current = other.current
  pending : cache.pending.map Pending.store = other.pending.map Pending.store

/--
A cache that has handed out `past` generations more and still remembers some
attempts from before.
-/
def aged
    (past : Nat)
    (remembered : List UInt64)
    (cache : Cache ι κ ν) :
    Cache ι κ ν :=
  { cache with
    pending :=
      cache.pending.map fun pending =>
        { pending with generation := pending.generation + past }
    generation := cache.generation + past
    handled := remembered ++ cache.handled }

/-- Age does not show. -/
theorem looksLike_aged
    (past : Nat)
    (remembered : List UInt64)
    (cache : Cache ι κ ν) :
    (cache.aged past remembered).LooksLike cache where
  table := rfl
  current := rfl
  pending := by
    simp only [aged, Option.map_map]
    rfl

variable [DecidableEq ι] [DecidableEq κ]

/-- An aged cache takes a turn like the other one, and has aged as much after it. -/
structure TurnsLike
    (past : Nat)
    (earlier : List UInt64)
    (turn other : Turn ι κ ν (Answer κ ν)) :
    Prop where
  result : turn.result.since past = other.result
  departures : turn.departures = other.departures
  cache :
    ∃ remembered,
      remembered ⊆ earlier ∧ turn.cache = other.cache.aged past remembered

theorem turnsLike_take
    (past : Nat)
    (remembered : List UInt64)
    (access : Access ι κ ν)
    (cache : Cache ι κ ν) :
    TurnsLike past remembered ((cache.aged past remembered).take access)
      (cache.take access) := by
  obtain ⟨table, current, pending, generation, handled⟩ := cache
  cases pending <;> cases access <;>
    exact ⟨rfl, rfl, remembered, List.Subset.refl _, rfl⟩

omit [DecidableEq ι] [DecidableEq κ] in
/-- The attempts from before are forgotten first. -/
theorem drop_handled_append
    (remembered handled : List UInt64)
    (attempt : UInt64) :
    ∃ still,
      still ⊆ remembered ∧
        (remembered ++ handled ++ [attempt]).drop
            ((remembered ++ handled ++ [attempt]).length - handledLimit) =
          still ++
            (handled ++ [attempt]).drop
              ((handled ++ [attempt]).length - handledLimit) := by
  let excess := (remembered ++ handled ++ [attempt]).length - handledLimit
  refine ⟨remembered.drop excess, List.drop_subset _ _, ?_⟩
  have rest :
      excess - remembered.length =
        (handled ++ [attempt]).length - handledLimit := by
    simp only [excess, List.length_append]
    omega
  rw [List.append_assoc remembered, List.drop_append, ← List.append_assoc, rest]

theorem turnsLike_announce
    {past : Nat}
    {remembered : List UInt64}
    {attempt : UInt64}
    (unknown : attempt ∉ remembered)
    (observed : ι)
    (cache : Cache ι κ ν) :
    TurnsLike past remembered
      ((cache.aged past remembered).perform (.announce attempt observed))
      (cache.perform (.announce attempt observed)) := by
  have sameStore :
      (cache.aged past remembered).prepare observed = cache.prepare observed :=
    rfl
  have sameDeparture :
      (cache.aged past remembered).abandoned = cache.abandoned := by
    simp only [abandoned, aged]
    cases cache.pending <;> rfl
  by_cases known : attempt ∈ cache.handled
  · have knownAged : attempt ∈ (cache.aged past remembered).handled :=
      List.mem_append_right _ known
    obtain ⟨nothing, same, silent⟩ := announce_of_mem known observed
    obtain ⟨nothingAged, sameAged, silentAged⟩ :=
      announce_of_mem knownAged observed
    refine ⟨?_, ?_, remembered, List.Subset.refl _, ?_⟩
    · simp only [perform, Turn.answering, nothing, nothingAged]
      rfl
    · simp only [perform, Turn.answering, silent, silentAged]
    · simp only [perform, Turn.answering, same, sameAged]
  · have unknownAged : attempt ∉ (cache.aged past remembered).handled := by
      simp only [aged, List.mem_append, not_or]
      exact ⟨unknown, known⟩
    obtain ⟨accepted, made⟩ := announce_of_not_mem known observed
    obtain ⟨acceptedAged, madeAged⟩ := announce_of_not_mem unknownAged observed
    obtain ⟨still, subset, forgotten⟩ :=
      drop_handled_append remembered cache.handled attempt
    refine ⟨?_, ?_, still, subset, ?_⟩
    · have counted :
          (cache.aged past remembered).generation + 1 - past =
            cache.generation + 1 := by
        simp only [aged]
        omega
      simp only [perform, Turn.answering, accepted, acceptedAged,
        Answer.since, Option.map_some, counted]
    · simp only [perform, Turn.answering]
      simpa [announce, remember?, known, unknownAged] using sameDeparture
    · simp only [perform, Turn.answering, made, madeAged, sameStore]
      simp only [aged, forgotten, Option.map_some,
        Nat.add_right_comm cache.generation past 1]

theorem turnsLike_settle
    {past generation : Nat}
    (later : past < generation)
    (remembered : List UInt64)
    (outcome : Outcome)
    (observed : ι)
    (cache : Cache ι κ ν) :
    TurnsLike past remembered
      ((cache.aged past remembered).perform
        (.settle generation outcome observed))
      (cache.perform (.settle (generation - past) outcome observed)) := by
  obtain ⟨table, current, pending, count, handled⟩ := cache
  cases pending with
  | none =>
      exact ⟨rfl, rfl, remembered, List.Subset.refl _, rfl⟩
  | some pending =>
      have own :
          pending.generation + past = generation ↔
            pending.generation = generation - past := by
        omega
      simp only [perform, Turn.answering, settle, aged, Option.map_some, own]
      split
      · split <;> exact ⟨rfl, rfl, remembered, List.Subset.refl _, rfl⟩
      · exact ⟨rfl, rfl, remembered, List.Subset.refl _, rfl⟩

theorem turnsLike_clear
    (past : Nat)
    (remembered : List UInt64)
    (observed : ι)
    (cache : Cache ι κ ν) :
    TurnsLike past remembered
      ((cache.aged past remembered).perform (.clear observed))
      (cache.perform (.clear observed)) := by
  obtain ⟨table, current, pending, generation, handled⟩ := cache
  cases pending <;> exact ⟨rfl, rfl, remembered, List.Subset.refl _, rfl⟩

/-- Every operation that is there for a new cache is the same for an aged one. -/
theorem turnsLike_perform
    {past : Nat}
    {remembered : List UInt64}
    {operation same : Operation ι κ ν}
    (unknown : ∀ attempt ∈ operation.attempt?, attempt ∉ remembered)
    (counted : operation.since past = some same)
    (cache : Cache ι κ ν) :
    TurnsLike past remembered
      ((cache.aged past remembered).perform operation)
      (cache.perform same) := by
  cases operation with
  | access access =>
      cases counted
      exact turnsLike_take past remembered access cache
  | announce attempt observed =>
      cases counted
      exact turnsLike_announce (unknown attempt rfl) observed cache
  | settle generation outcome observed =>
      simp only [Operation.since] at counted
      split at counted
      · cases counted
      · next later =>
          cases counted
          exact turnsLike_settle (Nat.lt_of_not_le later) remembered outcome
            observed cache
  | clear observed =>
      cases counted
      exact turnsLike_clear past remembered observed cache

/-- Nothing comes of settling an attempt from before. -/
theorem perform_of_since_eq_none
    {past : Nat}
    {operation : Operation ι κ ν}
    (settlesEarlier : operation.since past = none)
    {cache : Cache ι κ ν}
    (sound : cache.Sound)
    (remembered : List UInt64) :
    ((cache.aged past remembered).perform operation).result = .nothing ∧
      ((cache.aged past remembered).perform operation).departures = [] ∧
      ((cache.aged past remembered).perform operation).cache =
        cache.aged past remembered := by
  cases operation with
  | settle generation outcome observed =>
      have earlier : generation ≤ past := by
        by_contra later
        simp [Operation.since, later] at settlesEarlier
      have gone :
          ∀ pending,
            (cache.aged past remembered).pending = some pending →
            pending.generation ≠ generation := by
        intro pending shape
        obtain ⟨younger, found, rfl⟩ := Option.map_eq_some_iff.mp shape
        obtain ⟨newest, positive⟩ := sound.newest younger found
        dsimp only
        omega
      have stale := settle_of_stale gone outcome observed
      refine ⟨rfl, ?_, ?_⟩
      · simp only [perform, Turn.answering, stale]
        rfl
      · simp only [perform, Turn.answering, stale]
        rfl
  | _ =>
      cases settlesEarlier

/-! ## Runs -/

/-- After a run, an aged cache is what the other cache is, but for its age. -/
theorem after_aged
    (past : Nat)
    {remembered : List UInt64}
    {operations : List (Operation ι κ ν)}
    (unknown : ∀ attempt ∈ attempts operations, attempt ∉ remembered)
    {cache : Cache ι κ ν}
    (sound : cache.Sound) :
    ∃ still,
      still ⊆ remembered ∧
        (cache.aged past remembered).after operations =
          (cache.after (operations.filterMap (Operation.since past))).aged past
            still := by
  induction operations generalizing cache remembered with
  | nil =>
      exact ⟨remembered, List.Subset.refl _, rfl⟩
  | cons operation rest inductionHypothesis =>
      have first : ∀ attempt ∈ operation.attempt?, attempt ∉ remembered := by
        intro attempt announced
        exact unknown attempt
          (List.mem_filterMap.mpr ⟨operation, List.mem_cons_self, announced⟩)
      have later : ∀ attempt ∈ attempts rest, attempt ∉ remembered := by
        intro attempt member
        refine unknown attempt ?_
        obtain ⟨announcing, inRest, announced⟩ := List.mem_filterMap.mp member
        exact List.mem_filterMap.mpr
          ⟨announcing, List.mem_cons_of_mem _ inRest, announced⟩
      cases counted : operation.since past with
      | none =>
          rw [List.filterMap_cons_none counted, after_cons,
            (perform_of_since_eq_none counted sound remembered).2.2]
          exact inductionHypothesis later sound
      | some same =>
          obtain ⟨between, subset, made⟩ :=
            (turnsLike_perform first counted cache).cache
          rw [List.filterMap_cons_some counted, after_cons, made, after_cons]
          obtain ⟨still, kept, aged⟩ :=
            inductionHypothesis
              (fun attempt member => mt (@subset attempt) (later attempt member))
              (sound.perform same)
          exact ⟨still, List.Subset.trans kept subset, aged⟩

/--
Clearing is a full reset.  After it, and through any run that announces no
attempt remembered at that moment, the cache looks like one of the same capacity
built at that moment, to which everything happens but the settlements of earlier
attempts.  Each further operation gives the same answer and announces the same
departures in both, and an earlier attempt that settles does nothing at all.
-/
theorem clear_is_full_reset
    (cache : Cache ι κ ν)
    (shown : ι) :
    ∃ fresh,
      empty? cache.table.capacity shown = some fresh ∧
        ∀ operations : List (Operation ι κ ν),
          (∀ attempt ∈ attempts operations, attempt ∉ cache.handled) →
          let past := cache.generation
          let used := (cache.clear shown).cache.after operations
          let other := fresh.after (operations.filterMap (Operation.since past))
          used.LooksLike other ∧
            ∀ operation : Operation ι κ ν,
              (∀ attempt ∈ operation.attempt?, attempt ∉ cache.handled) →
              (operation.since past = none →
                (used.perform operation).result = .nothing ∧
                  (used.perform operation).departures = [] ∧
                  (used.perform operation).cache = used) ∧
                ∀ same,
                  operation.since past = some same →
                  (used.perform operation).result.since past =
                      (other.perform same).result ∧
                    (used.perform operation).departures =
                      (other.perform same).departures := by
  let fresh : Cache ι κ ν :=
    ⟨⟨[], cache.table.capacity, cache.table.capacity_pos⟩, shown, none, 0, []⟩
  have built : empty? cache.table.capacity shown = some fresh := by
    simp [empty?, Table.empty?, cache.table.capacity_pos, fresh]
  have sound : fresh.Sound := sound_of_empty? built
  have cleared :
      (cache.clear shown).cache = fresh.aged cache.generation cache.handled := by
    simp [clear, Table.clear, aged, fresh]
  refine ⟨fresh, built, ?_⟩
  intro operations unknown past used other
  obtain ⟨remembered, subset, aged⟩ := after_aged past unknown sound
  have same : used = other.aged past remembered := by
    simp only [used, cleared]
    exact aged
  refine ⟨?_, ?_⟩
  · rw [same]
    exact looksLike_aged past remembered other
  · intro operation unknownNext
    have unremembered : ∀ attempt ∈ operation.attempt?, attempt ∉ remembered :=
      fun attempt announced => mt (@subset attempt) (unknownNext attempt announced)
    refine ⟨fun earlier => ?_, fun counterpart counted => ?_⟩
    · rw [same]
      exact perform_of_since_eq_none earlier (sound.after _) remembered
    · rw [same]
      have turns := turnsLike_perform unremembered counted other
      exact ⟨turns.result, turns.departures⟩

/--
A cache that is cleared during a traversal, and then told how that traversal and
an earlier link ended, while another link goes through.
-/
theorem clear_is_full_reset_of_outstanding :
    let fresh : Cache Nat Nat Nat := ⟨⟨[], 2, by decide⟩, 1, none, 0, []⟩
    let cache :=
      fresh.after
        [.access (.set 0 5), .announce 7 1, .settle 1 .succeeded 2,
          .announce 8 1, .access (.set 3 9)]
    let operations : List (Operation Nat Nat Nat) :=
      [.settle 2 .succeeded 1, .announce 9 1, .access (.set 0 6),
        .settle 1 .failed 1, .announce 9 1, .settle 3 .succeeded 3]
    let counterparts : List (Operation Nat Nat Nat) :=
      [.announce 9 1, .access (.set 0 6), .announce 9 1,
        .settle 1 .succeeded 3]
    let used := (cache.clear 1).cache.after operations
    (∀ attempt ∈ attempts operations, attempt ∉ cache.handled) ∧
      operations.filterMap (Operation.since 2) = counterparts ∧
      used.LooksLike (fresh.after counterparts) ∧
      used.table.entries = [(3, ⟨[(0, 6)], false⟩)] := by
  intro fresh cache operations counterparts used
  have unknown : ∀ attempt ∈ attempts operations, attempt ∉ cache.handled := by
    have announced : attempts operations = [9, 9] := rfl
    have handled : cache.handled = [7, 8] := by decide
    simp [announced, handled]
  have counted :
      operations.filterMap (Operation.since 2) = counterparts := by
    decide
  obtain ⟨anew, built, law⟩ := clear_is_full_reset cache 1
  have same : anew = fresh := (Option.some.inj built).symm
  have looksLike := (law operations unknown).1
  rw [same] at looksLike
  exact ⟨unknown, counted, looksLike, by decide⟩

end Cache

end NavState
