import NavState.Proofs.Provenance

namespace NavState.Cache

/-!
# Settlements

The settlement of an accepted attempt finds its pending store exactly as long as
the attempt is the newest and the cache was not cleared.  Any other settlement
is stale: it changes nothing and is only counted.
-/

variable {ι κ ν : Type} [DecidableEq ι] [DecidableEq κ]

/--
The settlement of a pending store takes effect: a success commits that store for
the page shown and ends the flight, anything else only drops it.
-/
structure TakesEffect
    (pending : Pending κ ν)
    (outcome : Outcome)
    (shown : ι)
    (cache : Cache ι κ ν) :
    Prop where
  found : cache.pending = some pending
  commits :
    outcome = .succeeded →
    (cache.settle pending.generation outcome shown).cache =
        { cache with
          table := (cache.table.commit shown pending.finished).1
          current := shown
          pending := none } ∧
      (cache.settle pending.generation outcome shown).departures =
        (cache.table.commit shown pending.finished).2
  drops :
    outcome ≠ .succeeded →
    (cache.settle pending.generation outcome shown).cache =
        { cache with pending := none } ∧
      (cache.settle pending.generation outcome shown).departures =
        [⟨.discard, cache.current⟩]

/-- A settlement comes too late: nothing changes, and only the delay is counted. -/
structure ComesTooLate
    (generation : Nat)
    (outcome : Outcome)
    (shown : ι)
    (cache : Cache ι κ ν) :
    Prop where
  keeps : (cache.settle generation outcome shown).cache = cache
  silent : (cache.settle generation outcome shown).departures = []
  counted :
    (cache.settle generation outcome shown).reports =
      [.note (.stale generation outcome), .count .stale]

omit [DecidableEq κ] in
/-- Whoever finds the pending store takes effect on it. -/
theorem takesEffect_of_pending
    {cache : Cache ι κ ν}
    {pending : Pending κ ν}
    (found : cache.pending = some pending)
    (outcome : Outcome)
    (shown : ι) :
    cache.TakesEffect pending outcome shown where
  found := found
  commits := by
    rintro rfl
    rw [settle_of_pending found, if_pos rfl]
    exact commit_eq pending shown cache
  drops := by
    intro unsuccessful
    rw [settle_of_pending found, if_neg unsuccessful]
    exact ⟨rfl, rfl⟩

omit [DecidableEq κ] in
/-- Taking effect changes the cache. -/
theorem TakesEffect.changes
    {cache : Cache ι κ ν}
    {pending : Pending κ ν}
    {outcome : Outcome}
    {shown : ι}
    (effect : cache.TakesEffect pending outcome shown) :
    (cache.settle pending.generation outcome shown).cache ≠ cache := by
  intro same
  have emptied :
      (cache.settle pending.generation outcome shown).cache.pending = none := by
    by_cases succeeded : outcome = .succeeded
    · rw [(effect.commits succeeded).1]
    · rw [(effect.drops succeeded).1]
  rw [same, effect.found] at emptied
  cases emptied

omit [DecidableEq κ] in
/-- A lapsed attempt settles too late. -/
theorem Lapsed.comesTooLate
    {generation : Nat}
    {cache : Cache ι κ ν}
    (lapsed : cache.Lapsed generation)
    (outcome : Outcome)
    (shown : ι) :
    cache.ComesTooLate generation outcome shown := by
  have stale := settle_of_stale lapsed.gone outcome shown
  exact ⟨by rw [stale]; rfl, by rw [stale]; rfl, by rw [stale]; rfl⟩

/-- A pending store is of the generation handed out last. -/
theorem getLast?_accepted_of_pending
    {capacity : Nat}
    {start : ι}
    {fresh : Cache ι κ ν}
    (built : empty? capacity start = some fresh)
    {operations : List (Operation ι κ ν)}
    {pending : Pending κ ν}
    (found : (fresh.after operations).pending = some pending) :
    (fresh.accepted operations).getLast? = some pending.generation := by
  obtain ⟨_, noGeneration, _⟩ := handled_of_empty? built
  obtain ⟨newest, positive⟩ :=
    ((sound_of_empty? built).after operations).newest pending found
  rw [newest]
  apply getLast?_accepted
  rw [noGeneration]
  exact positive

/-- An accepted attempt settles in time exactly if it stays the newest. -/
theorem settlement_of_accepted
    {cache : Cache ι κ ν}
    {attempt : UInt64}
    {observed : ι}
    {generation : Nat}
    (accepted :
      (cache.announce attempt observed).result = some generation)
    {between : List (Operation ι κ ν)}
    (unsettled : Unsettled generation between)
    (outcome : Outcome)
    (shown : ι) :
    let announced := (cache.announce attempt observed).cache
    let settling := announced.after between
    ((settling.settle generation outcome shown).cache ≠ settling ↔
        announced.StaysNewest between) ∧
      (announced.StaysNewest between →
        settling.TakesEffect
          ⟨generation, (cache.prepare observed).1,
            edited between (cache.prepare observed).2⟩
          outcome shown) ∧
      (¬ announced.StaysNewest between →
        settling.ComesTooLate generation outcome shown) := by
  intro announced settling
  rcases pending_announce accepted with ⟨found, current, _, _⟩
  have effective :
      announced.StaysNewest between →
      settling.TakesEffect
        ⟨generation, (cache.prepare observed).1,
          edited between (cache.prepare observed).2⟩
        outcome shown := by
    intro newest
    apply takesEffect_of_pending
    exact congrArg Cache.pending (after_announce accepted newest unsettled)
  have late :
      ¬ announced.StaysNewest between →
      settling.ComesTooLate generation outcome shown := by
    intro disturbed
    exact (lapsed_of_not_staysNewest found current.symm
      disturbed).comesTooLate outcome shown
  refine ⟨⟨?_, ?_⟩, effective, late⟩
  · intro changed
    by_contra disturbed
    exact changed (late disturbed).keeps
  · intro newest
    exact (effective newest).changes

/--
Only the newest attempt commits.  The settlement of an accepted attempt, run
once, changes the cache exactly if no attempt was accepted and the cache was not
cleared since; then it takes effect on the store that was prepared for the
attempt and edited since, and otherwise it comes too late.  A pending store is
of the generation handed out last, and no generation is handed out twice.

All this holds of runs, and whatever listeners, callbacks and hosts call in a
session while other calls are being answered, its caches go on by runs.  In the
run that a cache of a session went through since it was new, every settlement is
of an attempt that was accepted before and has not settled yet, and no attempt has
more than one settlement, whether that ran or still waits.
-/
theorem only_newest_attempt_commits
    {capacity : Nat}
    {start : ι}
    {fresh : Cache ι κ ν}
    (built : empty? capacity start = some fresh) :
    (∀ (earlier between : List (Operation ι κ ν))
        (attempt : UInt64)
        (observed : ι)
        (generation : Nat)
        (outcome : Outcome)
        (shown : ι),
      let announcing := fresh.after earlier
      let announced := (announcing.announce attempt observed).cache
      let settling := announced.after between
      (announcing.announce attempt observed).result = some generation →
      Unsettled generation between →
      ((settling.settle generation outcome shown).cache ≠ settling ↔
          announced.StaysNewest between) ∧
        (announced.StaysNewest between →
          settling.TakesEffect
            ⟨generation, (announcing.prepare observed).1,
              edited between (announcing.prepare observed).2⟩
            outcome shown) ∧
        (¬ announced.StaysNewest between →
          settling.ComesTooLate generation outcome shown)) ∧
    (∀ operations : List (Operation ι κ ν),
      (∀ pending,
        (fresh.after operations).pending = some pending →
        (fresh.accepted operations).getLast? = some pending.generation) ∧
      (fresh.accepted operations).Nodup) ∧
    (∀ (depth : Nat) (commands : List Session.Command) (world : Session.World),
      Session.World.Follows world
        (Session.worldAfter depth commands world)) ∧
    ∀ (depth : Nat)
      (tracing : Bool)
      (commands : List Session.Command)
      (index : Nat)
      (cell : Session.Cell),
      let world := Session.worldAfter depth commands { tracing := tracing }
      world.cells[index]? = some cell →
      ∃ capacity page fresh operations,
        empty? capacity page = some fresh ∧
          cell.cache = fresh.after operations ∧
          world.Underwent index [] fresh operations := by
  refine ⟨?_, ?_, Session.follows_worldAfter, ?_⟩
  · intro earlier between attempt observed generation outcome shown
      announcing announced settling accepted unsettled
    exact settlement_of_accepted accepted unsettled outcome shown
  · intro operations
    exact ⟨fun pending found => getLast?_accepted_of_pending built found,
      nodup_accepted operations fresh⟩
  · intro depth tracing commands index cell world found
    exact (Session.traced_worldAfter depth tracing commands).cells index cell found

/-- The settlements of a superseded attempt and of the one in its place. -/
theorem only_newest_attempt_commits_of_two :
    let fresh : Cache Nat Nat Nat := ⟨⟨[], 2, by decide⟩, 1, none, 0, []⟩
    let first := (fresh.announce 7 1).cache
    let second := (first.announce 8 1).cache
    empty? 2 1 = some fresh ∧
      (first.after
          [.access (.set 0 5), .announce 8 1, .announce 7 1]).ComesTooLate
        1 .succeeded 2 ∧
      (second.after
          [.access (.set 0 5), .settle 1 .succeeded 2,
            .announce 7 1]).TakesEffect
        ⟨2, .forward, ⟨[(0, 5)], true⟩⟩ .succeeded 2 := by
  intro fresh first second
  have built : empty? 2 1 = some fresh := rfl
  have law := (only_newest_attempt_commits built).1
  refine ⟨built, ?_, ?_⟩
  · refine (law []
      [.access (.set 0 5), .announce 8 1, .announce 7 1]
      7 1 1 .succeeded 2 rfl ?_).2.2 ?_
    · intro outcome observed member
      simp at member
    · intro newest
      exact absurd newest.accepts (by decide)
  · refine (law [.announce 7 1]
      [.access (.set 0 5), .settle 1 .succeeded 2, .announce 7 1]
      8 1 2 .succeeded 2 rfl ?_).2.1 ?_
    · intro outcome observed member
      simp at member
    · exact ⟨by decide, by simp⟩

end NavState.Cache
