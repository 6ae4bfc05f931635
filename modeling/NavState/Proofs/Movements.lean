import NavState.Proofs.Browsing

namespace NavState

/-!
# How movements are told apart

A cache takes an attempt for a link if the history shows the current page when
it is announced, and for a traversal otherwise.  A link is taken for one as long
as the browser is at home, and a traversal as long as it leads elsewhere.  When
attempts fail or overlap, a link may start away from home and a traversal may
lead back to it, and then the cache mistakes one for the other.
-/

namespace Cache

variable {ι κ ν : Type} [DecidableEq ι] [DecidableEq κ]

/-- The bindings committed for a page, none if it is not retained. -/
def bindingsOf (page : ι) (cache : Cache ι κ ν) : Assoc κ ν :=
  ((cache.entry? page).getD {}).bindings

omit [DecidableEq κ] in
theorem bindingsOf_of_entry?
    {page : ι}
    {cache : Cache ι κ ν}
    {store : Store κ ν}
    (found : cache.entry? page = some store) :
    cache.bindingsOf page = store.bindings := by
  rw [bindingsOf, found]
  rfl

omit [DecidableEq κ] in
/-- At the current page an attempt prepares an empty store, elsewhere a copy. -/
theorem bindings_prepare (observed : ι) (cache : Cache ι κ ν) :
    (cache.prepare observed).2.bindings =
      if observed = cache.current then
        []
      else
        cache.bindingsOf observed := by
  rw [prepare]
  split <;> rfl

omit [DecidableEq κ] in
theorem movement_prepare (observed : ι) (cache : Cache ι κ ν) :
    (cache.prepare observed).1 = .forward ↔ observed = cache.current := by
  rw [prepare]
  split <;> simp [*]

omit [DecidableEq κ] in
theorem historic_prepare (observed : ι) (cache : Cache ι κ ν) :
    (cache.prepare observed).2.historic = true := by
  rw [prepare]
  split <;> rfl

end Cache

/-- Edits leave the flag of a store as it is. -/
theorem historic_edited
    {ι κ ν : Type}
    [DecidableEq κ]
    (operations : List (Operation ι κ ν))
    (store : Store κ ν) :
    (edited operations store).historic = store.historic := by
  induction operations generalizing store with
  | nil =>
      rfl
  | cons operation rest inductionHypothesis =>
      have step : (operation.edit store).historic = store.historic := by
        cases operation with
        | access reached =>
            cases reached <;> rfl
        | _ =>
            rfl
      exact (inductionHypothesis (operation.edit store)).trans step

/-- A finished store keeps the flag up exactly if it was prepared for a traversal. -/
theorem Pending.historic_finished
    {κ ν : Type}
    {pending : Pending κ ν}
    (raised : pending.store.historic = true) :
    pending.finished.historic = false ↔ pending.movement = .forward := by
  rw [finished]
  cases pending.movement with
  | forward =>
      simp [Store.markHistoric]
  | traversal =>
      simp [raised]

namespace Browser

variable {κ ν : Type} [DecidableEq κ]

omit [DecidableEq κ] in
/-- An accepted attempt is under way, and reads go to the store prepared for it. -/
theorem announce_of_not_mem
    {attempt : UInt64}
    {browser : Browser κ ν}
    (unknown : attempt ∉ browser.cache.handled)
    (movement : Movement) :
    let announced := browser.announce attempt movement
    announced.ongoing =
        browser.ongoing ++ [⟨attempt, movement, browser.cache.generation + 1⟩] ∧
      announced.Awaits (browser.cache.generation + 1) ∧
      ∃ store,
        announced.cache.target? = some store ∧
          store.bindings =
            if browser.history.current = browser.cache.current then
              []
            else
              browser.cache.bindingsOf browser.history.current := by
  intro announced
  obtain ⟨accepted, made⟩ :=
    Cache.announce_of_not_mem unknown browser.history.current
  refine ⟨?_, ?_, (browser.cache.prepare browser.history.current).2, ?_,
    Cache.bindings_prepare _ _⟩
  · simp only [announced, announce, accepted]
    rfl
  · simp only [announced, announce, Awaits, made]
    rfl
  · simp only [announced, announce, Cache.target?, made]

omit [DecidableEq κ] in
theorem cache_pushFor
    (ongoing : Ongoing)
    (outcome : Outcome)
    (browser : Browser κ ν) :
    (browser.pushFor ongoing outcome).cache = browser.cache := by
  rw [pushFor]
  split <;> rfl

omit [DecidableEq κ] in
/-- The success of an attempt commits its pending store for the page shown then. -/
theorem settle_of_pending
    {browser : Browser κ ν}
    {pending : Pending κ ν}
    (found : browser.cache.pending = some pending)
    {ongoing : Ongoing}
    (own : ongoing.generation = pending.generation) :
    (browser.settle ongoing .succeeded).cache =
      { browser.cache with
        table :=
          (browser.cache.table.commit
            (browser.pushFor ongoing .succeeded).history.current
            pending.finished).1
        current := (browser.pushFor ongoing .succeeded).history.current
        pending := none } := by
  simp only [settle, cache_pushFor, own]
  rw [Cache.settle_of_pending found, if_pos rfl, (Cache.commit_eq _ _ _).1]

/--
As long as the pending store of an attempt is in place, a run has edited it and
touched nothing else.
-/
theorem cache_of_awaits
    {browser settling : Browser κ ν}
    {attempt : UInt64}
    (unknown : attempt ∉ browser.cache.handled)
    {movement : Movement}
    {during : List (Happening κ ν)}
    (reached :
      (browser.announce attempt movement).after? during = some settling)
    (awaits : settling.Awaits (browser.cache.generation + 1)) :
    ∃ operations : List (Operation Nat κ ν),
      settling.cache =
          { (browser.announce attempt movement).cache with
            pending :=
              some
                ⟨browser.cache.generation + 1,
                  (browser.cache.prepare browser.history.current).1,
                  edited operations
                    (browser.cache.prepare browser.history.current).2⟩ } ∧
        ((∀ happening, happening ∈ during → happening.writes = false) →
          operations.filter Operation.writes = []) := by
  obtain ⟨accepted, _⟩ :=
    Cache.announce_of_not_mem unknown browser.history.current
  obtain ⟨found, newest, _, _⟩ := Cache.pending_announce accepted
  obtain ⟨operations, sameCache, reads, _⟩ := operations_of_after? reached
  refine ⟨operations, ?_, reads⟩
  rw [sameCache]
  rcases Cache.after_of_newest found newest.symm with undisturbed | lapsed
  · exact undisturbed
  · have stillThere := awaits
    rw [Awaits, sameCache] at stillThere
    obtain ⟨other, foundOther, same⟩ := Option.map_eq_some_iff.mp stillThere
    exact absurd same (lapsed.gone other foundOther)

/-- An attempt announced once is under way under its own generation only. -/
theorem eq_of_mem_ongoing
    {browser settling : Browser κ ν}
    {attempt : UInt64}
    (unknown : attempt ∉ browser.cache.handled)
    (unused :
      ∀ ongoing,
        ongoing ∈ browser.ongoing →
        ongoing.attempt ≠ attempt)
    {movement : Movement}
    {during : List (Happening κ ν)}
    (once : attempt ∉ Happening.attempts during)
    (reached :
      (browser.announce attempt movement).after? during = some settling)
    {ongoing : Ongoing}
    (member : ongoing ∈ settling.ongoing)
    (same : ongoing.attempt = attempt) :
    ongoing = ⟨attempt, movement, browser.cache.generation + 1⟩ := by
  rcases ongoing_of_after? reached member with earlier | later
  · rw [(announce_of_not_mem unknown movement).1] at earlier
    rcases List.mem_append.mp earlier with before | isNew
    · exact absurd same (unused ongoing before)
    · exact List.mem_singleton.mp isNew
  · rw [same] at later
    exact absurd later once

/-- An attempt made in one browser ended in another by committing a store. -/
structure Concluded
    (start : Browser κ ν)
    (committed : Store κ ν)
    (ended : Browser κ ν) :
    Prop where
  table :
    ended.cache.table =
      (start.cache.table.commit ended.cache.current committed).1
  landed : ended.cache.pending = none
  historic : committed.historic = false ↔ start.Home

/--
The success of an attempt whose pending store is still in place commits what was
prepared for it, with the writes since.
-/
theorem concluded_of_awaits
    {browser settling ended : Browser κ ν}
    {attempt : UInt64}
    (unknown : attempt ∉ browser.cache.handled)
    (unused :
      ∀ ongoing,
        ongoing ∈ browser.ongoing →
        ongoing.attempt ≠ attempt)
    {movement : Movement}
    {during : List (Happening κ ν)}
    (once : attempt ∉ Happening.attempts during)
    (reached :
      (browser.announce attempt movement).after? during = some settling)
    (awaits : settling.Awaits (browser.cache.generation + 1))
    (settled :
      settling.step? (.settlement attempt .succeeded) = some ended) :
    ∃ committed,
      browser.Concluded committed ended ∧
        ((∀ happening, happening ∈ during → happening.writes = false) →
          committed.bindings =
            (browser.cache.prepare browser.history.current).2.bindings) ∧
        (movement = .traversal →
          ended.cache.current = settling.history.current) := by
  obtain ⟨accepted, _⟩ :=
    Cache.announce_of_not_mem unknown browser.history.current
  obtain ⟨_, _, sameTable, _⟩ := Cache.pending_announce accepted
  obtain ⟨operations, sameCache, reads⟩ :=
    cache_of_awaits unknown reached awaits
  obtain ⟨ongoing, foundOngoing, rfl⟩ := Option.map_eq_some_iff.mp settled
  have isOwn :=
    eq_of_mem_ongoing unknown unused once reached
      (List.mem_of_find?_eq_some foundOngoing)
      (by simpa using List.find?_some foundOngoing)
  subst isOwn
  let pending : Pending κ ν :=
    ⟨browser.cache.generation + 1,
      (browser.cache.prepare browser.history.current).1,
      edited operations (browser.cache.prepare browser.history.current).2⟩
  have found : settling.cache.pending = some pending := by
    rw [sameCache]
  have table :
      settling.cache.table = browser.cache.table := by
    rw [sameCache]
    exact sameTable
  have raised : pending.store.historic = true :=
    (historic_edited operations _).trans (Cache.historic_prepare _ _)
  refine ⟨pending.finished, ⟨?_, ?_, ?_⟩, ?_, ?_⟩
  · rw [settle_of_pending found rfl, table]
  · rw [settle_of_pending found rfl]
  · exact (Pending.historic_finished raised).trans
      (Cache.movement_prepare _ _)
  · intro reading
    rw [Pending.bindings_finished]
    change (edited operations _).bindings = _
    rw [← edited_filter_writes, reads reading]
    rfl
  · rintro rfl
    rw [settle_of_pending found rfl]
    rfl

omit [DecidableEq κ] in
/-- What a committed attempt leaves on the page it was committed for. -/
theorem Concluded.current
    {start ended : Browser κ ν}
    {committed : Store κ ν}
    (concluded : start.Concluded committed ended)
    (sound : start.cache.table.Sound) :
    ended.cache.entry? ended.cache.current = some committed ∧
      (ended.cache.isHistoric = false ↔ start.Home) := by
  have found :
      ended.cache.table.get? ended.cache.current = some committed := by
    rw [concluded.table]
    exact Table.get?_commit_self sound ended.cache.current committed
  refine ⟨found, ?_⟩
  rw [Cache.isHistoric, Cache.target?, concluded.landed, found]
  exact concluded.historic

omit [DecidableEq κ] in
/-- The other pages keep what is committed for them, if they stay. -/
theorem Concluded.bindingsOf_of_ne
    {start ended : Browser κ ν}
    {committed : Store κ ν}
    (concluded : start.Concluded committed ended)
    (sound : start.cache.table.Sound)
    {page : Nat}
    (isOther : page ≠ ended.cache.current)
    (stays : ended.cache.retains page = true) :
    ended.cache.bindingsOf page = start.cache.bindingsOf page := by
  have kept := (Table.contains_iff_mem_pages page _).mp stays
  rw [concluded.table] at kept
  rw [Cache.bindingsOf, Cache.bindingsOf, Cache.entry?, Cache.entry?,
    concluded.table, Table.get?_commit_of_ne sound committed isOther kept]

/--
When a link starts from an empty page.  It does so as long as the browser is at
home, in particular if the history did not move since the last commit; away from
home it starts from what is committed for the page shown.  If it commits, the
page it leads to counts as reached by a link exactly in the first case.
-/
theorem link_starts_empty_at_home
    {capacity : Nat}
    {history : History}
    (reachable : history.Reachable)
    {start browser linked : Browser κ ν}
    (started : start? capacity history = some start)
    {before : List (Happening κ ν)}
    (reached : start.after? before = some browser)
    {attempt : UInt64}
    (new : attempt ∉ Happening.attempts before)
    (announced : browser.step? (.link attempt) = some linked) :
    (browser.astray = false → browser.Home) ∧
      linked.Awaits (browser.cache.generation + 1) ∧
      (∃ store,
        linked.cache.target? = some store ∧
          (browser.Home → store.bindings = []) ∧
          (¬ browser.Home →
            store.bindings =
              browser.cache.bindingsOf browser.history.current)) ∧
      ∀ during settling ended,
        attempt ∉ Happening.attempts during →
        linked.after? during = some settling →
        settling.Awaits (browser.cache.generation + 1) →
        settling.step? (.settlement attempt .succeeded) = some ended →
        (ended.cache.isHistoric = false ↔ browser.Home) := by
  have sound := (sound_of_start? reachable started).after? reached
  obtain ⟨unknown, unused⟩ := unused_of_start? started reached new
  cases announced
  obtain ⟨_, awaits, store, target, bindings⟩ :=
    announce_of_not_mem unknown .forward
  refine ⟨sound.home, awaits, ⟨store, target, ?_, ?_⟩, ?_⟩
  · intro home
    exact bindings.trans (if_pos home)
  · intro away
    exact bindings.trans (if_neg away)
  · intro during settling ended once goesOn stillAwaits settled
    obtain ⟨committed, concluded, _⟩ :=
      concluded_of_awaits unknown unused once goesOn stillAwaits settled
    exact (concluded.current sound.cache.table).2

/-- A link at home, and one that is made when a traversal has failed. -/
theorem link_starts_empty_at_home_of_failed_traversal :
    let start : Browser Nat Nat :=
      ⟨.initial, ⟨⟨[], 4, by decide⟩, 1, none, 0, []⟩, [], false⟩
    let early : List (Happening Nat Nat) := [.access (.set 0 5)]
    let late : List (Happening Nat Nat) :=
      early ++
        [.link 1, .settlement 1 .succeeded, .traversal (-1) (by decide) 2,
          .settlement 2 .failed]
    start? 4 .initial = some start ∧
      (∃ browser linked,
        start.after? early = some browser ∧
          browser.step? (.link 1) = some linked ∧
          browser.Home ∧
          ∃ store, linked.cache.target? = some store ∧ store.bindings = []) ∧
      ∃ browser linked ended,
        start.after? late = some browser ∧
          browser.step? (.link 3) = some linked ∧
          linked.step? (.settlement 3 .succeeded) = some ended ∧
          ¬ browser.Home ∧
          (∃ store,
            linked.cache.target? = some store ∧
              store.bindings = browser.cache.bindingsOf 1) ∧
          ended.cache.isHistoric ≠ false := by
  intro start early late
  let home : Browser Nat Nat :=
    ⟨.initial, ⟨⟨[(1, ⟨[(0, 5)], false⟩)], 4, by decide⟩, 1, none, 0, []⟩,
      [], false⟩
  let behind : Browser Nat Nat :=
    ⟨⟨[1, 2], 0, 3, by decide⟩,
      ⟨⟨[(1, ⟨[(0, 5)], false⟩), (2, ⟨[], false⟩)], 4, by decide⟩, 2, none, 2,
        [1, 2]⟩, [], true⟩
  have tab : History.initial.Reachable := ⟨[], rfl⟩
  have started : start? 4 .initial = some start := rfl
  have reachedHome : start.after? early = some home := by decide +kernel
  have reachedBehind : start.after? late = some behind := by decide +kernel
  have newHome : (1 : UInt64) ∉ Happening.attempts early := by decide
  have newBehind : (3 : UInt64) ∉ Happening.attempts late := by decide
  have linkedHome : home.step? (.link 1) = some _ := rfl
  have linkedBehind : behind.step? (.link 3) = some _ := rfl
  refine ⟨started, ⟨home, _, reachedHome, linkedHome, by decide, ?_⟩, behind, _,
    _, reachedBehind, linkedBehind, rfl, by decide, ?_, ?_⟩
  · obtain ⟨_, _, ⟨store, target, empty, _⟩, _⟩ :=
      link_starts_empty_at_home tab started reachedHome newHome linkedHome
    exact ⟨store, target, empty (by decide)⟩
  · obtain ⟨_, _, ⟨store, target, _, filled⟩, _⟩ :=
      link_starts_empty_at_home tab started reachedBehind newBehind linkedBehind
    exact ⟨store, target, filled (by decide)⟩
  · obtain ⟨_, _, _, succeeds⟩ :=
      link_starts_empty_at_home tab started reachedBehind newBehind linkedBehind
    have flag := succeeds [] _ _ (by decide) rfl (by decide) rfl
    exact mt flag.mp (by decide)

/-- A link after a failed traversal reads what the page shown binds. -/
theorem link_after_failed_traversal_is_not_empty :
    let before : List (Happening Nat Nat) :=
      [.access (.set 0 5), .link 1, .settlement 1 .succeeded,
        .traversal (-1) (by decide) 2, .settlement 2 .failed]
    let run (more : List (Happening Nat Nat)) : Option (Browser Nat Nat) :=
      (start? 4 .initial).bind fun start => start.after? (before ++ more)
    (run [.link 3]).map (fun linked => linked.cache.lookup? 0) =
        some (some 5) ∧
      (run [.link 3, .settlement 3 .succeeded]).map
          (fun ended => (ended.cache.current, ended.cache.isHistoric)) =
        some (3, true) := by
  decide

/--
When a traversal starts from what is committed for the entry it reveals.  It
does so unless it leads back to the current page, in particular if the history
did not move since the last commit.  Without any write its success then leaves
these bindings as they are, if the entry is retained.  A traversal back to the
current page starts from nothing, and its success there leaves nothing.
-/
theorem traversal_starts_from_committed_away_from_home
    {capacity : Nat}
    {history : History}
    (reachable : history.Reachable)
    {start browser traversing : Browser κ ν}
    (started : start? capacity history = some start)
    {before : List (Happening κ ν)}
    (reached : start.after? before = some browser)
    {attempt : UInt64}
    (new : attempt ∉ Happening.attempts before)
    {delta : Int}
    {away : delta ≠ 0}
    (announced :
      browser.step? (.traversal delta away attempt) = some traversing) :
    let revealed := traversing.history.current
    (browser.astray = false → revealed ≠ browser.cache.current) ∧
      traversing.Awaits (browser.cache.generation + 1) ∧
      (∃ store,
        traversing.cache.target? = some store ∧
          (revealed ≠ browser.cache.current →
            store.bindings = browser.cache.bindingsOf revealed) ∧
          (revealed = browser.cache.current → store.bindings = [])) ∧
      ∀ during settling ended,
        attempt ∉ Happening.attempts during →
        (∀ happening, happening ∈ during → happening.writes = false) →
        traversing.after? during = some settling →
        settling.Awaits (browser.cache.generation + 1) →
        settling.step? (.settlement attempt .succeeded) = some ended →
        (settling.history.current = revealed →
            ended.cache.retains revealed = true) ∧
          (revealed ≠ browser.cache.current →
            ended.cache.retains revealed = true →
            ended.cache.bindingsOf revealed =
              browser.cache.bindingsOf revealed) ∧
          (revealed = browser.cache.current →
            settling.history.current = revealed →
            ended.cache.bindingsOf revealed = []) := by
  intro revealed
  have sound := (sound_of_start? reachable started).after? reached
  obtain ⟨unknown, unused⟩ := unused_of_start? started reached new
  obtain ⟨moved, went, rfl⟩ := Option.map_eq_some_iff.mp announced
  let gone : Browser κ ν := { browser with history := moved, astray := true }
  have prepared :=
    Cache.bindings_prepare gone.history.current gone.cache
  have goneUnknown : attempt ∉ gone.cache.handled := unknown
  obtain ⟨_, awaits, store, target, bindings⟩ :=
    announce_of_not_mem goneUnknown .traversal
  refine ⟨?_, awaits, ⟨store, target, ?_, ?_⟩, ?_⟩
  · intro notAstray
    rw [← sound.home notAstray]
    exact sound.history.current_ne_of_go? away went
  · intro elsewhere
    exact bindings.trans (if_neg elsewhere)
  · intro back
    exact bindings.trans (if_pos back)
  · intro during settling ended once reading goesOn stillAwaits settled
    obtain ⟨committed, concluded, sameBindings, lands⟩ :=
      @concluded_of_awaits _ _ _ gone _ _ _ unknown unused _ _ once goesOn
        stillAwaits settled
    have stored := (concluded.current sound.cache.table).1
    have committedBindings := (sameBindings reading).trans prepared
    refine ⟨?_, ?_, ?_⟩
    · intro stillShown
      rw [← stillShown, ← lands rfl, Cache.retains, Table.contains]
      exact Option.isSome_iff_exists.mpr ⟨committed, stored⟩
    · intro elsewhere stays
      by_cases isCommitted : revealed = ended.cache.current
      · rw [isCommitted, Cache.bindingsOf_of_entry? stored, committedBindings,
          ← isCommitted]
        exact if_neg elsewhere
      · exact concluded.bindingsOf_of_ne sound.cache.table isCommitted stays
    · intro back stillShown
      rw [← stillShown, ← lands rfl, Cache.bindingsOf_of_entry? stored,
        committedBindings]
      exact if_pos back

/-- A traversal that goes on from where another one is still in flight. -/
theorem traversal_starts_from_committed_of_overlapping :
    let start : Browser Nat Nat :=
      ⟨.initial, ⟨⟨[], 4, by decide⟩, 1, none, 0, []⟩, [], false⟩
    let before : List (Happening Nat Nat) :=
      [.access (.set 0 5), .link 1, .settlement 1 .succeeded, .link 2,
        .settlement 2 .succeeded, .traversal (-1) (by decide) 3]
    start? 4 .initial = some start ∧
      ∃ browser traversing ended,
        start.after? before = some browser ∧
          browser.step? (.traversal (-1) (by decide) 4) = some traversing ∧
          traversing.step? (.settlement 4 .succeeded) = some ended ∧
          traversing.history.current = 1 ∧
          (∃ store,
            traversing.cache.target? = some store ∧
              store.bindings = browser.cache.bindingsOf 1) ∧
          ended.cache.bindingsOf 1 = browser.cache.bindingsOf 1 ∧
          browser.cache.bindingsOf 1 = [(0, 5)] := by
  intro start before
  let browser : Browser Nat Nat :=
    ⟨⟨[1, 2, 3], 1, 4, by decide⟩,
      ⟨⟨[(1, ⟨[(0, 5)], false⟩), (2, ⟨[], false⟩), (3, ⟨[], false⟩)], 4,
          by decide⟩,
        3, some ⟨3, .traversal, ⟨[], true⟩⟩, 3, [1, 2, 3]⟩,
      [⟨3, .traversal, 3⟩], true⟩
  have tab : History.initial.Reachable := ⟨[], rfl⟩
  have started : start? 4 .initial = some start := rfl
  have reached : start.after? before = some browser := by decide +kernel
  have new : (4 : UInt64) ∉ Happening.attempts before := by decide
  have announced :
      browser.step? (.traversal (-1) (by decide) 4) = some _ :=
    rfl
  refine ⟨started, browser, _, _, reached, announced, rfl, rfl, ?_, ?_,
    by decide⟩
  · obtain ⟨_, _, ⟨store, target, elsewhere, _⟩, _⟩ :=
      traversal_starts_from_committed_away_from_home tab started reached new
        announced
    exact ⟨store, target, elsewhere (by decide)⟩
  · obtain ⟨_, _, _, succeeds⟩ :=
      traversal_starts_from_committed_away_from_home tab started reached new
        announced
    obtain ⟨_, kept, _⟩ :=
      succeeds [] _ _ (by decide) (by simp) rfl (by decide) rfl
    exact kept (by decide) (by decide)

/-- A traversal back to the current page reads nothing and erases what it bound. -/
theorem traversal_back_home_loses_bindings :
    let before : List (Happening Nat Nat) :=
      [.link 1, .settlement 1 .succeeded, .access (.set 0 6),
        .traversal (-1) (by decide) 2, .traversal 1 (by decide) 3]
    let run (more : List (Happening Nat Nat)) : Option (Browser Nat Nat) :=
      (start? 4 .initial).bind fun start => start.after? (before ++ more)
    (run []).map
        (fun traversing =>
          (traversing.history.current, traversing.cache.bindingsOf 2,
            traversing.cache.lookup? 0)) =
        some (2, [(0, 6)], none) ∧
      (run [.settlement 3 .succeeded]).map
          (fun ended => (ended.cache.current, ended.cache.bindingsOf 2)) =
        some (2, []) := by
  decide

end Browser

end NavState
