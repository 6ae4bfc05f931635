import NavState.Proofs.Histories
import NavState.Proofs.Periods

namespace NavState

/-!
# Browsing

A browser is a history, the cache that follows it, and the attempts that have
not settled.  Its host makes two kinds of attempts.  A link is announced while
the history stays where it is, and an entry is pushed just before it succeeds.
A traversal is announced when the history has gone to its entry.  Attempts may
overlap, and they settle in any order or never.

A commit and a clearing make the page shown the current one.  Every other move
of the history leaves the current page behind, and until the next commit or
clearing the browser is astray.
-/

/-- An accepted attempt that has not settled. -/
structure Ongoing where
  attempt : UInt64
  /-- How the host moves, whatever the cache takes it for. -/
  movement : Movement
  generation : Nat
  deriving Repr, DecidableEq

/-- A history, the cache that follows it, and the attempts under way. -/
structure Browser (κ ν : Type) where
  history : History
  cache : Cache Nat κ ν
  ongoing : List Ongoing := []
  /-- Whether the history moved since a page was last made the current one. -/
  astray : Bool := false
  deriving DecidableEq

/-- What happens in a browser. -/
inductive Happening (κ ν : Type) where
  | access (access : Access Nat κ ν)
  | link (attempt : UInt64)
  | traversal (delta : Int) (away : delta ≠ 0) (attempt : UInt64)
  | settlement (attempt : UInt64) (outcome : Outcome)
  | clearing

namespace Happening

variable {κ ν : Type}

/-- The attempt that a happening announces. -/
def attempt? (happening : Happening κ ν) : Option UInt64 :=
  match happening with
  | .link attempt => some attempt
  | .traversal _ _ attempt => some attempt
  | _ => none

/-- Whether a happening is a write. -/
def writes (happening : Happening κ ν) : Bool :=
  match happening with
  | .access reached => reached.writes
  | _ => false

/-- The attempts announced by some happenings, in order. -/
def attempts (happenings : List (Happening κ ν)) : List UInt64 :=
  happenings.filterMap attempt?

end Happening

namespace Browser

variable {κ ν : Type} [DecidableEq κ]

/-- The history shows the current page of the cache. -/
def Home (browser : Browser κ ν) : Prop :=
  browser.history.current = browser.cache.current

instance (browser : Browser κ ν) : Decidable browser.Home :=
  inferInstanceAs (Decidable (_ = _))

/-- The pending store of a generation is still in place. -/
def Awaits (generation : Nat) (browser : Browser κ ν) : Prop :=
  browser.cache.pending.map Pending.generation = some generation

instance (generation : Nat) (browser : Browser κ ν) :
    Decidable (browser.Awaits generation) :=
  inferInstanceAs (Decidable (_ = _))

/-- Announce an attempt, which is under way from then on unless it is ignored. -/
def announce
    (attempt : UInt64)
    (movement : Movement)
    (browser : Browser κ ν) :
    Browser κ ν :=
  let turn := browser.cache.announce attempt browser.history.current
  { browser with
    cache := turn.cache
    ongoing :=
      browser.ongoing ++
        (turn.result.map (Ongoing.mk attempt movement)).toList }

/-- Push the history for a link that succeeds. -/
def pushFor
    (ongoing : Ongoing)
    (outcome : Outcome)
    (browser : Browser κ ν) :
    Browser κ ν :=
  if ongoing.movement = .forward ∧ outcome = .succeeded then
    { browser with history := browser.history.push, astray := true }
  else
    browser

/-- Settle an attempt. -/
def settle
    (ongoing : Ongoing)
    (outcome : Outcome)
    (browser : Browser κ ν) :
    Browser κ ν :=
  let pushed := browser.pushFor ongoing outcome
  let turn :=
    pushed.cache.settle ongoing.generation outcome pushed.history.current
  { pushed with
    cache := turn.cache
    ongoing := pushed.ongoing.filter fun other => other.attempt ≠ ongoing.attempt
    astray :=
      if outcome = .succeeded ∧ pushed.Awaits ongoing.generation then
        false
      else
        pushed.astray }

/-- The browser after a happening, if the host can make it happen. -/
def step?
    (happening : Happening κ ν)
    (browser : Browser κ ν) :
    Option (Browser κ ν) :=
  match happening with
  | .access reached =>
      some { browser with cache := (browser.cache.take reached).cache }
  | .link attempt =>
      some (browser.announce attempt .forward)
  | .traversal delta _ attempt =>
      (browser.history.go? delta).map fun moved =>
        { browser with history := moved, astray := true }.announce attempt
          .traversal
  | .settlement attempt outcome =>
      (browser.ongoing.find? fun ongoing => ongoing.attempt = attempt).map
        fun ongoing => browser.settle ongoing outcome
  | .clearing =>
      some
        { browser with
          cache := (browser.cache.clear browser.history.current).cache
          astray := false }

/-- The browser after some happenings, if the host can make them happen. -/
def after?
    (happenings : List (Happening κ ν))
    (browser : Browser κ ν) :
    Option (Browser κ ν) :=
  match happenings with
  | [] => some browser
  | happening :: rest => (browser.step? happening).bind fun next => next.after? rest

/-- A browser with a new cache on a history; there is none for the capacity zero. -/
def start? (capacity : Nat) (history : History) : Option (Browser κ ν) :=
  (Cache.empty? capacity history.current).map fun cache =>
    { history := history, cache := cache }

/-! ## What one happening keeps -/

/-- A happening takes the cache through one operation. -/
theorem operation_of_step?
    {browser next : Browser κ ν}
    {happening : Happening κ ν}
    (stepped : browser.step? happening = some next) :
    ∃ operation,
      next.cache = (browser.cache.perform operation).cache ∧
        operation.writes = happening.writes ∧
        operation.attempt? = happening.attempt? := by
  cases happening with
  | access reached =>
      cases stepped
      exact ⟨.access reached, rfl, rfl, rfl⟩
  | link attempt =>
      cases stepped
      exact ⟨.announce attempt browser.history.current, rfl, rfl, rfl⟩
  | traversal delta away attempt =>
      obtain ⟨moved, _, rfl⟩ := Option.map_eq_some_iff.mp stepped
      exact ⟨.announce attempt moved.current, rfl, rfl, rfl⟩
  | settlement attempt outcome =>
      obtain ⟨ongoing, _, rfl⟩ := Option.map_eq_some_iff.mp stepped
      have sameCache :
          (browser.pushFor ongoing outcome).cache = browser.cache := by
        rw [pushFor]
        split <;> rfl
      refine ⟨.settle ongoing.generation outcome
        (browser.pushFor ongoing outcome).history.current, ?_, rfl, rfl⟩
      rw [settle, sameCache]
      rfl
  | clearing =>
      cases stepped
      exact ⟨.clear browser.history.current, rfl, rfl, rfl⟩

/-- Only an announcement adds to what is under way. -/
theorem ongoing_of_step?
    {browser next : Browser κ ν}
    {happening : Happening κ ν}
    (stepped : browser.step? happening = some next)
    {ongoing : Ongoing}
    (member : ongoing ∈ next.ongoing) :
    ongoing ∈ browser.ongoing ∨
      happening.attempt? = some ongoing.attempt := by
  have announced
      {browser : Browser κ ν}
      {attempt : UInt64}
      {movement : Movement}
      (member : ongoing ∈ (browser.announce attempt movement).ongoing) :
      ongoing ∈ browser.ongoing ∨ attempt = ongoing.attempt := by
    rcases List.mem_append.mp member with earlier | isNew
    · exact .inl earlier
    · rw [Option.mem_toList, Option.map_eq_some_iff] at isNew
      obtain ⟨generation, _, rfl⟩ := isNew
      exact .inr rfl
  cases happening with
  | access reached =>
      cases stepped
      exact .inl member
  | link attempt =>
      cases stepped
      exact (announced member).imp_right (congrArg some)
  | traversal delta away attempt =>
      obtain ⟨moved, _, rfl⟩ := Option.map_eq_some_iff.mp stepped
      exact (announced member).imp_right (congrArg some)
  | settlement attempt outcome =>
      obtain ⟨settled, _, rfl⟩ := Option.map_eq_some_iff.mp stepped
      left
      have kept := (List.mem_filter.mp member).1
      rw [pushFor] at kept
      split at kept <;> exact kept
  | clearing =>
      cases stepped
      exact .inl member

/-- What holds of every browser on its way. -/
structure Sound (browser : Browser κ ν) : Prop where
  history : browser.history.Sound
  cache : browser.cache.Sound
  home : browser.astray = false → browser.Home

theorem current_take
    (access : Access Nat κ ν)
    (cache : Cache Nat κ ν) :
    (cache.take access).cache.current = cache.current := by
  cases access with
  | set key value =>
      simp only [Cache.take, Turn.answering, Cache.set]
      split <;> rfl
  | delete key =>
      simp only [Cache.take, Turn.answering, Cache.delete, Cache.adjustTarget]
      split <;> rfl
  | _ =>
      rfl

omit [DecidableEq κ] in
theorem current_announce
    (attempt : UInt64)
    (observed : Nat)
    (cache : Cache Nat κ ν) :
    (cache.announce attempt observed).cache.current = cache.current := by
  by_cases remembered : attempt ∈ cache.handled
  · rw [(Cache.announce_of_mem remembered observed).2.1]
  · rw [(Cache.announce_of_not_mem remembered observed).2]

omit [DecidableEq κ] in
/-- A settlement that does not commit leaves the current page as it is. -/
theorem current_settle
    {generation : Nat}
    {outcome : Outcome}
    {cache : Cache Nat κ ν}
    (keeps :
      ¬ (outcome = .succeeded ∧
        cache.pending.map Pending.generation = some generation))
    (observed : Nat) :
    (cache.settle generation outcome observed).cache.current =
      cache.current := by
  by_cases awaits : cache.pending.map Pending.generation = some generation
  · obtain ⟨pending, found, rfl⟩ := Option.map_eq_some_iff.mp awaits
    have unsuccessful : outcome ≠ .succeeded :=
      fun succeeded => keeps ⟨succeeded, awaits⟩
    rw [Cache.settle_of_pending found, if_neg unsuccessful]
    rfl
  · rw [Cache.settle_of_stale]
    · rfl
    · intro pending found same
      exact awaits (by rw [found, Option.map_some, same])

omit [DecidableEq κ] in
/-- The browser comes home by a commit, and stays there if nothing moves it. -/
theorem home_settle
    {browser : Browser κ ν}
    (home : browser.astray = false → browser.Home)
    (ongoing : Ongoing)
    (outcome : Outcome)
    (notAstray : (browser.settle ongoing outcome).astray = false) :
    (browser.settle ongoing outcome).Home := by
  have pushedHome :
      (browser.pushFor ongoing outcome).astray = false →
        (browser.pushFor ongoing outcome).Home := by
    rw [pushFor]
    split
    · exact fun stayed => nomatch stayed
    · exact home
  simp only [settle, Home] at notAstray ⊢
  split at notAstray
  · next commits =>
      obtain ⟨succeeded, awaits⟩ := commits
      obtain ⟨pending, found, same⟩ := Option.map_eq_some_iff.mp awaits
      rw [← same, Cache.settle_of_pending found, if_pos succeeded]
      rfl
  · next keeps =>
      rw [current_settle keeps]
      exact pushedHome notAstray

theorem Sound.step?
    {browser next : Browser κ ν}
    (sound : browser.Sound)
    {happening : Happening κ ν}
    (stepped : browser.step? happening = some next) :
    next.Sound := by
  obtain ⟨operation, sameCache, _⟩ := operation_of_step? stepped
  have cache : next.cache.Sound := by
    rw [sameCache]
    exact sound.cache.perform operation
  cases happening with
  | access reached =>
      cases stepped
      refine ⟨sound.history, cache, fun notAstray => ?_⟩
      exact (sound.home notAstray).trans (current_take _ _).symm
  | link attempt =>
      cases stepped
      refine ⟨sound.history, cache, fun notAstray => ?_⟩
      exact (sound.home notAstray).trans (current_announce _ _ _).symm
  | traversal delta away attempt =>
      obtain ⟨moved, went, rfl⟩ := Option.map_eq_some_iff.mp stepped
      exact ⟨sound.history.go? went, cache, fun notAstray => nomatch notAstray⟩
  | settlement attempt outcome =>
      obtain ⟨ongoing, _, rfl⟩ := Option.map_eq_some_iff.mp stepped
      refine ⟨?_, cache, home_settle sound.home ongoing outcome⟩
      simp only [settle, pushFor]
      split
      · exact sound.history.push
      · exact sound.history
  | clearing =>
      cases stepped
      exact ⟨sound.history, cache, fun _ => rfl⟩

/-! ## What a run keeps -/

/-- A run takes the cache through operations that write and announce as it does. -/
theorem operations_of_after?
    {happenings : List (Happening κ ν)}
    {browser ended : Browser κ ν}
    (reached : browser.after? happenings = some ended) :
    ∃ operations,
      ended.cache = browser.cache.after operations ∧
        ((∀ happening, happening ∈ happenings → happening.writes = false) →
          operations.filter Operation.writes = []) ∧
        NavState.attempts operations = Happening.attempts happenings := by
  induction happenings generalizing browser with
  | nil =>
      cases reached
      exact ⟨[], rfl, fun _ => rfl, rfl⟩
  | cons happening rest inductionHypothesis =>
      obtain ⟨next, stepped, wentOn⟩ := Option.bind_eq_some_iff.mp reached
      obtain ⟨operation, sameCache, writes, announces⟩ :=
        operation_of_step? stepped
      obtain ⟨operations, restCache, restReads, restAnnounces⟩ :=
        inductionHypothesis wentOn
      refine ⟨operation :: operations, ?_, fun reading => ?_, ?_⟩
      · rw [restCache, sameCache]
        rfl
      · have reads : ¬ operation.writes = true := by
          rw [writes, reading happening (by simp)]
          exact Bool.false_ne_true
        rw [List.filter_cons_of_neg reads]
        exact restReads fun other member => reading other (by simp [member])
      · simp only [NavState.attempts, Happening.attempts,
          List.filterMap_cons, announces] at restAnnounces ⊢
        rw [restAnnounces]

/-- What is under way was so before, or a run announced it. -/
theorem ongoing_of_after?
    {happenings : List (Happening κ ν)}
    {browser ended : Browser κ ν}
    (reached : browser.after? happenings = some ended)
    {ongoing : Ongoing}
    (member : ongoing ∈ ended.ongoing) :
    ongoing ∈ browser.ongoing ∨
      ongoing.attempt ∈ Happening.attempts happenings := by
  induction happenings generalizing browser with
  | nil =>
      cases reached
      exact .inl member
  | cons happening rest inductionHypothesis =>
      obtain ⟨next, stepped, wentOn⟩ := Option.bind_eq_some_iff.mp reached
      rcases inductionHypothesis wentOn with atNext | later
      · rcases ongoing_of_step? stepped atNext with earlier | announced
        · exact .inl earlier
        · exact .inr (List.mem_filterMap.mpr ⟨happening, by simp, announced⟩)
      · obtain ⟨other, inRest, announced⟩ := List.mem_filterMap.mp later
        exact .inr (List.mem_filterMap.mpr ⟨other, by simp [inRest], announced⟩)

/-- What is remembered was so before, or a run announced it. -/
theorem handled_of_after?
    {happenings : List (Happening κ ν)}
    {browser ended : Browser κ ν}
    (reached : browser.after? happenings = some ended)
    {attempt : UInt64}
    (remembered : attempt ∈ ended.cache.handled) :
    attempt ∈ browser.cache.handled ∨
      attempt ∈ Happening.attempts happenings := by
  obtain ⟨operations, sameCache, _, announces⟩ := operations_of_after? reached
  rw [sameCache] at remembered
  rw [← announces]
  exact List.mem_append.mp
    (Cache.handled_after_subset operations browser.cache remembered)

theorem Sound.after?
    {happenings : List (Happening κ ν)}
    {browser ended : Browser κ ν}
    (sound : browser.Sound)
    (reached : browser.after? happenings = some ended) :
    ended.Sound := by
  induction happenings generalizing browser with
  | nil =>
      cases reached
      exact sound
  | cons happening rest inductionHypothesis =>
      obtain ⟨next, stepped, wentOn⟩ := Option.bind_eq_some_iff.mp reached
      exact inductionHypothesis (sound.step? stepped) wentOn

omit [DecidableEq κ] in
theorem sound_of_start?
    {capacity : Nat}
    {history : History}
    (reachable : history.Reachable)
    {browser : Browser κ ν}
    (started : start? capacity history = some browser) :
    browser.Sound := by
  obtain ⟨cache, built, rfl⟩ := Option.map_eq_some_iff.mp started
  refine ⟨reachable.sound, Cache.sound_of_empty? built, fun _ => ?_⟩
  obtain ⟨table, _, rfl⟩ := Option.map_eq_some_iff.mp built
  rfl

/-- An attempt that no happening announced is neither remembered nor under way. -/
theorem unused_of_start?
    {capacity : Nat}
    {history : History}
    {start browser : Browser κ ν}
    (started : start? capacity history = some start)
    {happenings : List (Happening κ ν)}
    (reached : start.after? happenings = some browser)
    {attempt : UInt64}
    (new : attempt ∉ Happening.attempts happenings) :
    attempt ∉ browser.cache.handled ∧
      ∀ ongoing,
        ongoing ∈ browser.ongoing →
        ongoing.attempt ≠ attempt := by
  obtain ⟨cache, built, rfl⟩ := Option.map_eq_some_iff.mp started
  refine ⟨?_, ?_⟩
  · intro remembered
    rcases handled_of_after? reached remembered with atStart | announced
    · rw [(Cache.handled_of_empty? built).1] at atStart
      cases atStart
    · exact new announced
  · rintro ongoing member rfl
    rcases ongoing_of_after? reached member with atStart | announced
    · cases atStart
    · exact new announced

end Browser

end NavState
