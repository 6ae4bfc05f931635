import Mathlib.Data.List.Infix
import NavState.Proofs.Flight

namespace NavState

/-!
# In-flight periods

A cache is in flight from the first accepted announcement until a settlement or
a clearing leaves it without a pending store.  Nothing durable moves meanwhile,
and every accepted announcement prepares its store from what is durable.  So of
all attempts of such a period only the last one counts in the end.
-/

/-- Whether an operation is a write. -/
def Operation.writes
    {ι κ ν : Type}
    (operation : Operation ι κ ν) :
    Bool :=
  match operation with
  | .access reached => reached.writes
  | _ => false

section Edits

variable {ι κ ν : Type} [DecidableEq κ]

theorem edit_of_not_writes
    {operation : Operation ι κ ν}
    (reading : operation.writes = false)
    (store : Store κ ν) :
    operation.edit store = store := by
  cases operation with
  | access reached =>
      cases reached with
      | set key value =>
          simp [Operation.writes, Access.writes] at reading
      | delete key =>
          simp [Operation.writes, Access.writes] at reading
      | _ =>
          rfl
  | _ =>
      rfl

/-- Only the writes of a run edit a store. -/
theorem edited_filter_writes
    (operations : List (Operation ι κ ν))
    (store : Store κ ν) :
    edited (operations.filter Operation.writes) store =
      edited operations store := by
  induction operations generalizing store with
  | nil =>
      rfl
  | cons operation rest inductionHypothesis =>
      by_cases writing : operation.writes = true
      · rw [List.filter_cons_of_pos writing]
        exact inductionHypothesis (operation.edit store)
      · have reading : operation.writes = false := by
          simpa using writing
        have same : edited (operation :: rest) store = edited rest store := by
          simp [edited, edit_of_not_writes reading]
        rw [List.filter_cons_of_neg writing, same]
        exact inductionHypothesis store

/-- What is bound after an edit was bound before or is set by it. -/
theorem get?_edit
    {operation : Operation ι κ ν}
    {store : Store κ ν}
    {key : κ}
    {value : ν}
    (bound : (operation.edit store).get? key = some value) :
    store.get? key = some value ∨
      operation = .access (.set key value) := by
  cases operation with
  | access reached =>
      cases reached with
      | set other written =>
          change (store.insert other written).get? key = _ at bound
          by_cases same : key = other
          · subst same
            rw [Store.get?_insert_self] at bound
            cases bound
            exact .inr rfl
          · rw [Store.get?_insert_of_ne same] at bound
            exact .inl bound
      | delete other =>
          change (store.erase other).get? key = _ at bound
          by_cases same : key = other
          · subst same
            rw [Store.get?_erase_self] at bound
            cases bound
          · rw [Store.get?_erase_of_ne same] at bound
            exact .inl bound
      | _ =>
          exact .inl bound
  | _ =>
      exact .inl bound

/-- What is bound after some edits was bound before or is set by one of them. -/
theorem get?_edited
    {operations : List (Operation ι κ ν)}
    {store : Store κ ν}
    {key : κ}
    {value : ν}
    (bound : (edited operations store).get? key = some value) :
    store.get? key = some value ∨
      .access (.set key value) ∈ operations := by
  induction operations generalizing store with
  | nil =>
      exact .inl bound
  | cons operation rest inductionHypothesis =>
      rcases inductionHypothesis bound with before | inRest
      · rcases get?_edit before with untouched | setsIt
        · exact .inl untouched
        · exact .inr (by simp [setsIt])
      · exact .inr (by simp [inRest])

end Edits

namespace Cache

variable {ι κ ν : Type} [DecidableEq ι] [DecidableEq κ]

/-- The cache is in flight after every operation of a run. -/
def InFlightThroughout
    (operations : List (Operation ι κ ν))
    (cache : Cache ι κ ν) :
    Prop :=
  ∀ front,
    front ≠ [] →
    front <+: operations →
    (cache.after front).isTransitioning = true

omit [DecidableEq κ] in
theorem pending_settle
    {cache : Cache ι κ ν}
    {pending : Pending κ ν}
    (found : cache.pending = some pending)
    (outcome : Outcome)
    (shown : ι) :
    (cache.settle pending.generation outcome shown).cache.pending = none := by
  rw [settle_of_pending found]
  split <;> rfl

/--
What is known of a cache at some moment of an in-flight period: nothing durable
moved, and the pending store is the one prepared for the last attempt, with the
edits since.
-/
structure LastAttempt
    (start : Cache ι κ ν)
    (period superseded since : List (Operation ι κ ν))
    (attempt : UInt64)
    (observed : ι)
    (generation : Nat) :
    Prop where
  shape : period = superseded ++ .announce attempt observed :: since
  last : attempts since = []
  accepted :
    ((start.after superseded).announce attempt observed).result =
      some generation
  table : (start.after period).table = start.table
  current : (start.after period).current = start.current
  pending :
    (start.after period).pending =
      some
        ⟨generation, (start.prepare observed).1,
          edited since (start.prepare observed).2⟩

omit [DecidableEq κ] in
theorem prepare_congr
    {cache other : Cache ι κ ν}
    (table : cache.table = other.table)
    (current : cache.current = other.current)
    (observed : ι) :
    cache.prepare observed = other.prepare observed := by
  rw [prepare, prepare, table, current]

/-- Without a pending store only an accepted announcement puts one in place. -/
theorem perform_of_idle
    {cache : Cache ι κ ν}
    (idle : cache.pending = none)
    (operation : Operation ι κ ν) :
    (cache.perform operation).cache.pending = none ∨
      ∃ attempt observed,
        operation = .announce attempt observed ∧
          attempt ∉ cache.handled := by
  cases effect_perform operation cache with
  | accepts attempt observed isAnnouncement unknown =>
      exact .inr ⟨attempt, observed, isAnnouncement, unknown⟩
  | edits _ _ _ found | commits _ _ _ found | drops _ _ _ _ found =>
      rw [idle] at found
      cases found
  | reads _ _ _ _ _ same | ignores _ _ _ _ _ same
  | comesLate _ _ _ _ _ _ same =>
      exact .inl (by rw [same, idle])
  | sets _ _ _ _ _ made | deletes _ _ _ _ made =>
      left
      rw [made]
      exact idle
  | clears _ _ _ made =>
      left
      rw [made]

theorem not_mem_handled_after
    {start : Cache ι κ ν}
    {front : List (Operation ι κ ν)}
    {attempt : UInt64}
    (unknown : attempt ∉ start.handled)
    (unannounced : attempt ∉ attempts front) :
    attempt ∉ (start.after front).handled := by
  intro remembered
  have origin := handled_after_subset front start remembered
  rcases List.mem_append.mp origin with before | announced
  · exact unknown before
  · exact unannounced announced

/-- An accepted announcement at the end of a period is its last attempt. -/
theorem lastAttempt_announce
    {start : Cache ι κ ν}
    {front : List (Operation ι κ ν)}
    {attempt : UInt64}
    (table : (start.after front).table = start.table)
    (current : (start.after front).current = start.current)
    (unknown : attempt ∉ (start.after front).handled)
    (observed : ι) :
    start.LastAttempt (front ++ [.announce attempt observed]) front []
      attempt observed ((start.after front).generation + 1) := by
  obtain ⟨accepted, announced⟩ := announce_of_not_mem unknown observed
  have afterwards :
      start.after (front ++ [.announce attempt observed]) =
        ((start.after front).announce attempt observed).cache := by
    rw [after_append]
    rfl
  have prepared := prepare_congr table current observed
  refine ⟨rfl, rfl, accepted, ?_, ?_, ?_⟩
  · rw [afterwards, announced]
    exact table
  · rw [afterwards, announced]
    exact current
  · rw [afterwards, announced, prepared]
    rfl

/-- One more operation in flight leaves a last attempt, the same or a newer one. -/
theorem LastAttempt.extend
    {start : Cache ι κ ν}
    {front superseded since : List (Operation ι κ ν)}
    {attempt : UInt64}
    {observed : ι}
    {generation : Nat}
    (before :
      start.LastAttempt front superseded since attempt observed generation)
    {operation : Operation ι κ ν}
    (unknown :
      ∀ newer seen,
        operation = .announce newer seen →
        newer ∉ (start.after front).handled)
    (transitioning :
      ((start.after front).perform operation).cache.isTransitioning = true) :
    ∃ superseded since attempt observed generation,
      start.LastAttempt (front ++ [operation]) superseded since attempt
        observed generation := by
  by_cases announces : ∃ newer seen, operation = .announce newer seen
  · rcases announces with ⟨newer, seen, rfl⟩
    exact ⟨front, [], newer, seen, _,
      lastAttempt_announce before.table before.current
        (unknown newer seen rfl) seen⟩
  · have noAttempt : operation.attempt? = none := by
      cases operation with
      | announce newer seen =>
          exact absurd ⟨newer, seen, rfl⟩ announces
      | _ =>
          rfl
    have unfolded :
        start.after (front ++ [operation]) =
          ((start.after front).perform operation).cache := by
      rw [after_append]
      rfl
    rcases perform_of_pending before.pending operation with
        ⟨_, edits⟩ | ⟨newer, seen, rfl, _⟩ |
        ⟨outcome, seen, rfl⟩ | ⟨seen, rfl⟩
    · refine ⟨superseded, since ++ [operation], attempt, observed,
        generation, ?_, ?_, before.accepted, ?_, ?_, ?_⟩
      · rw [before.shape]
        simp
      · have sinceShape :
            attempts (since ++ [operation]) = attempts since := by
          simp [attempts, noAttempt]
        rw [sinceShape, before.last]
      · rw [unfolded, edits]
        exact before.table
      · rw [unfolded, edits]
        exact before.current
      · rw [unfolded, edits]
        simp [edited, List.foldl_append]
    · exact absurd ⟨newer, seen, rfl⟩ announces
    · have landed := pending_settle before.pending outcome seen
      change
        ((start.after front).settle generation outcome
          seen).cache.isTransitioning = true at transitioning
      rw [isTransitioning, landed] at transitioning
      simp at transitioning
    · simp [perform, Turn.answering, clear, isTransitioning] at transitioning

/-- At every moment of an in-flight period there is a last attempt. -/
theorem exists_lastAttempt
    {start : Cache ι κ ν}
    {period : List (Operation ι κ ν)}
    (idle : start.pending = none)
    (nonempty : period ≠ [])
    (inFlight : start.InFlightThroughout period)
    (distinct : (attempts period).Nodup)
    (fresh : ∀ attempt, attempt ∈ attempts period → attempt ∉ start.handled) :
    ∃ superseded since attempt observed generation,
      start.LastAttempt period superseded since attempt observed
        generation := by
  induction period using List.reverseRecOn with
  | nil =>
      exact absurd rfl nonempty
  | append_singleton front operation inductionHypothesis =>
      have transitioning :
          (start.after (front ++ [operation])).isTransitioning = true :=
        inFlight _ (by simp) (List.prefix_refl _)
      rw [after_append] at transitioning
      change
        ((start.after front).perform operation).cache.isTransitioning =
          true at transitioning
      have attemptsShape :
          attempts (front ++ [operation]) =
            attempts front ++ operation.attempt?.toList := by
        cases shape : operation.attempt? <;> simp [attempts, shape]
      rw [attemptsShape, List.nodup_append] at distinct
      have frontFresh :
          ∀ attempt,
            attempt ∈ attempts front →
            attempt ∉ start.handled := by
        intro attempt member
        apply fresh
        simp [attemptsShape, member]
      have unknown :
          ∀ newer seen,
            operation = .announce newer seen →
            newer ∉ (start.after front).handled := by
        rintro newer seen rfl
        apply not_mem_handled_after
        · apply fresh
          simp [attemptsShape, Operation.attempt?]
        · intro before
          exact distinct.2.2 newer before newer
            (by simp [Operation.attempt?]) rfl
      by_cases isFirst : front = []
      · subst isFirst
        rcases perform_of_idle idle operation with
            stays | ⟨attempt, observed, rfl, notHandled⟩
        · rw [after_nil, isTransitioning, stays] at transitioning
          simp at transitioning
        · exact ⟨[], [], attempt, observed, _,
            lastAttempt_announce rfl rfl notHandled observed⟩
      · have frontInFlight : start.InFlightThroughout front := by
          intro part partNonempty isPart
          exact inFlight part partNonempty
            (isPart.trans (List.prefix_append front [operation]))
        rcases inductionHypothesis isFirst frontInFlight distinct.1
            frontFresh with
          ⟨superseded, since, attempt, observed, generation, before⟩
        exact before.extend unknown transitioning

/-! ## The end of a period -/

/-- A value is bound to a key in some committed store. -/
def BoundSomewhere (key : κ) (value : ν) (cache : Cache ι κ ν) : Prop :=
  ∃ page store,
    cache.entry? page = some store ∧ store.get? key = some value

/--
How a period that was opened in one cache ends in another, given its last
attempt, the generation of that and the operations since.
-/
def EndsLike
    (opened ended : Cache ι κ ν)
    (attempt : UInt64)
    (observed : ι)
    (generation : Nat)
    (since : List (Operation ι κ ν))
    (closing : Operation ι κ ν) :
    Prop :=
  match closing with
  | .settle settled .succeeded shown =>
      -- The last attempt alone, under the generation it would have had.
      let alone :=
        opened.after
          (.announce attempt observed ::
            since.filter Operation.writes ++
              [.settle (opened.generation + 1) .succeeded shown])
      settled = generation ∧
        (opened.announce attempt observed).result =
          some (opened.generation + 1) ∧
        ended.table = alone.table ∧
        ended.current = alone.current
  | .settle settled _ _ =>
      settled = generation ∧
        ended.table = opened.table ∧
        ended.current = opened.current
  | .clear shown =>
      let alone := opened.after [.clear shown]
      ended.table = alone.table ∧
        ended.current = alone.current ∧
        ended.pending = alone.pending
  | _ => False

/--
A period has a last attempt and ends like that attempt alone.  What is bound
afterwards was bound before, or it was set since the last announcement, by an
attempt that succeeded.
-/
def CollapsesToLast
    (opened ended : Cache ι κ ν)
    (period : List (Operation ι κ ν))
    (closing : Operation ι κ ν) :
    Prop :=
  ∃ superseded attempt observed generation since,
    period = superseded ++ .announce attempt observed :: since ∧
      attempts since = [] ∧
      ((opened.after superseded).announce attempt observed).result =
        some generation ∧
      opened.EndsLike ended attempt observed generation since closing ∧
      ∀ key value,
        ended.BoundSomewhere key value →
        opened.BoundSomewhere key value ∨
          (∃ settled shown, closing = .settle settled .succeeded shown) ∧
            .access (.set key value) ∈ since

/-- An attempt with nothing but its writes commits what it prepared and wrote. -/
theorem after_attempt_alone
    {opened : Cache ι κ ν}
    {attempt : UInt64}
    (unknown : attempt ∉ opened.handled)
    (observed : ι)
    (since : List (Operation ι κ ν))
    (shown : ι) :
    let pending : Pending κ ν :=
      ⟨opened.generation + 1, (opened.prepare observed).1,
        edited since (opened.prepare observed).2⟩
    let alone :=
      opened.after
        (.announce attempt observed ::
          since.filter Operation.writes ++
            [.settle (opened.generation + 1) .succeeded shown])
    alone.table = (opened.table.commit shown pending.finished).1 ∧
      alone.current = shown := by
  intro pending alone
  obtain ⟨accepted, announced⟩ := announce_of_not_mem unknown observed
  have onlyAccesses :
      ∀ operation,
        operation ∈ since.filter Operation.writes →
        ∃ reached, operation = .access reached := by
    intro operation member
    have writing := (List.mem_filter.mp member).2
    cases operation with
    | access reached =>
        exact ⟨reached, rfl⟩
    | _ =>
        simp [Operation.writes] at writing
  have inFlight :=
    after_announce accepted
      (staysNewest_of_accesses onlyAccesses _)
      (unsettled_of_accesses onlyAccesses _)
  rw [edited_filter_writes] at inFlight
  have aloneShape :
      alone =
        (((opened.announce attempt observed).cache.after
            (since.filter Operation.writes)).settle
          pending.generation .succeeded shown).cache := by
    change
      (opened.announce attempt observed).cache.after
        (since.filter Operation.writes ++ [_]) = _
    rw [after_append]
    rfl
  have found :
      ((opened.announce attempt observed).cache.after
        (since.filter Operation.writes)).pending = some pending :=
    congrArg Cache.pending inFlight
  rw [aloneShape, settle_of_pending found, if_pos rfl,
    (commit_eq pending shown _).1, inFlight, announced]
  exact ⟨rfl, rfl⟩

/-- What a prepared store binds is bound by a committed store. -/
theorem boundSomewhere_of_prepare
    {cache : Cache ι κ ν}
    {observed : ι}
    {key : κ}
    {value : ν}
    (bound : (cache.prepare observed).2.get? key = some value) :
    cache.BoundSomewhere key value := by
  simp only [prepare] at bound
  split at bound
  · cases bound
  · cases found : cache.table.get? observed with
    | none =>
        rw [found] at bound
        cases bound
    | some store =>
        rw [found] at bound
        exact ⟨observed, store, found, bound⟩

/-- What is bound after a commit was bound before or is bound by what it stores. -/
theorem boundSomewhere_of_commit
    {cache ended : Cache ι κ ν}
    (sound : cache.table.Sound)
    {shown : ι}
    {finished : Store κ ν}
    (table : ended.table = (cache.table.commit shown finished).1)
    {key : κ}
    {value : ν}
    (bound : ended.BoundSomewhere key value) :
    cache.BoundSomewhere key value ∨ finished.get? key = some value := by
  obtain ⟨page, store, found, binds⟩ := bound
  change ended.table.get? page = some store at found
  rw [table] at found
  by_cases isShown : page = shown
  · subst isShown
    rw [Table.get?_commit_self sound] at found
    cases found
    exact .inr binds
  · have kept := Table.mem_pages_of_get? found
    rw [Table.get?_commit_of_ne sound finished isShown kept] at found
    exact .inl ⟨page, store, found, binds⟩

/-- A last attempt that succeeds ends the period like that attempt alone. -/
theorem LastAttempt.endsLike_success
    {opened : Cache ι κ ν}
    {period superseded since : List (Operation ι κ ν)}
    {attempt : UInt64}
    {observed : ι}
    {generation : Nat}
    (known :
      opened.LastAttempt period superseded since attempt observed generation)
    (sound : opened.Sound)
    (unknown : attempt ∉ opened.handled)
    (shown : ι) :
    let closing : Operation ι κ ν := .settle generation .succeeded shown
    let ended := ((opened.after period).perform closing).cache
    opened.EndsLike ended attempt observed generation since closing ∧
      ∀ key value,
        ended.BoundSomewhere key value →
        opened.BoundSomewhere key value ∨
          .access (.set key value) ∈ since := by
  intro closing ended
  let pending : Pending κ ν :=
    ⟨opened.generation + 1, (opened.prepare observed).1,
      edited since (opened.prepare observed).2⟩
  have table :
      ended.table = (opened.table.commit shown pending.finished).1 := by
    have own := settle_of_pending known.pending .succeeded shown
    simp only [ended, closing, perform, Turn.answering]
    rw [own, if_pos rfl, (commit_eq _ _ _).1, known.table]
    rfl
  have current : ended.current = shown := by
    have own := settle_of_pending known.pending .succeeded shown
    simp only [ended, closing, perform, Turn.answering]
    rw [own]
    rfl
  obtain ⟨aloneTable, aloneCurrent⟩ :=
    after_attempt_alone unknown observed since shown
  refine ⟨⟨rfl, (announce_of_not_mem unknown observed).1, ?_, ?_⟩, ?_⟩
  · rw [table, aloneTable]
  · rw [current, aloneCurrent]
  · intro key value bound
    rcases boundSomewhere_of_commit sound.table table bound with
        before | inFinished
    · exact .inl before
    · have inEdited :
          (edited since (opened.prepare observed).2).get? key =
            some value := by
        rw [Store.get?, Pending.bindings_finished] at inFinished
        exact inFinished
      rcases get?_edited inEdited with prepared | isSet
      · exact .inl (boundSomewhere_of_prepare prepared)
      · exact .inr isSet

/-- A last attempt that does not succeed ends the period as if it had not been. -/
theorem LastAttempt.endsLike_drop
    {opened : Cache ι κ ν}
    {period superseded since : List (Operation ι κ ν)}
    {attempt : UInt64}
    {observed : ι}
    {generation : Nat}
    (known :
      opened.LastAttempt period superseded since attempt observed generation)
    {outcome : Outcome}
    (unsuccessful : outcome ≠ .succeeded)
    (shown : ι) :
    let closing : Operation ι κ ν := .settle generation outcome shown
    let ended := ((opened.after period).perform closing).cache
    opened.EndsLike ended attempt observed generation since closing ∧
      ∀ key value,
        ended.BoundSomewhere key value →
        opened.BoundSomewhere key value := by
  intro closing ended
  have dropped : ended = { opened.after period with pending := none } := by
    have own := settle_of_pending known.pending outcome shown
    simp only [ended, closing, perform, Turn.answering]
    rw [own, if_neg unsuccessful]
    rfl
  have table : ended.table = opened.table := by
    rw [dropped]
    exact known.table
  have current : ended.current = opened.current := by
    rw [dropped]
    exact known.current
  refine ⟨?_, ?_⟩
  · cases outcome with
    | succeeded =>
        exact absurd rfl unsuccessful
    | failed =>
        exact ⟨rfl, table, current⟩
    | aborted =>
        exact ⟨rfl, table, current⟩
  · rintro key value ⟨page, store, found, binds⟩
    change ended.table.get? page = some store at found
    rw [table] at found
    exact ⟨page, store, found, binds⟩

/-- A clearing ends the period like a clearing at its start. -/
theorem LastAttempt.endsLike_clear
    {opened : Cache ι κ ν}
    {period superseded since : List (Operation ι κ ν)}
    {attempt : UInt64}
    {observed : ι}
    {generation : Nat}
    (known :
      opened.LastAttempt period superseded since attempt observed generation)
    (shown : ι) :
    let ended := ((opened.after period).perform (.clear shown)).cache
    opened.EndsLike ended attempt observed generation since (.clear shown) ∧
      ∀ key value, ¬ ended.BoundSomewhere key value := by
  intro ended
  refine ⟨⟨?_, rfl, rfl⟩, ?_⟩
  · simp only [ended, perform, Turn.answering, clear, Table.clear, after_cons,
      after_nil]
    rw [known.table]
  · rintro key value ⟨page, store, found, binds⟩
    cases found

/--
An in-flight period collapses to its last attempt.  If that fails or is aborted,
nothing durable has changed; if the cache is cleared, the period might not have
been; and if it succeeds, the outcome is that of the last attempt alone.
-/
theorem period_collapses_to_last_attempt
    {capacity : Nat}
    {start : ι}
    {fresh : Cache ι κ ν}
    (built : empty? capacity start = some fresh)
    {earlier period : List (Operation ι κ ν)}
    {closing : Operation ι κ ν}
    (distinct : (attempts (earlier ++ period)).Nodup)
    (idle : (fresh.after earlier).isTransitioning = false)
    (nonempty : period ≠ [])
    (inFlight : (fresh.after earlier).InFlightThroughout period)
    (landed :
      (fresh.after (earlier ++ period ++ [closing])).isTransitioning =
        false) :
    (fresh.after earlier).CollapsesToLast
      (fresh.after (earlier ++ period ++ [closing])) period closing := by
  let opened := fresh.after earlier
  let ended := fresh.after (earlier ++ period ++ [closing])
  change opened.CollapsesToLast ended period closing
  have sound : opened.Sound := (sound_of_empty? built).after earlier
  have openedIdle : opened.pending = none := by
    simpa [isTransitioning] using idle
  rw [attempts, List.filterMap_append, List.nodup_append] at distinct
  have unknown :
      ∀ attempt, attempt ∈ attempts period → attempt ∉ opened.handled := by
    intro attempt inPeriod remembered
    have origin := handled_after_subset earlier fresh remembered
    rw [(handled_of_empty? built).1, List.nil_append] at origin
    exact distinct.2.2 attempt origin attempt inPeriod rfl
  obtain ⟨superseded, since, attempt, observed, generation, known⟩ :=
    exists_lastAttempt openedIdle nonempty inFlight distinct.2.1 unknown
  have isAnnounced : attempt ∈ attempts period := by
    rw [known.shape]
    simp [attempts, Operation.attempt?]
  have endedShape :
      ended = ((opened.after period).perform closing).cache := by
    simp only [ended, after_append]
    rfl
  refine ⟨superseded, attempt, observed, generation, since, known.shape,
    known.last, known.accepted, ?_⟩
  change ended.isTransitioning = false at landed
  rw [endedShape, isTransitioning] at landed
  rw [endedShape]
  rcases perform_of_pending known.pending closing with
      ⟨_, edits⟩ | ⟨newer, seen, rfl, newerUnknown⟩ |
      ⟨outcome, shown, rfl⟩ | ⟨shown, rfl⟩
  · rw [edits] at landed
    simp at landed
  · simp [perform, Turn.answering,
      announce_of_not_mem newerUnknown seen] at landed
  · by_cases succeeded : outcome = .succeeded
    · subst succeeded
      obtain ⟨endsLike, origin⟩ :=
        known.endsLike_success sound (unknown attempt isAnnounced) shown
      refine ⟨endsLike, fun key value bound => ?_⟩
      rcases origin key value bound with before | isSet
      · exact .inl before
      · exact .inr ⟨⟨generation, shown, rfl⟩, isSet⟩
    · obtain ⟨endsLike, origin⟩ := known.endsLike_drop succeeded shown
      exact ⟨endsLike, fun key value bound => .inl (origin key value bound)⟩
  · obtain ⟨endsLike, nothing⟩ := known.endsLike_clear shown
    exact ⟨endsLike, fun key value bound => absurd bound (nothing key value)⟩

/-- A period in which a superseded attempt settles before its successor does. -/
theorem period_collapses_of_superseded :
    let fresh : Cache Nat Nat Nat := ⟨⟨[], 2, by decide⟩, 1, none, 0, []⟩
    let earlier : List (Operation Nat Nat Nat) := [.access (.set 0 5)]
    let period : List (Operation Nat Nat Nat) :=
      [.announce 7 1, .access (.set 0 6), .announce 8 1,
        .settle 1 .succeeded 2, .access (.set 3 9)]
    let closing : Operation Nat Nat Nat := .settle 2 .succeeded 2
    empty? 2 1 = some fresh ∧
      (attempts (earlier ++ period)).Nodup ∧
      (fresh.after earlier).isTransitioning = false ∧
      (fresh.after earlier).InFlightThroughout period ∧
      (fresh.after (earlier ++ period ++ [closing])).isTransitioning =
        false ∧
      (fresh.after earlier).CollapsesToLast
        (fresh.after (earlier ++ period ++ [closing])) period closing := by
  intro fresh earlier period closing
  have built : empty? 2 1 = some fresh := rfl
  have distinct : (attempts (earlier ++ period)).Nodup := by decide
  have inFlight : (fresh.after earlier).InFlightThroughout period := by
    intro front nonempty isPart
    have parts := (List.mem_inits front period).mpr isPart
    simp only [period, List.inits, List.map_cons, List.map_nil,
      List.mem_cons, List.not_mem_nil, or_false] at parts
    rcases parts with rfl | rfl | rfl | rfl | rfl | rfl
    · exact absurd rfl nonempty
    all_goals rfl
  exact ⟨built, distinct, rfl, inFlight, rfl,
    period_collapses_to_last_attempt built distinct rfl (by simp [period])
      inFlight rfl⟩

end Cache

end NavState
