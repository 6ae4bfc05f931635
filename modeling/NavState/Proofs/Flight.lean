import NavState.Proofs.Reachability

namespace NavState

/-!
# Attempts in flight

From its announcement to its settlement an attempt owns the pending store.
Accesses edit that store; announcements that are ignored and settlements of
other generations change nothing.  Only an accepted announcement, a clearing or
its own settlement end this.
-/

/-- What an operation does to a pending store that stays in place. -/
def Operation.edit
    {ι κ ν : Type}
    [DecidableEq κ]
    (operation : Operation ι κ ν)
    (store : Store κ ν) :
    Store κ ν :=
  match operation with
  | .access reached => reached.edit store
  | _ => store

/-- A pending store after the operations that follow its announcement. -/
def edited
    {ι κ ν : Type}
    [DecidableEq κ]
    (operations : List (Operation ι κ ν))
    (store : Store κ ν) :
    Store κ ν :=
  operations.foldl (fun store operation => operation.edit store) store

namespace Cache

variable {ι κ ν : Type} [DecidableEq ι] [DecidableEq κ]

/-- No attempt is accepted in a run, and the cache is not cleared. -/
structure StaysNewest
    (operations : List (Operation ι κ ν))
    (cache : Cache ι κ ν) :
    Prop where
  accepts : cache.accepted operations = []
  clears : ∀ observed, .clear observed ∉ operations

/-- The settlement of a generation does not run. -/
def Unsettled
    (generation : Nat)
    (operations : List (Operation ι κ ν)) :
    Prop :=
  ∀ outcome observed, .settle generation outcome observed ∉ operations

/--
With a pending store in place an operation edits it, or it accepts another
attempt, settles the pending store or clears the cache.
-/
theorem perform_of_pending
    {cache : Cache ι κ ν}
    {pending : Pending κ ν}
    (found : cache.pending = some pending)
    (operation : Operation ι κ ν) :
    ((cache.perform operation).result.generation? = none ∧
        (cache.perform operation).cache =
          { cache with
            pending :=
              some
                { pending with store := operation.edit pending.store } }) ∨
      (∃ attempt observed,
        operation = .announce attempt observed ∧
          attempt ∉ cache.handled) ∨
      (∃ outcome observed,
        operation = .settle pending.generation outcome observed) ∨
      ∃ observed, operation = .clear observed := by
  have inPlace : cache = { cache with pending := some pending } := by
    rw [← found]
  cases effect_perform operation cache with
  | edits reached other isAccess foundOther nothing made =>
      rw [found] at foundOther
      cases foundOther
      refine .inl ⟨nothing, ?_⟩
      rw [made, isAccess]
      rfl
  | reads _ _ idle | sets _ _ _ idle | deletes _ _ idle =>
      rw [found] at idle
      cases idle
  | ignores attempt observed isAnnouncement _ nothing same =>
      refine .inl ⟨nothing, ?_⟩
      rw [same, isAnnouncement]
      exact inPlace
  | accepts attempt observed isAnnouncement unknown =>
      exact .inr (.inl ⟨attempt, observed, isAnnouncement, unknown⟩)
  | comesLate generation outcome observed isSettlement _ nothing same =>
      refine .inl ⟨nothing, ?_⟩
      rw [same, isSettlement]
      exact inPlace
  | commits other observed isSettlement foundOther =>
      rw [found] at foundOther
      cases foundOther
      exact .inr (.inr (.inl ⟨.succeeded, observed, isSettlement⟩))
  | drops other outcome observed isSettlement foundOther =>
      rw [found] at foundOther
      cases foundOther
      exact .inr (.inr (.inl ⟨outcome, observed, isSettlement⟩))
  | clears observed isClearing =>
      exact .inr (.inr (.inr ⟨observed, isClearing⟩))

/-- An access leaves in flight what is in flight. -/
theorem generation_take (reached : Access ι κ ν) (cache : Cache ι κ ν) :
    (cache.take reached).cache.pending.map Pending.generation =
        cache.pending.map Pending.generation ∧
      (cache.take reached).cache.generation = cache.generation := by
  cases found : cache.pending with
  | some pending =>
      rw [take_of_pending found]
      exact ⟨rfl, rfl⟩
  | none =>
      rw [pending_take_of_idle found]
      refine ⟨rfl, ?_⟩
      cases reached <;>
        simp [take, Turn.answering, get, set, delete, adjustTarget, found]

/--
While an attempt stays the newest and unsettled, a run edits its pending store
and changes nothing else.
-/
theorem after_of_pending
    {operations : List (Operation ι κ ν)}
    {cache : Cache ι κ ν}
    {pending : Pending κ ν}
    (found : cache.pending = some pending)
    (newest : cache.StaysNewest operations)
    (unsettled : Unsettled pending.generation operations) :
    cache.after operations =
      { cache with
        pending :=
          some { pending with store := edited operations pending.store } } := by
  induction operations generalizing cache pending with
  | nil =>
      rw [after_nil]
      conv =>
        lhs
        rw [show cache = { cache with pending := some pending } by rw [← found]]
      rfl
  | cons operation rest inductionHypothesis =>
      obtain ⟨accepts, clears⟩ := newest
      rw [accepted, List.append_eq_nil_iff] at accepts
      rcases perform_of_pending found operation with
          ⟨_, edits⟩ | ⟨attempt, observed, rfl, unknown⟩ |
          ⟨outcome, observed, rfl⟩ | ⟨observed, rfl⟩
      · have restNewest :
            StaysNewest rest
              { cache with
                pending :=
                  some
                    { pending with
                      store := operation.edit pending.store } } := by
          refine ⟨?_, fun observed member => clears observed (by simp [member])⟩
          rw [← edits]
          exact accepts.2
        rw [after_cons, edits]
        exact inductionHypothesis rfl restNewest
          fun outcome observed member =>
            unsettled outcome observed (by simp [member])
      · have handedOut := accepts.1
        simp [perform, Turn.answering, Answer.generation?,
          announce_of_not_mem unknown observed] at handedOut
      · exact absurd (by simp) (unsettled outcome observed)
      · exact absurd (by simp) (clears observed)

/-- Accesses keep an attempt the newest, whatever they read or write. -/
theorem staysNewest_of_accesses
    {operations : List (Operation ι κ ν)}
    (only :
      ∀ operation,
        operation ∈ operations →
        ∃ reached, operation = .access reached)
    (cache : Cache ι κ ν) :
    cache.StaysNewest operations := by
  refine ⟨?_, ?_⟩
  · induction operations generalizing cache with
    | nil =>
        rfl
    | cons operation rest inductionHypothesis =>
        obtain ⟨reached, rfl⟩ := only operation (by simp)
        have restOnly :=
          inductionHypothesis
            (fun later member => only later (by simp [member]))
            (cache.take reached).cache
        simp only [accepted, perform, generation?_take]
        exact restOnly
  · intro observed member
    obtain ⟨reached, isAccess⟩ := only _ member
    cases isAccess

omit [DecidableEq ι] [DecidableEq κ] in
theorem unsettled_of_accesses
    {operations : List (Operation ι κ ν)}
    (only :
      ∀ operation,
        operation ∈ operations →
        ∃ reached, operation = .access reached)
    (generation : Nat) :
    Unsettled generation operations := by
  intro outcome observed member
  obtain ⟨reached, isAccess⟩ := only _ member
  cases isAccess

omit [DecidableEq κ] in
/-- An accepted attempt puts its pending store in place under its generation. -/
theorem pending_announce
    {attempt : UInt64}
    {observed : ι}
    {cache : Cache ι κ ν}
    {generation : Nat}
    (accepted :
      (cache.announce attempt observed).result = some generation) :
    (cache.announce attempt observed).cache.pending =
        some
          ⟨generation, (cache.prepare observed).1,
            (cache.prepare observed).2⟩ ∧
      (cache.announce attempt observed).cache.generation = generation ∧
      (cache.announce attempt observed).cache.table = cache.table ∧
      (cache.announce attempt observed).cache.current = cache.current := by
  obtain ⟨unknown, rfl⟩ := announce_result_eq_some_iff.mp accepted
  rw [(announce_of_not_mem unknown observed).2]
  exact ⟨rfl, rfl, rfl, rfl⟩

/-- What an undisturbed attempt has made of the cache it was announced to. -/
theorem after_announce
    {attempt : UInt64}
    {observed : ι}
    {cache : Cache ι κ ν}
    {generation : Nat}
    (accepted :
      (cache.announce attempt observed).result = some generation)
    {operations : List (Operation ι κ ν)}
    (newest :
      (cache.announce attempt observed).cache.StaysNewest operations)
    (unsettled : Unsettled generation operations) :
    (cache.announce attempt observed).cache.after operations =
      { (cache.announce attempt observed).cache with
        pending :=
          some
            ⟨generation, (cache.prepare observed).1,
              edited operations (cache.prepare observed).2⟩ } := by
  obtain ⟨found, _, _, _⟩ := pending_announce accepted
  exact after_of_pending found newest unsettled

/-! ## Lapsed attempts -/

/-- An attempt whose pending store is gone for good. -/
structure Lapsed (generation : Nat) (cache : Cache ι κ ν) : Prop where
  handedOut : generation ≤ cache.generation
  gone :
    ∀ pending,
      cache.pending = some pending →
      pending.generation ≠ generation

/-- No operation brings a pending store of an earlier generation back. -/
theorem Lapsed.perform
    {generation : Nat}
    {cache : Cache ι κ ν}
    (lapsed : cache.Lapsed generation)
    (operation : Operation ι κ ν) :
    (cache.perform operation).cache.Lapsed generation := by
  have notBefore := lapsed.handedOut
  cases effect_perform operation cache with
  | edits reached pending _ found _ made =>
      rw [made]
      refine ⟨notBefore, ?_⟩
      intro edited shape
      cases shape
      exact lapsed.gone pending found
  | accepts attempt observed _ _ _ made =>
      rw [made]
      refine ⟨Nat.le_succ_of_le notBefore, ?_⟩
      intro pending shape
      cases shape
      exact (Nat.lt_succ_of_le notBefore).ne'
  | reads _ _ _ _ _ same | ignores _ _ _ _ _ same
  | comesLate _ _ _ _ _ _ same =>
      rw [same]
      exact lapsed
  | sets _ _ _ _ _ made | deletes _ _ _ _ made =>
      rw [made]
      exact ⟨notBefore, lapsed.gone⟩
  | commits _ _ _ _ _ made | drops _ _ _ _ _ _ _ made
  | clears _ _ _ made =>
      rw [made]
      exact ⟨notBefore, by simp⟩

omit [DecidableEq κ] in
/-- Whatever its outcome, a settlement leaves nothing of its generation. -/
theorem lapsed_settle
    {generation : Nat}
    {cache : Cache ι κ ν}
    (handedOut : generation ≤ cache.generation)
    (outcome : Outcome)
    (shown : ι) :
    (cache.settle generation outcome shown).cache.Lapsed generation := by
  by_cases waiting :
      ∃ pending,
        cache.pending = some pending ∧ pending.generation = generation
  · obtain ⟨pending, found, rfl⟩ := waiting
    rw [settle_of_pending found]
    split
    · rw [(commit_eq pending shown cache).1]
      exact ⟨handedOut, by simp⟩
    · exact ⟨handedOut, by simp [discard]⟩
  · have gone :
        ∀ pending,
          cache.pending = some pending →
          pending.generation ≠ generation :=
      fun pending found same => waiting ⟨pending, found, same⟩
    rw [settle_of_stale gone]
    exact ⟨handedOut, gone⟩

/-- No run brings a pending store of an earlier generation back. -/
theorem Lapsed.after
    {generation : Nat}
    {cache : Cache ι κ ν}
    (lapsed : cache.Lapsed generation)
    (operations : List (Operation ι κ ν)) :
    (cache.after operations).Lapsed generation := by
  induction operations generalizing cache with
  | nil =>
      exact lapsed
  | cons operation rest inductionHypothesis =>
      exact inductionHypothesis (lapsed.perform operation)

/--
An operation edits the pending store of the newest attempt at most, or the
attempt has lapsed.
-/
theorem perform_of_newest
    {cache : Cache ι κ ν}
    {pending : Pending κ ν}
    (found : cache.pending = some pending)
    (newest : pending.generation = cache.generation)
    (operation : Operation ι κ ν) :
    ((cache.perform operation).result.generation? = none ∧
        (cache.perform operation).cache =
          { cache with
            pending :=
              some
                { pending with store := operation.edit pending.store } }) ∨
      (cache.perform operation).cache.Lapsed pending.generation := by
  rcases perform_of_pending found operation with
      edits | ⟨attempt, observed, rfl, unknown⟩ |
      ⟨outcome, observed, rfl⟩ | ⟨observed, rfl⟩
  · exact .inl edits
  · right
    simp only [perform, Turn.answering,
      (announce_of_not_mem unknown observed).2]
    refine ⟨by simp only; omega, ?_⟩
    intro newer shape
    cases shape
    simp only
    omega
  · exact .inr (lapsed_settle newest.le outcome observed)
  · right
    exact ⟨newest.le, by simp [perform, Turn.answering, clear]⟩

/--
After any run the pending store of the newest attempt is still in place and
nothing else was touched, or the attempt has lapsed for good.
-/
theorem after_of_newest
    {operations : List (Operation ι κ ν)}
    {cache : Cache ι κ ν}
    {pending : Pending κ ν}
    (found : cache.pending = some pending)
    (newest : pending.generation = cache.generation) :
    cache.after operations =
        { cache with
          pending :=
            some
              { pending with store := edited operations pending.store } } ∨
      (cache.after operations).Lapsed pending.generation := by
  induction operations generalizing cache pending with
  | nil =>
      left
      obtain ⟨table, current, slot, generation, handled⟩ := cache
      cases found
      rfl
  | cons operation rest inductionHypothesis =>
      rw [after_cons]
      rcases perform_of_newest found newest operation with
          ⟨_, edits⟩ | lapsed
      · rw [edits]
        exact @inductionHypothesis _
          { pending with store := operation.edit pending.store } rfl newest
      · exact .inr (lapsed.after rest)

/-- An attempt that does not stay the newest has lapsed for good. -/
theorem lapsed_of_not_staysNewest
    {operations : List (Operation ι κ ν)}
    {cache : Cache ι κ ν}
    {pending : Pending κ ν}
    (found : cache.pending = some pending)
    (newest : pending.generation = cache.generation)
    (disturbed : ¬ cache.StaysNewest operations) :
    (cache.after operations).Lapsed pending.generation := by
  induction operations generalizing cache pending with
  | nil =>
      exact absurd ⟨rfl, by simp⟩ disturbed
  | cons operation rest inductionHypothesis =>
      rw [after_cons]
      rcases perform_of_newest found newest operation with
          ⟨nothing, edits⟩ | lapsed
      · rw [edits]
        refine @inductionHypothesis _
          { pending with store := operation.edit pending.store } rfl newest ?_
        intro restNewest
        apply disturbed
        refine ⟨?_, ?_⟩
        · rw [accepted, nothing, edits, restNewest.accepts]
          rfl
        · intro observed member
          rcases List.mem_cons.mp member with rfl | inRest
          · have emptied := congrArg Cache.pending edits
            simp [perform, Turn.answering, clear] at emptied
          · exact restNewest.clears observed inRest
      · exact lapsed.after rest

end Cache

end NavState
