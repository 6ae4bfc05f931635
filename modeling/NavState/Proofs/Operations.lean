import NavState.Cache.Turns
import NavState.Proofs.Recency

namespace NavState

/-!
# Runs of a cache

A cache takes its operations one after the other, each in one uninterrupted
turn.  What a listener, a callback or a host calls while another call is still
being answered takes turns of its own, so a run is a list of operations however
its calls are nested; `Session.follows_worldAfter` shows this for sessions.

An operation that looks at the host carries the page that is shown at that
moment.  Moves of the history are differences between these pages.
-/

/-- A read, or a write to the state of the current page. -/
inductive Access (ι κ ν : Type) where
  | get (key : κ)
  | binds (key : κ)
  | entry (page : ι)
  | isHistoric
  | set (key : κ) (value : ν)
  | delete (key : κ)
  deriving Repr, DecidableEq

/-- One operation of a cache. -/
inductive Operation (ι κ ν : Type) where
  | access (access : Access ι κ ν)
  | announce (attempt : UInt64) (observed : ι)
  /-- The settlement of one generation runs. -/
  | settle (generation : Nat) (outcome : Outcome) (observed : ι)
  | clear (observed : ι)
  deriving Repr, DecidableEq

/-- Whether an operation is asked for by itself, not on account of an attempt. -/
def Operation.standsAlone
    {ι κ ν : Type}
    (operation : Operation ι κ ν) :
    Bool :=
  match operation with
  | .access _ => true
  | .clear _ => true
  | .announce _ _ => false
  | .settle _ _ _ => false

/-- What an operation gives back. -/
inductive Answer (κ ν : Type) where
  | value (value : Option ν)
  | flag (flag : Bool)
  | store (store : Option (Store κ ν))
  /-- The generation under which an announced attempt will be settled. -/
  | announced (generation : Option Nat)
  | nothing
  deriving Repr, DecidableEq

/-- The same turn with its result turned into an answer. -/
def Turn.answering
    {ι κ ν ρ : Type}
    (answer : ρ → Answer κ ν)
    (turn : Turn ι κ ν ρ) :
    Turn ι κ ν (Answer κ ν) where
  result := answer turn.result
  cache := turn.cache
  reports := turn.reports
  departures := turn.departures

/-- The generation that an answer hands out. -/
def Answer.generation?
    {κ ν : Type}
    (answer : Answer κ ν) :
    Option Nat :=
  match answer with
  | .announced generation => generation
  | _ => none

/-- The attempt that an operation announces. -/
def Operation.attempt?
    {ι κ ν : Type}
    (operation : Operation ι κ ν) :
    Option UInt64 :=
  match operation with
  | .announce attempt _ => some attempt
  | _ => none

/-- The attempts announced in a run, accepted or not, in order. -/
def attempts
    {ι κ ν : Type}
    (operations : List (Operation ι κ ν)) :
    List UInt64 :=
  operations.filterMap Operation.attempt?

/-- The store that is committed for a pending store. -/
def Pending.finished
    {κ ν : Type}
    (pending : Pending κ ν) :
    Store κ ν :=
  match pending.movement with
  | .forward => pending.store.markHistoric false
  | .traversal => pending.store

/-- Committing changes the flag of a store at most. -/
@[simp] theorem Pending.bindings_finished
    {κ ν : Type}
    (pending : Pending κ ν) :
    pending.finished.bindings = pending.store.bindings := by
  obtain ⟨generation, movement, store⟩ := pending
  cases movement <;> rfl

namespace Access

variable {ι κ ν : Type}

/-- Whether an access may change a store. -/
def writes (access : Access ι κ ν) : Bool :=
  match access with
  | .set _ _ => true
  | .delete _ => true
  | _ => false

variable [DecidableEq κ]

/-- What an access does to the store it reaches. -/
def edit
    (access : Access ι κ ν)
    (store : Store κ ν) :
    Store κ ν :=
  match access with
  | .set key value => store.insert key value
  | .delete key => store.erase key
  | _ => store

end Access

namespace Cache

variable {ι κ ν : Type} [DecidableEq ι] [DecidableEq κ]

/-- Take a read or a write. -/
def take
    (access : Access ι κ ν)
    (cache : Cache ι κ ν) :
    Turn ι κ ν (Answer κ ν) :=
  match access with
  | .get key => (cache.get key).answering .value
  | .binds key => ⟨.flag (cache.binds key), cache, [], []⟩
  | .entry page => ⟨.store (cache.entry? page), cache, [], []⟩
  | .isHistoric => ⟨.flag cache.isHistoric, cache, [], []⟩
  | .set key value => (cache.set key value).answering (.value ∘ some)
  | .delete key => (cache.delete key).answering .value

/-- Take one operation. -/
def perform
    (operation : Operation ι κ ν)
    (cache : Cache ι κ ν) :
    Turn ι κ ν (Answer κ ν) :=
  match operation with
  | .access access => cache.take access
  | .announce attempt observed =>
      (cache.announce attempt observed).answering .announced
  | .settle generation outcome observed =>
      (cache.settle generation outcome observed).answering fun _ => .nothing
  | .clear observed => (cache.clear observed).answering fun _ => .nothing

/-- The cache after a run. -/
def after
    (operations : List (Operation ι κ ν))
    (cache : Cache ι κ ν) :
    Cache ι κ ν :=
  operations.foldl (fun cache operation => (cache.perform operation).cache) cache

/-- The generations handed out in a run, one for each accepted announcement. -/
def accepted
    (operations : List (Operation ι κ ν))
    (cache : Cache ι κ ν) :
    List Nat :=
  match operations with
  | [] => []
  | operation :: rest =>
      let turn := cache.perform operation
      turn.result.generation?.toList ++ turn.cache.accepted rest

/-- A cache that some run leads to from its construction. -/
def Reachable (cache : Cache ι κ ν) : Prop :=
  ∃ capacity start fresh operations,
    Cache.empty? capacity start = some fresh ∧
      fresh.after operations = cache

@[simp] theorem after_nil (cache : Cache ι κ ν) :
    cache.after [] = cache :=
  rfl

@[simp] theorem after_cons
    (operation : Operation ι κ ν)
    (rest : List (Operation ι κ ν))
    (cache : Cache ι κ ν) :
    cache.after (operation :: rest) =
      (cache.perform operation).cache.after rest :=
  rfl

theorem after_append
    (earlier later : List (Operation ι κ ν))
    (cache : Cache ι κ ν) :
    cache.after (earlier ++ later) = (cache.after earlier).after later :=
  List.foldl_append

/-! ## Single operations -/

omit [DecidableEq κ] in
/-- An attempt that is remembered is ignored. -/
theorem announce_of_mem
    {attempt : UInt64}
    {cache : Cache ι κ ν}
    (remembered : attempt ∈ cache.handled)
    (observed : ι) :
    (cache.announce attempt observed).result = none ∧
      (cache.announce attempt observed).cache = cache ∧
      (cache.announce attempt observed).departures = [] := by
  simp [announce, remember?, remembered]

omit [DecidableEq κ] in
/-- Any other attempt is accepted under the next generation. -/
theorem announce_of_not_mem
    {attempt : UInt64}
    {cache : Cache ι κ ν}
    (unknown : attempt ∉ cache.handled)
    (observed : ι) :
    (cache.announce attempt observed).result = some (cache.generation + 1) ∧
      (cache.announce attempt observed).cache =
        { cache with
          generation := cache.generation + 1
          pending :=
            some
              ⟨cache.generation + 1,
                (cache.prepare observed).1,
                (cache.prepare observed).2⟩
          handled :=
            (cache.handled ++ [attempt]).drop
              ((cache.handled ++ [attempt]).length - handledLimit) } := by
  simp [announce, remember?, unknown]

omit [DecidableEq κ] in
/-- An announcement is accepted exactly if its attempt is not remembered. -/
theorem announce_result_eq_some_iff
    {attempt : UInt64}
    {observed : ι}
    {cache : Cache ι κ ν}
    {generation : Nat} :
    (cache.announce attempt observed).result = some generation ↔
      attempt ∉ cache.handled ∧ generation = cache.generation + 1 := by
  by_cases remembered : attempt ∈ cache.handled
  · simp [(announce_of_mem remembered observed).1, remembered]
  · simp [(announce_of_not_mem remembered observed).1, remembered, eq_comm]

omit [DecidableEq κ] in
/-- A settlement is stale unless the pending store is of its generation. -/
theorem settle_of_stale
    {cache : Cache ι κ ν}
    {generation : Nat}
    (stale :
      ∀ pending,
        cache.pending = some pending →
        pending.generation ≠ generation)
    (outcome : Outcome)
    (observed : ι) :
    cache.settle generation outcome observed =
      cache.settleStale generation outcome := by
  cases found : cache.pending with
  | none =>
      simp [settle, found]
  | some pending =>
      simp [settle, found, stale pending found]

omit [DecidableEq κ] in
/-- The settlement of the pending store commits or discards it. -/
theorem settle_of_pending
    {cache : Cache ι κ ν}
    {pending : Pending κ ν}
    (found : cache.pending = some pending)
    (outcome : Outcome)
    (observed : ι) :
    cache.settle pending.generation outcome observed =
      if outcome = .succeeded then
        cache.commit pending observed
      else
        cache.discard pending.generation outcome := by
  cases outcome <;> simp [settle, found, Outcome.isSuccess]

/-- In flight, an access reaches the pending store and nothing else. -/
theorem take_of_pending
    {cache : Cache ι κ ν}
    {pending : Pending κ ν}
    (found : cache.pending = some pending)
    (access : Access ι κ ν) :
    (cache.take access).cache =
      { cache with
        pending :=
          some { pending with store := access.edit pending.store } } := by
  obtain ⟨table, current, slot, generation, handled⟩ := cache
  cases found
  cases access <;> rfl

/-- An access starts no attempt. -/
theorem pending_take_of_idle
    {cache : Cache ι κ ν}
    (idle : cache.pending = none)
    (access : Access ι κ ν) :
    (cache.take access).cache.pending = none := by
  cases access <;>
    simp [take, Turn.answering, get, set, delete, adjustTarget, idle]

@[simp] theorem generation?_take
    (access : Access ι κ ν)
    (cache : Cache ι κ ν) :
    (cache.take access).result.generation? = none := by
  cases access <;> rfl

omit [DecidableEq κ] in
theorem commit_eq
    (pending : Pending κ ν)
    (observed : ι)
    (cache : Cache ι κ ν) :
    (cache.commit pending observed).cache =
        { cache with
          table := (cache.table.commit observed pending.finished).1
          current := observed
          pending := none } ∧
      (cache.commit pending observed).departures =
        (cache.table.commit observed pending.finished).2 :=
  ⟨rfl, rfl⟩

/-! ## What an operation comes to -/

/--
Everything that an operation can come to: the generation it hands out and the
cache it leaves, told apart by what the operation is and what it finds.
-/
inductive Effect
    (operation : Operation ι κ ν)
    (cache : Cache ι κ ν)
    (handedOut : Option Nat)
    (ended : Cache ι κ ν) :
    Prop where
  /-- In flight, an access edits the pending store. -/
  | edits
      (reached : Access ι κ ν)
      (pending : Pending κ ν)
      (isAccess : operation = .access reached)
      (found : cache.pending = some pending)
      (nothing : handedOut = none)
      (made :
        ended =
          { cache with
            pending :=
              some { pending with store := reached.edit pending.store } })
  | reads
      (reached : Access ι κ ν)
      (isAccess : operation = .access reached)
      (idle : cache.pending = none)
      (reading : reached.writes = false)
      (nothing : handedOut = none)
      (same : ended = cache)
  | sets
      (key : κ)
      (value : ν)
      (isAccess : operation = .access (.set key value))
      (idle : cache.pending = none)
      (nothing : handedOut = none)
      (made :
        ended =
          { cache with
            table :=
              (cache.table.ensure cache.current).1.adjust cache.current
                (Store.insert key value) })
  | deletes
      (key : κ)
      (isAccess : operation = .access (.delete key))
      (idle : cache.pending = none)
      (nothing : handedOut = none)
      (made :
        ended =
          { cache with
            table := cache.table.adjust cache.current (Store.erase key) })
  | ignores
      (attempt : UInt64)
      (observed : ι)
      (isAnnouncement : operation = .announce attempt observed)
      (remembered : attempt ∈ cache.handled)
      (nothing : handedOut = none)
      (same : ended = cache)
  | accepts
      (attempt : UInt64)
      (observed : ι)
      (isAnnouncement : operation = .announce attempt observed)
      (unknown : attempt ∉ cache.handled)
      (next : handedOut = some (cache.generation + 1))
      (made :
        ended =
          { cache with
            generation := cache.generation + 1
            pending :=
              some
                ⟨cache.generation + 1,
                  (cache.prepare observed).1,
                  (cache.prepare observed).2⟩
            handled :=
              (cache.handled ++ [attempt]).drop
                ((cache.handled ++ [attempt]).length - handledLimit) })
  | comesLate
      (generation : Nat)
      (outcome : Outcome)
      (observed : ι)
      (isSettlement : operation = .settle generation outcome observed)
      (gone :
        ∀ pending,
          cache.pending = some pending →
          pending.generation ≠ generation)
      (nothing : handedOut = none)
      (same : ended = cache)
  | commits
      (pending : Pending κ ν)
      (observed : ι)
      (isSettlement :
        operation = .settle pending.generation .succeeded observed)
      (found : cache.pending = some pending)
      (nothing : handedOut = none)
      (made :
        ended =
          { cache with
            table := (cache.table.commit observed pending.finished).1
            current := observed
            pending := none })
  | drops
      (pending : Pending κ ν)
      (outcome : Outcome)
      (observed : ι)
      (isSettlement :
        operation = .settle pending.generation outcome observed)
      (found : cache.pending = some pending)
      (unsuccessful : outcome ≠ .succeeded)
      (nothing : handedOut = none)
      (made : ended = { cache with pending := none })
  | clears
      (observed : ι)
      (isClearing : operation = .clear observed)
      (nothing : handedOut = none)
      (made :
        ended =
          { cache with
            table := cache.table.clear.1
            current := observed
            pending := none })

/-- Every operation comes to one of these. -/
theorem effect_perform
    (operation : Operation ι κ ν)
    (cache : Cache ι κ ν) :
    Effect operation cache
      (cache.perform operation).result.generation?
      (cache.perform operation).cache := by
  cases operation with
  | access reached =>
      have nothing := generation?_take reached cache
      cases found : cache.pending with
      | some pending =>
          exact .edits reached pending rfl found nothing
            (take_of_pending found reached)
      | none =>
          cases reached with
          | set key value =>
              refine .sets key value rfl found nothing ?_
              simp [perform, take, Turn.answering, set, found]
          | delete key =>
              refine .deletes key rfl found nothing ?_
              simp [perform, take, Turn.answering, delete, adjustTarget, found]
          | _ =>
              exact .reads _ rfl found rfl nothing rfl
  | announce attempt observed =>
      by_cases remembered : attempt ∈ cache.handled
      · have ignored := announce_of_mem remembered observed
        exact .ignores attempt observed rfl remembered ignored.1 ignored.2.1
      · have accepted := announce_of_not_mem remembered observed
        exact .accepts attempt observed rfl remembered accepted.1 accepted.2
  | settle generation outcome observed =>
      by_cases effective :
          ∃ pending,
            cache.pending = some pending ∧ pending.generation = generation
      · rcases effective with ⟨pending, found, rfl⟩
        have own := settle_of_pending found outcome observed
        by_cases succeeded : outcome = .succeeded
        · subst succeeded
          refine .commits pending observed rfl found rfl ?_
          simp only [perform, Turn.answering]
          rw [own, if_pos rfl]
          exact (commit_eq pending observed cache).1
        · refine .drops pending outcome observed rfl found succeeded rfl ?_
          simp only [perform, Turn.answering]
          rw [own, if_neg succeeded]
          rfl
      · have gone :
            ∀ pending,
              cache.pending = some pending →
              pending.generation ≠ generation :=
          fun pending found same => effective ⟨pending, found, same⟩
        refine .comesLate generation outcome observed rfl gone rfl ?_
        simp only [perform, Turn.answering]
        rw [settle_of_stale gone]
        rfl
  | clear observed =>
      exact .clears observed rfl rfl rfl

end Cache

end NavState
