import NavState.Proofs.Reachability

namespace NavState

/-!
# What one call lets leave

A call finds a cache, takes its turn, and leaves departures to announce.  Its
turn is balanced: the committed stores it finds and puts into the table are
those it retains and those that leave, and the pending stores it finds and
prepares are those it commits, keeps and discards.
-/

/-- Whether a store that left had been committed. -/
def Reason.ofCommitted (reason : Reason) : Bool :=
  match reason with
  | .evict => true
  | .replace => true
  | .clear => true
  | .discard => false

namespace Departure

variable {ι : Type}

/-- Whether the pending store left. -/
def discards (departure : Departure ι) : Bool :=
  departure.reason = .discard

/-- Whether a committed store of `page` left. -/
def leaves [DecidableEq ι] (page : ι) (departure : Departure ι) : Bool :=
  departure.reason.ofCommitted && departure.page = page

end Departure

/-- One call: what it asks for, and the cache that its turn finds. -/
structure Call (ι κ ν : Type) where
  operation : Operation ι κ ν
  found : Cache ι κ ν
  deriving DecidableEq

namespace Call

variable {ι κ ν : Type} [DecidableEq ι] [DecidableEq κ]

def turn (call : Call ι κ ν) : Turn ι κ ν (Answer κ ν) :=
  call.found.perform call.operation

/-- Whether the call announces a transition and is accepted. -/
def accepts (call : Call ι κ ν) : Bool :=
  call.turn.result.generation?.isSome

/-- The page for which the call commits the pending store. -/
def committed? (call : Call ι κ ν) : Option ι :=
  match call.operation, call.found.pending with
  | .settle generation .succeeded observed, some pending =>
      if pending.generation = generation then
        some observed
      else
        none
  | _, _ => none

/-- The page for which the call creates a store, to write to it. -/
def created? (call : Call ι κ ν) : Option ι :=
  match call.operation, call.found.pending with
  | .access (.set _ _), none =>
      if call.found.retains call.found.current then
        none
      else
        some call.found.current
  | _, _ => none

/-- The call finds a pending store and drops it without committing it. -/
def Drops (call : Call ι κ ν) : Prop :=
  call.committed? = none ∧
    ∃ pending,
      call.found.pending = some pending ∧
        ∀ later,
          call.turn.cache.pending = some later →
          later.generation ≠ pending.generation

/-- What enters a cache by a call, and what is there already, stays or leaves. -/
structure Balanced (call : Call ι κ ν) : Prop where
  stores :
    ∀ page,
      call.found.table.pages.count page +
          call.committed?.toList.count page +
          call.created?.toList.count page =
        call.turn.departures.countP (Departure.leaves page) +
          call.turn.cache.table.pages.count page
  flights :
    call.found.isTransitioning.toNat + call.accepts.toNat =
      call.committed?.toList.length +
        call.turn.departures.countP Departure.discards +
        call.turn.cache.isTransitioning.toNat
  discards :
    ∀ departure ∈ call.turn.departures,
      departure.discards = true →
      call.Drops ∧ departure.page = call.found.current

end Call

/-! ## Tables -/

section Tables

variable {ι κ ν : Type}

theorem countP_leaves_map
    [DecidableEq ι]
    {reason : Reason}
    (ofCommitted : reason.ofCommitted = true)
    (page : ι)
    (pages : List ι) :
    (pages.map (Departure.mk reason)).countP (Departure.leaves page) =
      pages.count page := by
  rw [List.countP_map, List.count]
  congr 1
  funext other
  simp [Departure.leaves, ofCommitted, beq_eq_decide]

theorem countP_discards_map
    {reason : Reason}
    (ofCommitted : reason.ofCommitted = true)
    (pages : List ι) :
    (pages.map (Departure.mk reason)).countP Departure.discards = 0 := by
  have different : reason ≠ .discard := by
    rintro rfl
    cases ofCommitted
  rw [List.countP_map, List.countP_eq_zero]
  simp [Departure.discards, different]

namespace Table

theorem countP_discards_trim (table : Table ι κ ν) :
    table.trim.2.countP Departure.discards = 0 :=
  countP_discards_map rfl _

variable [DecidableEq ι]

/-- What is trimmed leaves, and the rest stays. -/
theorem count_trim (page : ι) (table : Table ι κ ν) :
    table.trim.2.countP (Departure.leaves page) +
        table.trim.1.pages.count page =
      table.pages.count page := by
  have trimmed :
      table.trim.2.countP (Departure.leaves page) =
        (table.trim.2.map Departure.page).count page := by
    simp only [trim, List.map_map]
    rw [countP_leaves_map rfl]
    congr 1
    exact (List.map_id _).symm
  rw [trimmed, ← List.count_append, pages_trim]

theorem count_pages
    {table : Table ι κ ν}
    (sound : table.Sound)
    (page : ι) :
    table.pages.count page = (table.contains page).toNat := by
  by_cases retained : table.contains page = true
  · rw [retained]
    exact List.count_eq_one_of_mem sound.distinct
      ((contains_iff_mem_pages page table).mp retained)
  · rw [Bool.eq_false_of_not_eq_true retained]
    exact List.count_eq_zero.mpr
      (mt (contains_iff_mem_pages page table).mpr retained)

/-- A page is bound once, and every other page as often as before. -/
theorem count_pages_bind
    (page : ι)
    (store : Store κ ν)
    (table : Table ι κ ν)
    (other : ι) :
    ({ table with entries := Assoc.bind page store table.entries } :
        Table ι κ ν).pages.count other =
      if other = page then
        1
      else
        table.pages.count other := by
  simp only [pages, Assoc.keys_bind, List.count_append]
  by_cases same : other = page
  · subst same
    rw [if_pos rfl, List.count_eq_zero.mpr (by simp)]
    simp
  · rw [if_neg same, List.count_filter (by simpa using same)]
    simp [Ne.symm same]

/-- A commit puts its store into the table, in the place of the one before. -/
theorem count_commit
    {table : Table ι κ ν}
    (sound : table.Sound)
    (page : ι)
    (store : Store κ ν)
    (other : ι) :
    table.pages.count other + [page].count other =
      (table.commit page store).2.countP (Departure.leaves other) +
        (table.commit page store).1.pages.count other := by
  have retained := count_pages sound page
  simp only [commit, List.countP_append]
  rw [Nat.add_assoc, count_trim, count_pages_bind]
  by_cases same : other = page
  · subst same
    rw [if_pos rfl, retained]
    cases table.contains other <;> simp [Departure.leaves, Reason.ofCommitted]
  · rw [if_neg same]
    cases table.contains page <;>
      simp [Departure.leaves, Ne.symm same]

/-- Creating a store puts it into the table, unless its page is retained. -/
theorem count_ensure
    {table : Table ι κ ν}
    (sound : table.Sound)
    (page other : ι) :
    table.pages.count other +
        (if table.contains page then none else some page).toList.count other =
      (table.ensure page).2.countP (Departure.leaves other) +
        (table.ensure page).1.pages.count other := by
  have retained := count_pages sound page
  cases contained : table.contains page with
  | true =>
      simp [ensure, contained]
  | false =>
      simp only [ensure, contained, Bool.false_eq_true, if_false]
      rw [count_trim, count_pages_bind]
      by_cases same : other = page
      · subst same
        rw [if_pos rfl, retained, contained]
        simp
      · rw [if_neg same]
        simp [Ne.symm same]

theorem countP_discards_commit
    (page : ι)
    (store : Store κ ν)
    (table : Table ι κ ν) :
    (table.commit page store).2.countP Departure.discards = 0 := by
  simp only [commit, List.countP_append, countP_discards_trim]
  split <;> rfl

theorem countP_discards_ensure (page : ι) (table : Table ι κ ν) :
    (table.ensure page).2.countP Departure.discards = 0 := by
  simp only [ensure]
  split
  · rfl
  · exact countP_discards_trim _

end Table

end Tables

/-! ## Calls -/

namespace Call

variable {ι κ ν : Type} [DecidableEq ι] [DecidableEq κ]

/-- A call under which no store comes or goes is balanced. -/
theorem balanced_of_silent
    {call : Call ι κ ν}
    (silent : call.turn.departures = [])
    (pages : call.turn.cache.table.pages = call.found.table.pages)
    (flight : call.turn.cache.isTransitioning = call.found.isTransitioning)
    (nothing : call.turn.result.generation? = none)
    (uncommitted : call.committed? = none)
    (uncreated : call.created? = none) :
    call.Balanced where
  stores := by
    intro page
    simp [silent, pages, uncommitted, uncreated]
  flights := by
    simp [silent, flight, accepts, nothing, uncommitted]
  discards := by
    simp [silent]

/-- So is a call that leaves the cache as it is. -/
theorem balanced_of_same
    {call : Call ι κ ν}
    (silent : call.turn.departures = [])
    (same : call.turn.cache = call.found)
    (nothing : call.turn.result.generation? = none)
    (uncommitted : call.committed? = none)
    (uncreated : call.created? = none) :
    call.Balanced :=
  balanced_of_silent silent (by rw [same]) (by rw [same]) nothing uncommitted
    uncreated

/-! ### Calls under which nothing leaves -/

theorem balanced_of_edit
    {reached : Access ι κ ν}
    {pending : Pending κ ν}
    {cache : Cache ι κ ν}
    (found : cache.pending = some pending) :
    Balanced ⟨.access reached, cache⟩ := by
  have taken := Cache.take_of_pending found reached
  apply balanced_of_silent
  · cases reached <;>
      simp [turn, Cache.perform, Cache.take, Turn.answering, Cache.get,
        Cache.set, Cache.delete, found]
  · simp [turn, Cache.perform, taken]
  · simp [turn, Cache.perform, taken, found, Cache.isTransitioning]
  · simp [turn, Cache.perform]
  · rfl
  · simp [created?, found]

theorem balanced_of_read
    {reached : Access ι κ ν}
    {cache : Cache ι κ ν}
    (reading : reached.writes = false) :
    Balanced ⟨.access reached, cache⟩ := by
  cases reached with
  | set key value => cases reading
  | delete key => cases reading
  | _ => exact balanced_of_same rfl rfl rfl rfl rfl

theorem balanced_of_delete
    {key : κ}
    {cache : Cache ι κ ν}
    (idle : cache.pending = none) :
    Balanced ⟨.access (.delete key), cache⟩ := by
  have deleted :
      (cache.perform (.access (.delete key))).cache =
        { cache with
          table := cache.table.adjust cache.current (Store.erase key) } := by
    simp [Cache.perform, Cache.take, Turn.answering, Cache.delete,
      Cache.adjustTarget, idle]
  apply balanced_of_silent
  · rfl
  · simp [turn, deleted]
  · simp [turn, deleted, Cache.isTransitioning]
  · rfl
  · rfl
  · rfl

theorem balanced_of_ignored
    {attempt : UInt64}
    {observed : ι}
    {cache : Cache ι κ ν}
    (remembered : attempt ∈ cache.handled) :
    Balanced ⟨.announce attempt observed, cache⟩ := by
  obtain ⟨nothing, same, silent⟩ := Cache.announce_of_mem remembered observed
  exact balanced_of_same silent same nothing rfl rfl

theorem balanced_of_stale
    {generation : Nat}
    {outcome : Outcome}
    {observed : ι}
    {cache : Cache ι κ ν}
    (gone :
      ∀ pending,
        cache.pending = some pending →
        pending.generation ≠ generation) :
    Balanced ⟨.settle generation outcome observed, cache⟩ := by
  have stale := Cache.settle_of_stale gone outcome observed
  have uncommitted :
      committed? ⟨.settle generation outcome observed, cache⟩ = none := by
    cases found : cache.pending with
    | none => cases outcome <;> simp [committed?, found]
    | some pending =>
        cases outcome <;> simp [committed?, found, gone pending found]
  apply balanced_of_same
  · simp [turn, Cache.perform, Turn.answering, stale, Cache.settleStale]
  · simp [turn, Cache.perform, Turn.answering, stale, Cache.settleStale]
  · rfl
  · exact uncommitted
  · rfl

/-! ### Calls under which stores come and go -/

omit [DecidableEq ι] [DecidableEq κ] in
theorem countP_discards_abandoned (cache : Cache ι κ ν) :
    cache.abandoned.countP Departure.discards =
      cache.isTransitioning.toNat := by
  rw [Cache.abandoned, Cache.isTransitioning]
  cases cache.pending <;> rfl

omit [DecidableEq κ] in
theorem countP_leaves_abandoned (page : ι) (cache : Cache ι κ ν) :
    cache.abandoned.countP (Departure.leaves page) = 0 := by
  rw [Cache.abandoned]
  cases cache.pending <;> rfl

/-- An abandoned store is announced for the page that was the current one. -/
theorem drops_of_mem_abandoned
    {call : Call ι κ ν}
    (uncommitted : call.committed? = none)
    (gone :
      ∀ pending later,
        call.found.pending = some pending →
        call.turn.cache.pending = some later →
        later.generation ≠ pending.generation)
    {departure : Departure ι}
    (member : departure ∈ call.found.abandoned) :
    call.Drops ∧ departure.page = call.found.current := by
  cases found : call.found.pending with
  | none =>
      simp [Cache.abandoned, found] at member
  | some pending =>
      simp only [Cache.abandoned, found, List.mem_singleton] at member
      subst member
      exact ⟨⟨uncommitted, pending, found, fun later => gone pending later found⟩,
        rfl⟩

/-- A call under which no pending store is dropped discards nothing. -/
theorem discards_of_countP_eq_zero
    {call : Call ι κ ν}
    (without : call.turn.departures.countP Departure.discards = 0) :
    ∀ departure ∈ call.turn.departures,
      departure.discards = true →
      call.Drops ∧ departure.page = call.found.current := by
  intro departure member discards
  exact absurd discards (List.countP_eq_zero.mp without departure member)

theorem balanced_of_set
    {key : κ}
    {value : ν}
    {cache : Cache ι κ ν}
    (sound : cache.Sound)
    (idle : cache.pending = none) :
    Balanced ⟨.access (.set key value), cache⟩ := by
  have turned :
      (cache.perform (.access (.set key value))).departures =
          (cache.table.ensure cache.current).2 ∧
        (cache.perform (.access (.set key value))).cache =
          { cache with
            table :=
              (cache.table.ensure cache.current).1.adjust cache.current
                (Store.insert key value) } := by
    simp [Cache.perform, Cache.take, Turn.answering, Cache.set, idle]
  have created :
      created? ⟨.access (.set key value), cache⟩ =
        if cache.table.contains cache.current then
          none
        else
          some cache.current := by
    simp only [created?, idle]
    rfl
  have rejected : accepts ⟨.access (.set key value), cache⟩ = false := by
    simp [accepts, turn, Cache.perform]
  have without :=
    Table.countP_discards_ensure cache.current cache.table
  exact {
    stores := by
      intro page
      have counted := Table.count_ensure sound.table cache.current page
      simp only [turn, turned, created, Table.pages_adjust]
      simpa [committed?] using counted
    flights := by
      simp [turn, turned, without, rejected, committed?, Cache.isTransitioning]
    discards :=
      discards_of_countP_eq_zero (by simp [turn, turned, without])
  }

theorem balanced_of_announce
    {attempt : UInt64}
    {observed : ι}
    {cache : Cache ι κ ν}
    (sound : cache.Sound)
    (unknown : attempt ∉ cache.handled) :
    Balanced ⟨.announce attempt observed, cache⟩ := by
  have accepted := Cache.announce_of_not_mem unknown observed
  have left :
      (cache.announce attempt observed).departures = cache.abandoned := by
    simp [Cache.announce, Cache.remember?, unknown]
  exact {
    stores := by
      intro page
      simp [turn, Cache.perform, Turn.answering, accepted, left,
        countP_leaves_abandoned, committed?, created?]
    flights := by
      simp [turn, Cache.perform, Turn.answering, accepted, left,
        countP_discards_abandoned, accepts, committed?,
        Answer.generation?, Cache.isTransitioning]
    discards := by
      intro departure member _
      simp only [turn, Cache.perform, Turn.answering, left] at member
      refine drops_of_mem_abandoned rfl ?_ member
      intro pending later found shape
      have newest : pending.generation = cache.generation :=
        (sound.newest pending found).1
      simp only [turn, Cache.perform, Turn.answering, accepted] at shape
      cases shape
      dsimp only
      omega
  }

theorem balanced_of_commit
    {pending : Pending κ ν}
    {observed : ι}
    {cache : Cache ι κ ν}
    (sound : cache.Sound)
    (found : cache.pending = some pending) :
    Balanced ⟨.settle pending.generation .succeeded observed, cache⟩ := by
  have settled := Cache.settle_of_pending found .succeeded observed
  rw [if_pos rfl] at settled
  have committed := Cache.commit_eq pending observed cache
  have without :=
    Table.countP_discards_commit observed pending.finished cache.table
  exact {
    stores := by
      intro page
      have counted :=
        Table.count_commit sound.table observed pending.finished page
      simpa [turn, Cache.perform, Turn.answering, settled, committed,
        committed?, created?, found] using counted
    flights := by
      simp [turn, Cache.perform, Turn.answering, settled, committed, without,
        accepts, Answer.generation?, committed?, Cache.isTransitioning, found]
    discards :=
      discards_of_countP_eq_zero (by
        simp [turn, Cache.perform, Turn.answering, settled, committed, without])
  }

theorem balanced_of_discard
    {pending : Pending κ ν}
    {outcome : Outcome}
    {observed : ι}
    {cache : Cache ι κ ν}
    (found : cache.pending = some pending)
    (unsuccessful : outcome ≠ .succeeded) :
    Balanced ⟨.settle pending.generation outcome observed, cache⟩ := by
  have settled := Cache.settle_of_pending found outcome observed
  rw [if_neg unsuccessful] at settled
  have left :
      (cache.discard pending.generation outcome).departures =
        cache.abandoned := by
    simp [Cache.discard, Cache.abandoned, found]
  have uncommitted :
      committed? ⟨.settle pending.generation outcome observed, cache⟩ =
        none := by
    cases outcome with
    | succeeded => exact absurd rfl unsuccessful
    | _ => rfl
  exact {
    stores := by
      intro page
      simp only [turn, Cache.perform, Turn.answering, settled, left,
        countP_leaves_abandoned, uncommitted]
      simp [Cache.discard, created?]
    flights := by
      simp only [turn, accepts, Cache.perform, Turn.answering, settled, left,
        countP_discards_abandoned, uncommitted]
      simp [Cache.discard, Answer.generation?, Cache.isTransitioning]
    discards := by
      intro departure member _
      simp only [turn, Cache.perform, Turn.answering, settled, left] at member
      refine drops_of_mem_abandoned uncommitted ?_ member
      intro _ later _ shape
      simp [turn, Cache.perform, Turn.answering, settled, Cache.discard] at shape
  }

theorem balanced_of_clear (observed : ι) (cache : Cache ι κ ν) :
    Balanced ⟨.clear observed, cache⟩ := by
  have without : cache.table.clear.2.countP Departure.discards = 0 :=
    countP_discards_map rfl _
  exact {
    stores := by
      intro page
      have cleared :
          cache.table.clear.2.countP (Departure.leaves page) =
            cache.table.pages.count page :=
        countP_leaves_map rfl page _
      simp [turn, Cache.perform, Turn.answering, Cache.clear, cleared,
        countP_leaves_abandoned, committed?, created?]
    flights := by
      simp [turn, accepts, Cache.perform, Turn.answering, Cache.clear, without,
        countP_discards_abandoned, Answer.generation?, committed?]
      simp [Cache.isTransitioning]
    discards := by
      intro departure member discards
      rcases List.mem_append.mp member with cleared | dropped
      · exact absurd discards
          (List.countP_eq_zero.mp without departure cleared)
      · refine drops_of_mem_abandoned rfl ?_ dropped
        intro _ later _ shape
        cases shape
  }

/-- Every call is balanced. -/
theorem balanced_of_sound
    {call : Call ι κ ν}
    (sound : call.found.Sound) :
    call.Balanced := by
  obtain ⟨operation, cache⟩ := call
  cases Cache.effect_perform operation cache with
  | edits reached pending isAccess found =>
      subst isAccess
      exact balanced_of_edit found
  | reads reached isAccess idle reading =>
      subst isAccess
      exact balanced_of_read reading
  | sets key value isAccess idle =>
      subst isAccess
      exact balanced_of_set sound idle
  | deletes key isAccess idle =>
      subst isAccess
      exact balanced_of_delete idle
  | ignores attempt observed isAnnouncement remembered =>
      subst isAnnouncement
      exact balanced_of_ignored remembered
  | accepts attempt observed isAnnouncement unknown =>
      subst isAnnouncement
      exact balanced_of_announce sound unknown
  | comesLate generation outcome observed isSettlement gone =>
      subst isSettlement
      exact balanced_of_stale gone
  | commits pending observed isSettlement found =>
      subst isSettlement
      exact balanced_of_commit sound found
  | drops pending outcome observed isSettlement found unsuccessful =>
      subst isSettlement
      exact balanced_of_discard found unsuccessful
  | clears observed isClearing =>
      subst isClearing
      exact balanced_of_clear observed cache

end Call

end NavState
