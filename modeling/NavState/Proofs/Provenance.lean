import NavState.Proofs.Custody

namespace NavState

/-!
# Where settlements come from

In a session the settlement of a generation is a callback, which attempts keep
and listeners may run at any time.  Nevertheless every cache settles a generation
only after it handed it out, and once at most, and the journal tells of every
pending store that a cache put in place.
-/

/-- Whether an operation is the settlement of a generation. -/
def Operation.settles
    {ι κ ν : Type}
    (generation : Nat)
    (operation : Operation ι κ ν) :
    Bool :=
  match operation with
  | .settle settled _ _ => settled = generation
  | _ => false

namespace Cache

variable {ι κ ν : Type} [DecidableEq ι] [DecidableEq κ]

/--
Every settlement of a run is of a generation that was handed out before it and
that has not settled before.
-/
def SettlesInTurn
    (operations : List (Operation ι κ ν))
    (fresh : Cache ι κ ν) :
    Prop :=
  ∀ earlier generation outcome observed later,
    operations = earlier ++ .settle generation outcome observed :: later →
    generation ∈ fresh.accepted earlier ∧ Unsettled generation earlier

theorem settlesInTurn_nil (fresh : Cache ι κ ν) : fresh.SettlesInTurn [] := by
  intro earlier generation outcome observed later shape
  simp at shape

/-- A run goes on with a settlement that is due, or with no settlement. -/
theorem SettlesInTurn.concat
    {operations : List (Operation ι κ ν)}
    {fresh : Cache ι κ ν}
    (inTurn : fresh.SettlesInTurn operations)
    {operation : Operation ι κ ν}
    (due :
      ∀ generation,
        operation.settles generation = true →
        generation ∈ fresh.accepted operations ∧
          Unsettled generation operations) :
    fresh.SettlesInTurn (operations ++ [operation]) := by
  intro earlier generation outcome observed later shape
  rcases List.eq_nil_or_concat later with rfl | ⟨between, last, rfl⟩
  · obtain ⟨rfl, isLast⟩ := List.append_inj' shape rfl
    cases isLast
    exact due generation (decide_eq_true rfl)
  · rw [List.concat_eq_append, ← List.cons_append, ← List.append_assoc] at shape
    obtain ⟨earlierShape, _⟩ := List.append_inj' shape rfl
    exact inTurn earlier generation outcome observed between earlierShape

/-- What is handed out last is handed out behind everything else. -/
theorem accepted_concat
    (operations : List (Operation ι κ ν))
    (operation : Operation ι κ ν)
    (cache : Cache ι κ ν) :
    cache.accepted (operations ++ [operation]) =
      cache.accepted operations ++
        ((cache.after operations).perform
          operation).result.generation?.toList := by
  induction operations generalizing cache with
  | nil =>
      simp [accepted]
  | cons first rest inductionHypothesis =>
      simp [accepted, inductionHypothesis]

/-- An operation that hands nothing out leaves what was handed out. -/
theorem accepted_concat_of_none
    {operations : List (Operation ι κ ν)}
    {operation : Operation ι κ ν}
    {cache : Cache ι κ ν}
    (nothing :
      ((cache.after operations).perform operation).result.generation? = none) :
    cache.accepted (operations ++ [operation]) = cache.accepted operations := by
  rw [accepted_concat, nothing]
  exact List.append_nil _

omit [DecidableEq ι] [DecidableEq κ] in
/-- Who counts no settlement of a generation finds none. -/
theorem unsettled_of_countP_eq_zero
    {operations : List (Operation ι κ ν)}
    {generation : Nat}
    (none : operations.countP (Operation.settles generation) = 0) :
    Unsettled generation operations := by
  intro outcome observed member
  exact List.countP_eq_zero.mp none _ member (decide_eq_true rfl)

end Cache

namespace Session

/-- A pending store of a generation was put in place by a cell. -/
def Journal.Tells (index generation : Nat) (journal : Journal) : Prop :=
  (∃ attempt, ⟨index, generation, attempt⟩ ∈ journal.installed) ∨
    (index, generation) ∈ journal.hosted

theorem Journal.Tells.install
    {index generation : Nat}
    {journal : Journal}
    (tells : journal.Tells index generation)
    {other settled : Nat}
    (attempt : Option Nat) :
    (journal.install other settled attempt).Tells index generation := by
  cases attempt with
  | none =>
      exact tells.imp_right (List.mem_append_left _)
  | some attempt =>
      refine tells.imp_left ?_
      rintro ⟨earlier, member⟩
      exact ⟨earlier, List.mem_append_left _ member⟩

theorem Journal.tells_install
    (index generation : Nat)
    (attempt : Option Nat)
    (journal : Journal) :
    (journal.install index generation attempt).Tells index generation := by
  cases attempt with
  | none =>
      exact .inr (List.mem_append_right _ (List.mem_singleton_self _))
  | some attempt =>
      exact .inl ⟨attempt, List.mem_append_right _ (List.mem_singleton_self _)⟩

namespace World

/--
What a cell went through since it was new.  A generation that was handed out
waits in an attempt to be settled, or is held to be settled, or was settled, and
never more than one of these.
-/
structure Underwent
    (index : Nat)
    (held : List Callback)
    (world : World)
    (fresh : Cache PageId String String)
    (operations : List (Operation PageId String String)) :
    Prop where
  inTurn : fresh.SettlesInTurn operations
  once :
    ∀ generation,
      world.outstanding index generation +
          held.countP (Callback.settles index generation) +
          operations.countP (Operation.settles generation) ≤
        (fresh.accepted operations).count generation
  told :
    ∀ generation ∈ fresh.accepted operations,
      world.journal.Tells index generation

/-- All cells can tell what they went through, while callbacks are held. -/
structure Traced (held : List Callback) (world : World) : Prop where
  cells :
    ∀ index cell,
      world.cells[index]? = some cell →
      ∃ capacity page fresh operations,
        Cache.empty? capacity page = some fresh ∧
          cell.cache = fresh.after operations ∧
          world.Underwent index held fresh operations
  /-- There is no settlement of a cell that is still to come. -/
  absent :
    ∀ index,
      world.cells[index]? = none →
      ∀ generation,
        world.outstanding index generation +
            held.countP (Callback.settles index generation) =
          0

/-- Whatever cells went through, they can tell it after what happens. -/
def Traces (held kept : List Callback) (before ended : World) : Prop :=
  before.Traced held → ended.Traced kept

theorem Traces.trans
    {held kept rest : List Callback}
    {before between ended : World}
    (first : Traces held kept before between)
    (second : Traces kept rest between ended) :
    Traces held rest before ended :=
  fun traced => second (first traced)

theorem Underwent.of_le
    {before ended : World}
    {index : Nat}
    {held kept : List Callback}
    {fresh : Cache PageId String String}
    {operations : List (Operation PageId String String)}
    (underwent : before.Underwent index held fresh operations)
    (fewer :
      ∀ generation,
        ended.outstanding index generation +
            kept.countP (Callback.settles index generation) ≤
          before.outstanding index generation +
            held.countP (Callback.settles index generation))
    (told :
      ∀ generation,
        before.journal.Tells index generation →
        ended.journal.Tells index generation) :
    ended.Underwent index kept fresh operations where
  inTurn := underwent.inTurn
  once := by
    intro generation
    have once := underwent.once generation
    have less := fewer generation
    omega
  told := fun generation member => told generation (underwent.told generation member)

/-- No cache changes, and there is nothing more to settle. -/
theorem traces_of_le
    {before ended : World}
    {held kept : List Callback}
    (cells : ended.cells = before.cells)
    (fewer :
      ∀ index generation,
        ended.outstanding index generation +
            kept.countP (Callback.settles index generation) ≤
          before.outstanding index generation +
            held.countP (Callback.settles index generation))
    (told :
      ∀ index generation,
        before.journal.Tells index generation →
        ended.journal.Tells index generation) :
    Traces held kept before ended := by
  intro traced
  refine ⟨?_, ?_⟩
  · intro index cell found
    rw [cells] at found
    obtain ⟨capacity, page, fresh, operations, built, reached, underwent⟩ :=
      traced.cells index cell found
    exact ⟨capacity, page, fresh, operations, built, reached,
      underwent.of_le (fewer index) (told index)⟩
  · intro index missing generation
    rw [cells] at missing
    have none := traced.absent index missing generation
    have less := fewer index generation
    omega

theorem Quiet.traces
    {before ended : World}
    (quiet : before.Quiet ended)
    (held : List Callback) :
    Traces held held before ended := by
  refine traces_of_le quiet.cells ?_ ?_
  · intro index generation
    rw [outstanding, quiet.attempts]
    exact Nat.le_refl _
  · intro index generation tells
    rw [Journal.Tells, quiet.installed, quiet.hosted]
    exact tells

/-- What is logged does not matter to what cells went through. -/
theorem traces_log (log : List LogEntry) (held : List Callback) (world : World) :
    Traces held held world { world with log := log } :=
  traces_of_le rfl (fun _ _ => Nat.le_refl _) fun _ _ tells => tells

/-- A cell goes on by one operation. -/
theorem traces_putCache
    {world : World}
    {index : Nat}
    {cell : Cell}
    (found : world.cells[index]? = some cell)
    (operation : Operation PageId String String)
    {held kept : List Callback}
    (goesOn :
      ∀ fresh operations,
        cell.cache = fresh.after operations →
        world.Underwent index held fresh operations →
        world.Underwent index kept fresh (operations ++ [operation]))
    (fewer :
      ∀ other,
        other ≠ index →
        ∀ generation,
          kept.countP (Callback.settles other generation) ≤
            held.countP (Callback.settles other generation)) :
    Traces held kept world
      (world.putCache index (cell.cache.perform operation).cache) := by
  intro traced
  refine ⟨?_, ?_⟩
  · intro other later foundLater
    by_cases same : index = other
    · subst same
      have isLater :
          { cell with cache := (cell.cache.perform operation).cache } = later := by
        simpa [putCache, found] using foundLater
      subst isLater
      obtain ⟨capacity, page, fresh, operations, built, reached, underwent⟩ :=
        traced.cells index cell found
      obtain ⟨inTurn, once, told⟩ := goesOn fresh operations reached underwent
      refine ⟨capacity, page, fresh, operations ++ [operation], built, ?_,
        ⟨inTurn, once, told⟩⟩
      rw [Cache.after_append, ← reached]
      rfl
    · have foundBefore : world.cells[other]? = some later := by
        simpa [putCache, same] using foundLater
      obtain ⟨capacity, page, fresh, operations, built, reached, underwent⟩ :=
        traced.cells other later foundBefore
      refine ⟨capacity, page, fresh, operations, built, reached,
        underwent.of_le (fun generation => ?_) fun _ tells => tells⟩
      exact Nat.add_le_add_left (fewer other (Ne.symm same) generation) _
  · intro other missing generation
    have isOther : other ≠ index := by
      rintro rfl
      simp [putCache, found] at missing
    have missingBefore : world.cells[other]? = none := by
      simpa [putCache] using missing
    have none := traced.absent other missingBefore generation
    have less := fewer other isOther generation
    change world.outstanding other generation + _ = 0
    omega

section Clients

variable
  {client : Client}
  (continues : ∀ script world, Stays Traces world (client script world))

include continues

/-- A turn is an operation of its cell, and its listener goes on from there. -/
theorem traces_takeTurn
    {world : World}
    {index : Nat}
    {cell : Cell}
    (found : world.cells[index]? = some cell)
    {ρ : Type}
    {turn : Turn PageId String String ρ}
    {operation : Operation PageId String String}
    (takes : Takes cell.cache operation turn)
    {held kept : List Callback}
    (goesOn :
      ∀ fresh operations,
        cell.cache = fresh.after operations →
        world.Underwent index held fresh operations →
        world.Underwent index kept fresh (operations ++ [operation]))
    (fewer :
      ∀ other,
        other ≠ index →
        ∀ generation,
          kept.countP (Callback.settles other generation) ≤
            held.countP (Callback.settles other generation)) :
    Traces held kept world (world.takeTurn client index cell turn) := by
  have put : Traces held kept world (world.putCache index turn.cache) := by
    rw [takes.cache]
    exact traces_putCache found operation goesOn fewer
  have enacted := (quiet_enact index cell turn world).traces kept
  have delivered :=
    tracked_deliver (Traces kept kept) Traces.trans (fun quiet => quiet.traces kept)
      (fun entry world => traces_log (world.log ++ [entry]) kept world)
      (fun script world => continues script world kept) cell turn.departures
      (world.enact index cell turn)
  exact put.trans (enacted.trans delivered)

/-- A settlement that is held is due, and it is not due again. -/
theorem traces_settles
    {world : World}
    {index : Nat}
    {cell : Cell}
    (found : world.cells[index]? = some cell)
    (generation : Nat)
    (outcome : Outcome)
    (held : List Callback) :
    Traces (.settlement index generation :: held) held world
      (world.takeTurn client index cell
        (cell.cache.settle generation outcome (world.observed cell))) := by
  have own :
      Callback.settles index generation (.settlement index generation) = true :=
    decide_eq_true ⟨rfl, rfl⟩
  refine traces_takeTurn continues found
    (⟨rfl, rfl, rfl⟩ :
      Takes cell.cache (.settle generation outcome (world.observed cell)) _)
    ?_ fun _ _ _ => (List.sublist_cons_self _ held).countP_le
  intro fresh operations _ underwent
  have accepted :
      fresh.accepted
          (operations ++ [.settle generation outcome (world.observed cell)]) =
        fresh.accepted operations :=
    Cache.accepted_concat_of_none rfl
  refine ⟨underwent.inTurn.concat fun settled isSettled => ?_, fun other => ?_, ?_⟩
  · obtain rfl : generation = settled := of_decide_eq_true isSettled
    have once := underwent.once generation
    have atMostOnce :=
      List.nodup_iff_count_le_one.mp (Cache.nodup_accepted operations fresh)
        generation
    rw [List.countP_cons_of_pos own] at once
    exact ⟨List.count_pos_iff.mp (by omega),
      Cache.unsettled_of_countP_eq_zero (by omega)⟩
  · have once := underwent.once other
    rw [accepted, List.countP_append, List.countP_singleton]
    rw [List.countP_cons] at once
    simp only [Callback.settles, Operation.settles, decide_eq_true_eq, true_and]
      at once ⊢
    omega
  · rw [accepted]
    exact underwent.told

/-- Who announces an attempt that is accepted holds its settlement. -/
theorem traces_accept
    {world : World}
    {index : Nat}
    {cell : Cell}
    (found : world.cells[index]? = some cell)
    (attempt : Option Nat)
    (id : UInt64)
    (held : List Callback) :
    let accepted := world.accept client index cell attempt id
    Traces held (accepted.1.toList.map (Callback.settlement index) ++ held) world
      accepted.2 := by
  intro accepted
  let turn := cell.cache.announce id (world.observed cell)
  have foundStill :
      (world.noteAccepted index attempt turn.result).cells[index]? = some cell := by
    cases turn.result <;> exact found
  have noted :
      Traces held held world (world.noteAccepted index attempt turn.result) := by
    cases turn.result with
    | none =>
        exact (quiet_of_eq rfl).traces held
    | some generation =>
        exact traces_of_le rfl (fun _ _ => Nat.le_refl _)
          fun _ _ tells => tells.install attempt
  refine noted.trans (traces_takeTurn continues foundStill
    (⟨rfl, rfl, rfl⟩ :
      Takes cell.cache (.announce id (world.observed cell)) turn) ?_ ?_)
  · intro fresh operations reached underwent
    have goesOn :
        fresh.accepted
            (operations ++ [.announce id (world.observed cell)]) =
          fresh.accepted operations ++ turn.result.toList := by
      rw [Cache.accepted_concat, ← reached]
      rfl
    refine ⟨underwent.inTurn.concat nofun, fun generation => ?_, ?_⟩
    · have once := underwent.once generation
      rw [goesOn, List.count_append, List.countP_append, List.countP_append,
        countP_settlements, if_pos rfl, List.countP_singleton]
      change
        _ + (turn.result.toList.count generation + _) + (_ + 0) ≤ _
      omega
    · intro generation member
      rw [goesOn] at member
      rcases List.mem_append.mp member with earlier | new
      · exact underwent.told generation earlier
      · have isNew : turn.result = some generation := Option.mem_toList.mp new
        rw [isNew]
        exact Journal.tells_install index generation attempt _
  · intro other isOther generation
    rw [List.countP_append, countP_settlements, if_neg isOther, Nat.zero_add]

end Clients

/-- Callbacks that wait for attempts are accounted for, whoever holds them. -/
theorem tracksWaiting_traces : TracksWaiting Traces where
  trans := Traces.trans
  drop := by
    intro held kept fewer world
    refine traces_of_le rfl (fun index generation => ?_) fun _ _ tells => tells
    exact Nat.add_le_add_left (fewer index generation) _
  still := fun still held => still.toQuiet.traces held
  settles := traces_settles
  hosts := fun continues _ _ _ found id held =>
    traces_accept continues found none id held
  accepts := fun continues _ _ _ found attempt id held =>
    traces_accept continues found (some attempt) id held
  puts := by
    intro world place slot found attempt held kept same
    refine traces_of_le rfl (fun index generation => ?_) fun _ _ tells => tells
    have changed := outstanding_putAttempt found attempt index generation
    have moved := same (Callback.settles index generation)
    omega

/-- Calls that stand alone settle nothing, and nothing new is to be settled. -/
theorem tracksSteps_staysTraced : TracksSteps (Stays Traces) where
  trans := fun first second held => (first held).trans (second held)
  change := fun _ change held => (quiet_change _ change _).traces held
  call := by
    intro client continues world index cell found ρ turn operation takes alone held
    refine traces_takeTurn continues found takes ?_ fun _ _ _ => Nat.le_refl _
    intro fresh operations _ underwent
    have noSettlement (generation : Nat) : operation.settles generation = false := by
      cases operation with
      | settle _ _ _ => cases alone
      | _ => rfl
    have nothing :
        ((fresh.after operations).perform operation).result.generation? =
          none := by
      cases operation with
      | access reached => exact Cache.generation?_take reached _
      | clear observed => rfl
      | _ => cases alone
    have accepted := Cache.accepted_concat_of_none nothing
    refine ⟨underwent.inTurn.concat fun generation isSettled => ?_,
      fun generation => ?_, ?_⟩
    · rw [noSettlement generation] at isSettled
      cases isSettled
    · rw [accepted, List.countP_append, List.countP_singleton,
        if_neg (by simp [noSettlement])]
      exact underwent.once generation
    · rw [accepted]
      exact underwent.told
  cell := by
    intro world cell capacity page built _ held traced
    refine ⟨?_, ?_⟩
    · intro index later foundLater
      rcases Nat.lt_or_ge index world.cells.length with inside | outside
      · rw [List.getElem?_append_left inside] at foundLater
        obtain ⟨capacity, page, fresh, operations, isFresh, reached, underwent⟩ :=
          traced.cells index later foundLater
        exact ⟨capacity, page, fresh, operations, isFresh, reached,
          underwent.inTurn, underwent.once, underwent.told⟩
      · rw [List.getElem?_append_right outside] at foundLater
        have isNew : later = cell :=
          List.mem_singleton.mp (List.mem_of_getElem? foundLater)
        have missing : world.cells[index]? = none :=
          List.getElem?_eq_none_iff.mpr outside
        refine ⟨capacity, page, cell.cache, [], built, congrArg Cell.cache isNew,
          Cache.settlesInTurn_nil _, fun generation => ?_, nofun⟩
        exact (traced.absent index missing generation).le
    · intro index missing generation
      refine traced.absent index ?_ generation
      rw [List.getElem?_eq_none_iff] at missing ⊢
      rw [List.length_append] at missing
      omega

/-- Whatever happens in a world, its cells can tell what they went through. -/
theorem tracks_staysTraced : TracksAttempts (Stays Traces) := by
  refine tracksWaiting_traces.attempts tracksSteps_staysTraced ?_
  intro id resolver world held
  have none : (Attempt.start id : Attempt Callback).callbacks = [] := rfl
  refine traces_of_le rfl (fun index generation => ?_) fun _ _ tells => tells
  simp [outstanding, none]

end World

/-! ## Whole sessions -/

/-- In a session all cells can tell what they went through. -/
theorem traced_worldAfter
    (depth : Nat)
    (tracing : Bool)
    (commands : List Command) :
    (worldAfter depth commands { tracing := tracing }).Traced [] := by
  have emptied (world : World) :
      World.Stays World.Traces world { world with log := [] } :=
    fun held => World.traces_log [] held world
  have stays :=
    tracked_worldAfter World.tracks_staysTraced.tasks emptied depth commands
      { tracing := tracing }
  refine stays [] ⟨?_, ?_⟩
  · intro index cell found
    simp at found
  · intro index _ generation
    rfl

end Session

end NavState
