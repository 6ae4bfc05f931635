import NavState.Proofs.Movements
import NavState.Proofs.Touches

namespace NavState

/-!
# How pages were reached

The flag of a pending store is up, whatever the attempt turns out to be.  The
flag of a committed store says how its page was reached: it is up exactly if the
store was put in place by a commit, and the hook of the committed transition saw
the history away from the current page.  A store keeps its flag for as long as it
stays in place.
-/

/-! ## Hooks and stores of a run -/

namespace Call

variable {ι κ ν : Type} [DecidableEq ι] [DecidableEq κ]

omit [DecidableEq κ] in
/-- The page for which the call puts a store in place. -/
def puts? (call : Call ι κ ν) : Option ι :=
  call.committed?.or call.created?

/--
The call is a hook that is accepted under `generation`, and sees the history away
from the current page or not.
-/
def Hooks
    (away : Bool)
    (generation : Nat)
    (call : Call ι κ ν) :
    Prop :=
  ∃ attempt observed,
    call.operation = .announce attempt observed ∧
      call.turn.result.generation? = some generation ∧
      away = decide (observed ≠ call.found.current)

end Call

section Reaching

variable {ι κ ν : Type} [DecidableEq ι] [DecidableEq κ]

/-- One of the calls is the hook of `generation`. -/
def Hooked
    (away : Bool)
    (generation : Nat)
    (calls : List (Call ι κ ν)) :
    Prop :=
  ∃ hook ∈ calls, hook.Hooks away generation

/--
The call `put`, which comes after `earlier`, puts a store of `page` in place, and
there it stays.
-/
def PutBy
    (page : ι)
    (earlier : List (Call ι κ ν))
    (put : Call ι κ ν)
    (calls : List (Call ι κ ν)) :
    Prop :=
  ∃ later,
    calls = earlier ++ put :: later ∧
      put.puts? = some page ∧
      ∀ call ∈ later,
        call.clears = false ∧
          call.puts? ≠ some page ∧
          call.turn.cache.retains page = true

/-- The call commits for `page` what the hook of its generation prepared. -/
def CommittedFrom
    (away : Bool)
    (page : ι)
    (earlier : List (Call ι κ ν))
    (put : Call ι κ ν) :
    Prop :=
  ∃ generation,
    put.operation = .settle generation .succeeded page ∧
      put.committed? = some page ∧
      Hooked away generation earlier

theorem Hooked.append
    {away : Bool}
    {generation : Nat}
    {calls : List (Call ι κ ν)}
    (hooked : Hooked away generation calls)
    (later : List (Call ι κ ν)) :
    Hooked away generation (calls ++ later) := by
  obtain ⟨hook, member, hooks⟩ := hooked
  exact ⟨hook, List.mem_append_left later member, hooks⟩

/-- A call that hands out no generation is the hook of none. -/
theorem hooked_concat_iff_of_none
    {call : Call ι κ ν}
    (nothing : call.turn.result.generation? = none)
    {away : Bool}
    {generation : Nat}
    {calls : List (Call ι κ ν)} :
    Hooked away generation (calls ++ [call]) ↔
      Hooked away generation calls := by
  refine ⟨?_, fun hooked => hooked.append [call]⟩
  rintro ⟨hook, member, attempt, observed, announces, handedOut, isAway⟩
  rcases List.mem_append.mp member with earlier | last
  · exact ⟨hook, earlier, attempt, observed, announces, handedOut, isAway⟩
  · rw [List.mem_singleton.mp last, nothing] at handedOut
    cases handedOut

/-- A store that was put in place stays there for one more call. -/
theorem PutBy.concat
    {page : ι}
    {earlier : List (Call ι κ ν)}
    {put : Call ι κ ν}
    {calls : List (Call ι κ ν)}
    (place : PutBy page earlier put calls)
    {call : Call ι κ ν}
    (stays : call.clears = false)
    (other : call.puts? ≠ some page)
    (retained : page ∈ call.turn.cache.table.pages) :
    PutBy page earlier put (calls ++ [call]) := by
  obtain ⟨later, rfl, puts, kept⟩ := place
  refine ⟨later ++ [call], by simp, puts, ?_⟩
  intro next member
  rcases List.mem_append.mp member with before | last
  · exact kept next before
  · rw [List.mem_singleton.mp last]
    exact ⟨stays, other, (Table.contains_iff_mem_pages _ _).mpr retained⟩

omit [DecidableEq κ] in
theorem Call.puts?_of_committed
    {call : Call ι κ ν}
    {page : ι}
    (committed : call.committed? = some page) :
    call.puts? = some page := by
  rw [puts?, committed]
  rfl

omit [DecidableEq κ] in
theorem Call.puts?_of_not_committed
    {call : Call ι κ ν}
    (uncommitted : call.committed? = none) :
    call.puts? = call.created? := by
  rw [puts?, uncommitted]
  rfl

/-- The call that has just put a store in place did so. -/
theorem putBy_last
    {call : Call ι κ ν}
    {page : ι}
    (puts : call.puts? = some page)
    (calls : List (Call ι κ ν)) :
    PutBy page calls call (calls ++ [call]) :=
  ⟨[], rfl, puts, fun _ member => nomatch member⟩

/-! ## The flags after a run -/

/--
The generations of the hooks are those handed out, each of them once.  The flag
of the pending store is up, and its movement is what its hook saw.  The flag of a
committed store is what the call says that put it in place.
-/
structure Told (calls : List (Call ι κ ν)) (cache : Cache ι κ ν) : Prop where
  bounded :
    ∀ away generation,
      Hooked away generation calls →
      generation ≤ cache.generation
  once :
    ∀ away other generation,
      Hooked away generation calls →
      Hooked other generation calls →
      away = other
  pending :
    ∀ pending,
      cache.pending = some pending →
      pending.store.historic = true ∧
        Hooked (decide (pending.movement = .traversal)) pending.generation calls
  retained :
    ∀ page store,
      cache.table.get? page = some store →
      ∃ earlier put,
        PutBy page earlier put calls ∧
          (put.created? = some page ∧ store.historic = false ∨
            CommittedFrom store.historic page earlier put)

omit [DecidableEq ι] in
theorem historic_edit
    (reached : Access ι κ ν)
    (store : Store κ ν) :
    (reached.edit store).historic = store.historic := by
  cases reached <;> rfl

omit [DecidableEq ι] [DecidableEq κ] in
/-- A finished store keeps the flag exactly if it was prepared for a traversal. -/
theorem historic_finished_of_raised
    {pending : Pending κ ν}
    (raised : pending.store.historic = true) :
    pending.finished.historic = decide (pending.movement = .traversal) := by
  have lowered := Pending.historic_finished raised
  cases isForward : pending.movement with
  | forward =>
      rw [lowered.mpr isForward]
      rfl
  | traversal =>
      rw [isForward] at lowered
      simpa using lowered

/-- The flags of the committed stores stay explained. -/
theorem Told.retained_concat
    {calls : List (Call ι κ ν)}
    {call : Call ι κ ν}
    (told : Told calls call.found)
    (sound : call.found.Sound)
    {page : ι}
    {store : Store κ ν}
    (found : call.turn.cache.table.get? page = some store) :
    ∃ earlier put,
      PutBy page earlier put (calls ++ [call]) ∧
        (put.created? = some page ∧ store.historic = false ∨
          CommittedFrom store.historic page earlier put) := by
  have isPage := Table.mem_pages_of_get? found
  cases Call.placement_of_sound sound with
  | leaves stays uncommitted uncreated _ flags =>
      -- The store was there before, with the same flag.
      have flag := flags page
      rw [found] at flag
      obtain ⟨before, wasFound, same⟩ := Option.map_eq_some_iff.mp flag.symm
      obtain ⟨earlier, put, place, explained⟩ :=
        told.retained page before wasFound
      rw [same] at explained
      have noPut : call.puts? = none :=
        (Call.puts?_of_not_committed uncommitted).trans uncreated
      exact ⟨earlier, put, place.concat stays (by simp [noPut]) isPage,
        explained⟩
  | creates _ uncommitted created _ pages flag =>
      rw [pages, List.mem_singleton] at isPage
      subst isPage
      rw [found] at flag
      exact ⟨calls, call,
        putBy_last ((Call.puts?_of_not_committed uncommitted).trans created) calls,
        .inl ⟨created, by simpa using flag⟩⟩
  | commits pending observed settles wasFound committed made =>
      have puts := Call.puts?_of_committed committed
      rw [made] at found isPage
      by_cases same : page = observed
      · subst same
        rw [Table.get?_commit_self sound.table] at found
        cases found
        obtain ⟨raised, hooked⟩ := told.pending pending wasFound
        rw [← historic_finished_of_raised raised] at hooked
        exact ⟨calls, call, putBy_last puts calls,
          .inr ⟨pending.generation, settles, committed, hooked⟩⟩
      · rw [Table.get?_commit_of_ne sound.table _ same isPage] at found
        obtain ⟨earlier, put, place, explained⟩ :=
          told.retained page store found
        have stays := (Call.created?_of_committed committed).2
        refine ⟨earlier, put, place.concat stays ?_ ?_, explained⟩
        · rw [puts]
          exact fun isSame => same (Option.some.inj isSame).symm
        · rw [made]
          exact isPage
  | clears _ pages =>
      rw [pages] at isPage
      cases isPage

/-- A call that hands out no generation keeps what is told about hooks. -/
theorem Told.concat_of_none
    {calls : List (Call ι κ ν)}
    {call : Call ι κ ν}
    (told : Told calls call.found)
    (sound : call.found.Sound)
    (nothing : call.turn.result.generation? = none)
    (generation :
      call.turn.cache.generation = call.found.generation)
    (pending :
      ∀ pending,
        call.turn.cache.pending = some pending →
        ∃ before,
          call.found.pending = some before ∧
            pending.generation = before.generation ∧
            pending.movement = before.movement ∧
            pending.store.historic = before.store.historic) :
    Told (calls ++ [call]) call.turn.cache where
  bounded := by
    intro away announced
    rw [hooked_concat_iff_of_none nothing, generation]
    exact told.bounded away announced
  once := by
    intro away other announced
    rw [hooked_concat_iff_of_none nothing, hooked_concat_iff_of_none nothing]
    exact told.once away other announced
  pending := by
    intro now found
    obtain ⟨before, wasFound, sameGeneration, sameMovement, sameFlag⟩ :=
      pending now found
    rw [sameGeneration, sameMovement, sameFlag]
    obtain ⟨raised, hooked⟩ := told.pending before wasFound
    exact ⟨raised, hooked.append [call]⟩
  retained := fun _ _ => told.retained_concat sound

/-- An accepted hook is the only one of its generation. -/
theorem Told.concat_of_accepted
    {calls : List (Call ι κ ν)}
    {call : Call ι κ ν}
    (told : Told calls call.found)
    (sound : call.found.Sound)
    {attempt : UInt64}
    {observed : ι}
    (announces : call.operation = .announce attempt observed)
    (next :
      call.turn.result.generation? = some (call.found.generation + 1))
    (generation :
      call.turn.cache.generation = call.found.generation + 1)
    (pending :
      call.turn.cache.pending =
        some
          ⟨call.found.generation + 1,
            (call.found.prepare observed).1,
            (call.found.prepare observed).2⟩) :
    Told (calls ++ [call]) call.turn.cache := by
  -- The generation is new, so what is told about the others stays.
  have split :
      ∀ {away announced},
        Hooked away announced (calls ++ [call]) →
        Hooked away announced calls ∨
          announced = call.found.generation + 1 ∧
            away = decide (observed ≠ call.found.current) := by
    rintro away announced ⟨hook, member, hooks⟩
    rcases List.mem_append.mp member with earlier | last
    · exact .inl ⟨hook, earlier, hooks⟩
    · obtain ⟨_, _, same, handedOut, isAway⟩ := hooks
      rw [List.mem_singleton.mp last] at same handedOut isAway
      cases announces.symm.trans same
      exact .inr ⟨Option.some.inj (handedOut.symm.trans next), isAway⟩
  refine ⟨?_, ?_, ?_, fun _ _ => told.retained_concat sound⟩
  · intro away announced hooked
    rw [generation]
    rcases split hooked with earlier | ⟨rfl, _⟩
    · exact Nat.le_succ_of_le (told.bounded away announced earlier)
    · exact Nat.le_refl _
  · intro away other announced first second
    rcases split first with earlier | ⟨isNew, isAway⟩ <;>
      rcases split second with before | ⟨isLast, isOther⟩
    · exact told.once away other announced earlier before
    · have bound := told.bounded away announced earlier
      omega
    · have bound := told.bounded other announced before
      omega
    · rw [isAway, isOther]
  · intro now found
    rw [pending] at found
    cases found
    refine ⟨Cache.historic_prepare observed call.found, call,
      List.mem_append_right _ (List.mem_singleton.mpr rfl), attempt, observed,
      announces, next, ?_⟩
    have forward := Cache.movement_prepare observed call.found
    cases isForward : (call.found.prepare observed).1 with
    | forward =>
        simp [forward.mp isForward]
    | traversal =>
        rw [isForward] at forward
        simpa using forward

/-- One more call keeps the flags told. -/
theorem Told.concat
    {calls : List (Call ι κ ν)}
    {call : Call ι κ ν}
    (told : Told calls call.found)
    (sound : call.found.Sound) :
    Told (calls ++ [call]) call.turn.cache := by
  cases Cache.effect_perform call.operation call.found with
  | accepts attempt observed announces _ next made =>
      change call.turn.cache = _ at made
      exact told.concat_of_accepted sound announces next (by rw [made])
        (by rw [made])
  | edits reached pending _ found nothing made =>
      change call.turn.cache = _ at made
      refine told.concat_of_none sound nothing (by rw [made]) ?_
      intro now isNow
      rw [made] at isNow
      cases isNow
      exact ⟨pending, found, rfl, rfl, historic_edit reached pending.store⟩
  | reads _ _ _ _ nothing same | ignores _ _ _ _ nothing same
  | comesLate _ _ _ _ _ nothing same =>
      change call.turn.cache = _ at same
      refine told.concat_of_none sound nothing (by rw [same]) ?_
      intro now isNow
      rw [same] at isNow
      exact ⟨now, isNow, rfl, rfl, rfl⟩
  | sets _ _ _ idle nothing made | deletes _ _ idle nothing made =>
      change call.turn.cache = _ at made
      refine told.concat_of_none sound nothing (by rw [made]) ?_
      intro now isNow
      rw [made] at isNow
      cases idle.symm.trans isNow
  | commits _ _ _ _ nothing made | drops _ _ _ _ _ _ nothing made
  | clears _ _ nothing made =>
      change call.turn.cache = _ at made
      refine told.concat_of_none sound nothing (by rw [made]) ?_
      intro now isNow
      rw [made] at isNow
      cases isNow

/-- After every run the flags are told. -/
theorem told_after
    {fresh : Cache ι κ ν}
    (sound : fresh.Sound)
    (idle : fresh.pending = none)
    (untouched : fresh.table.pages = [])
    (operations : List (Operation ι κ ν)) :
    Told (fresh.calls operations) (fresh.after operations) := by
  induction operations using List.reverseRecOn with
  | nil =>
      refine ⟨?_, ?_, ?_, ?_⟩
      · rintro _ _ ⟨_, member, _⟩
        cases member
      · rintro _ _ _ ⟨_, member, _⟩
        cases member
      · intro pending found
        cases idle.symm.trans found
      · intro page store found
        have isPage := Table.mem_pages_of_get? found
        rw [Cache.after_nil, untouched] at isPage
        cases isPage
  | append_singleton operations operation inductionHypothesis =>
      rw [Cache.calls_concat, Cache.after_concat]
      exact inductionHypothesis.concat (sound.after operations)

/-- A call that commits does so from a hook that saw one thing. -/
theorem Told.committedFrom_once
    {calls : List (Call ι κ ν)}
    {cache : Cache ι κ ν}
    (told : Told calls cache)
    {page : ι}
    {earlier : List (Call ι κ ν)}
    {put : Call ι κ ν}
    (place : PutBy page earlier put calls)
    {away other : Bool}
    (first : CommittedFrom away page earlier put)
    (second : CommittedFrom other page earlier put) :
    away = other := by
  obtain ⟨later, rfl, _⟩ := place
  obtain ⟨generation, settles, _, hooked⟩ := first
  obtain ⟨_, same, _, hookedToo⟩ := second
  cases settles.symm.trans same
  exact told.once away other generation (hooked.append (put :: later))
    (hookedToo.append (put :: later))

/-- What explains the flag of a store decides it. -/
theorem Told.flag_iff
    {calls : List (Call ι κ ν)}
    {cache : Cache ι κ ν}
    (told : Told calls cache)
    {page : ι}
    {earlier : List (Call ι κ ν)}
    {put : Call ι κ ν}
    (place : PutBy page earlier put calls)
    {flag : Bool}
    (explained :
      put.created? = some page ∧ flag = false ∨
        CommittedFrom flag page earlier put) :
    (flag = true ↔ CommittedFrom true page earlier put) ∧
      (flag = false ↔
        put.created? = some page ∨ CommittedFrom false page earlier put) := by
  have exclusive :
      ∀ {away}, CommittedFrom away page earlier put →
        put.created? ≠ some page := by
    rintro away ⟨_, _, committed, _⟩ created
    rw [(Call.created?_of_committed committed).1] at created
    cases created
  rcases explained with ⟨created, rfl⟩ | committed
  · refine ⟨⟨nofun, fun committed => ?_⟩, ⟨fun _ => .inl created, fun _ => rfl⟩⟩
    exact absurd created (exclusive committed)
  · refine ⟨⟨?_, told.committedFrom_once place committed⟩,
      ⟨?_, ?_⟩⟩
    · rintro rfl
      exact committed
    · rintro rfl
      exact .inr committed
    · rintro (created | committedAtHome)
      · exact absurd created (exclusive committed)
      · exact told.committedFrom_once place committed committedAtHome

end Reaching

namespace Cache

variable {ι κ ν : Type} [DecidableEq ι] [DecidableEq κ]

omit [DecidableEq κ] in
/-- In flight the flag is that of the pending store. -/
theorem isHistoric_of_pending
    {cache : Cache ι κ ν}
    {pending : Pending κ ν}
    (found : cache.pending = some pending) :
    cache.isHistoric = pending.store.historic := by
  rw [isHistoric, target?, found]

omit [DecidableEq κ] in
/-- Otherwise it is that of the current page, or down if it is not retained. -/
theorem isHistoric_of_idle
    {cache : Cache ι κ ν}
    (idle : cache.pending = none) :
    cache.isHistoric =
      ((cache.entry? cache.current).map Store.historic).getD false := by
  rw [isHistoric, target?, idle, entry?]
  cases cache.table.get? cache.current <;> rfl

/--
The flag records how a page was reached.  After every run the flag that reads see
is up while a transition is in flight, and that of the current page otherwise,
down if the page is not retained.  Every retained store was put in place by a call
and stayed there.  Its flag is up exactly if that call commits a transition whose
hook was accepted while the history showed another page than the current one; and
down exactly if that call created the store, or commits a transition whose hook
was accepted on the current page.

What the store was copied from, what was written to it, and what else happened
since its call, has no part in it.
-/
theorem flag_records_how_page_was_reached
    {capacity : Nat}
    {start : ι}
    {fresh : Cache ι κ ν}
    (built : empty? capacity start = some fresh)
    (operations : List (Operation ι κ ν)) :
    let cache := fresh.after operations
    let calls := fresh.calls operations
    (cache.isTransitioning = true → cache.isHistoric = true) ∧
    (cache.isTransitioning = false →
      cache.isHistoric =
        ((cache.entry? cache.current).map Store.historic).getD false) ∧
    ∀ page store,
      cache.entry? page = some store →
      ∃ earlier put,
        PutBy page earlier put calls ∧
          (store.historic = true ↔ CommittedFrom true page earlier put) ∧
          (store.historic = false ↔
            put.created? = some page ∨
              CommittedFrom false page earlier put) := by
  intro cache calls
  obtain ⟨_, _, freshIdle⟩ := handled_of_empty? built
  have told : Told calls cache :=
    told_after (sound_of_empty? built) freshIdle (pages_of_empty? built)
      operations
  refine ⟨?_, ?_, ?_⟩
  · intro transitioning
    obtain ⟨pending, found⟩ := Option.isSome_iff_exists.mp transitioning
    rw [isHistoric_of_pending found]
    exact (told.pending pending found).1
  · intro settled
    exact isHistoric_of_idle
      (Option.isNone_iff_eq_none.mp (Option.isSome_eq_false_iff.mp settled))
  · intro page store found
    obtain ⟨earlier, put, place, explained⟩ := told.retained page store found
    exact ⟨earlier, put, place, told.flag_iff place explained⟩

/--
A page is created and left by a link, gone back to, and left by a link again; the
traversal that follows is still in flight.  The page gone back to has its flag up
from that commit, although it was created, and the page that the last link led to
has it down, although its attempt raised it.
-/
theorem flag_records_how_page_was_reached_of_returning :
    let fresh : Cache Nat Nat Nat := ⟨⟨[], 2, by decide⟩, 1, none, 0, []⟩
    let operations : List (Operation Nat Nat Nat) :=
      [.access (.set 0 5), .announce 7 1, .settle 1 .succeeded 2,
        .announce 8 1, .settle 2 .succeeded 1, .announce 9 1,
        .settle 3 .succeeded 3, .announce 10 1, .access (.delete 0)]
    let cache := fresh.after operations
    let calls := fresh.calls operations
    let returned : Store Nat Nat := ⟨[(0, 5)], true⟩
    let linked : Store Nat Nat := ⟨[], false⟩
    (empty? 2 1 = some fresh ∧
        cache.isTransitioning = true ∧
        cache.entry? 1 = some returned ∧
        cache.entry? 3 = some linked) ∧
      cache.isHistoric = true ∧
      (∃ earlier put,
        PutBy 1 earlier put calls ∧ CommittedFrom true 1 earlier put) ∧
      ∃ earlier put,
        PutBy 3 earlier put calls ∧
          ¬ CommittedFrom true 3 earlier put ∧
          (put.created? = some 3 ∨ CommittedFrom false 3 earlier put) := by
  intro fresh operations cache calls returned linked
  have built : empty? 2 1 = some fresh := rfl
  have facts :
      cache.isTransitioning = true ∧
        cache.entry? 1 = some returned ∧
        cache.entry? 3 = some linked := by
    decide +kernel
  obtain ⟨inFlight, _, explained⟩ :=
    flag_records_how_page_was_reached built operations
  obtain ⟨earlier, put, place, raised, _⟩ := explained 1 returned facts.2.1
  obtain ⟨before, last, placed, notRaised, lowered⟩ :=
    explained 3 linked facts.2.2
  refine ⟨⟨built, facts⟩, inFlight facts.1,
    ⟨earlier, put, place, raised.mp rfl⟩,
    ⟨before, last, placed, ?_, lowered.mp rfl⟩⟩
  intro byTraversal
  cases notRaised.mpr byTraversal

end Cache

end NavState
