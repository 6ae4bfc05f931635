import NavState.Proofs.Handouts
import NavState.Proofs.Sessions
import NavState.Proofs.Window

namespace NavState

/-!
# Announcing an attempt again

An attempt that is announced again within the window is ignored: the duplicate
is counted and noted, and nothing is called back or registered.  Behind the
window it is taken for a new one.
-/

namespace Session

/-! ## Ignored announcements of a session -/

/-- All that an ignored announcement leaves behind. -/
def World.noteDuplicate
    (cell : Cell)
    (id : UInt64)
    (world : World) :
    World :=
  (world.trace (.noted (.ignored id))).change (cell.meters.tally .duplicate)
    (.increase 1)

/-- A cell that gets the cache that it has stays as it is. -/
theorem World.putCache_self
    {index : Nat}
    {cell : Cell}
    {world : World}
    (found : world.cells[index]? = some cell) :
    world.putCache index cell.cache = world := by
  have same :
      (world.cells.modify index fun other =>
        { other with cache := cell.cache }) = world.cells := by
    apply List.ext_getElem?
    intro other
    rw [List.getElem?_modify]
    split
    · next isOwn =>
        subst isOwn
        rw [found]
        rfl
    · exact id_map _
  rw [putCache, same]

/-- An announcement of a remembered id is noted as a duplicate. -/
theorem World.accept_of_mem
    {index : Nat}
    {cell : Cell}
    {world : World}
    (found : world.cells[index]? = some cell)
    {id : UInt64}
    (remembered : id ∈ cell.cache.handled)
    (client : Client)
    (attempt : Option Nat) :
    world.accept client index cell attempt id =
      (none, world.noteDuplicate cell id) := by
  rw [accept, Cache.announce_eq_of_mem remembered]
  simp only [noteAccepted, takeTurn, enact, deliver, putCache_self found]
  rfl

theorem World.announceAttempt_of_mem
    {index : Nat}
    {cell : Cell}
    {world : World}
    (found : world.cells[index]? = some cell)
    {id : UInt64}
    (remembered : id ∈ cell.cache.handled)
    (client : Client)
    (attempt : Nat) :
    world.announceAttempt client index cell attempt id =
      world.noteDuplicate cell id := by
  rw [announceAttempt, accept_of_mem found remembered]

theorem World.announceHosted_of_mem
    {index : Nat}
    {cell : Cell}
    {world : World}
    (found : world.cells[index]? = some cell)
    {id : UInt64}
    (remembered : id ∈ cell.cache.handled)
    (client : Client)
    (outcome : Option Outcome)
    (script : Script) :
    world.announceHosted client index cell id outcome script =
      world.noteDuplicate cell id := by
  rw [announceHosted, accept_of_mem found remembered]

/-! ## Attempts that a session begins -/

theorem performTop_beginAttempt (depth : Nat) (world : World) :
    (performTop depth .beginAttempt world).2 =
      { world with
        sequencer := world.sequencer + 1
        slots :=
          world.slots ++ [⟨Attempt.start world.sequencer, some {}⟩] } :=
  rfl

/-- What begins one after the other has the numbers of the sequencer. -/
theorem ids_worldAfter_beginAttempt
    (depth count : Nat)
    (world : World) :
    (worldAfter depth (List.replicate count .beginAttempt) world).slots.map
        (fun slot => slot.attempt.id) =
      world.slots.map (fun slot => slot.attempt.id) ++
        handouts world.sequencer count := by
  induction count generalizing world with
  | zero =>
      exact (List.append_nil _).symm
  | succ count inductionHypothesis =>
      rw [List.replicate_succ, worldAfter, List.foldl_cons, ← worldAfter,
        inductionHypothesis, performTop_beginAttempt]
      simp [handouts, Attempt.start]

end Session

namespace Audit

variable {ι κ ν : Type} [DecidableEq ι] [DecidableEq κ]

/--
Attempts are heeded once within the window.  At every moment of a conversation
the remembered attempts are the 64 that were accepted last, oldest first and each
of them once, and a call that announces an attempt is accepted exactly if it is
not among those accepted last before it.  An ignored call does nothing but count
and note a duplicate.  So the same happens in the conversation without the ignored
calls: every other call finds the same cache and comes to the same, the same is
announced, the same settlements may still run, and the same is counted except for
the duplicates.

In a session an ignored announcement leaves nothing but its note and its duplicate
behind, so no callback is registered with the attempt, and none runs.

When all attempts get their ids from one sequencer, of which fewer numbers were
handed out than there are, and no other ids are announced, then the first hook of
each attempt is accepted.
-/
theorem attempts_are_heeded_once_within_window
    {capacity : Nat}
    {page : ι}
    {fresh : Cache ι κ ν}
    (built : Cache.empty? capacity page = some fresh)
    {moments : List (Moment ι κ ν)}
    {audit : Audit ι κ ν}
    (happened : (start fresh).after? moments = some audit) :
    let calls := audit.conversation.calls
    (audit.conversation.cache.handled = window calls ∧
      window calls = (acceptedAttempts calls).rtake 64 ∧
      (window calls).Nodup) ∧
    (∀ earlier call later attempt observed,
      calls = earlier ++ call :: later →
      call.operation = .announce attempt observed →
      (call.accepts = true ↔ attempt ∉ window earlier) ∧
        (call.accepts = false → call.Ignores attempt)) ∧
    (∃ spared,
      (start fresh).after? (heededMoments [] fresh moments) = some spared ∧
        spared.conversation.cache = audit.conversation.cache ∧
        spared.conversation.calls = calls.filter (fun call => !call.ignored) ∧
        spared.conversation.announced = audit.conversation.announced ∧
        spared.conversation.due.flatten = audit.conversation.due.flatten ∧
        spared.waiting = audit.waiting ∧
        spared.ledger.pages = audit.ledger.pages ∧
        ∀ tally,
          audit.ledger.count tally =
            spared.ledger.count tally +
              if tally = .duplicate then calls.countP Call.ignored else 0) ∧
    (∀ (client : Session.Client)
        (index : Nat)
        (cell : Session.Cell)
        (id : UInt64)
        (world : Session.World),
      world.cells[index]? = some cell →
      id ∈ cell.cache.handled →
      (∀ attempt,
        world.announceAttempt client index cell attempt id =
          world.noteDuplicate cell id) ∧
        ∀ outcome script,
          world.announceHosted client index cell id outcome script =
            world.noteDuplicate cell id) ∧
    (∀ (events : List (Interplay.Event ι κ ν))
        (state : Interplay ι κ ν)
        (count : Nat),
      ({} : Interplay ι κ ν).after? events = some state →
      (∀ event ∈ events, event.announcesForeign = false) →
      count < UInt64.size →
      Interplay.openings events = handouts 1 count →
      ∀ index attempt cache target,
        state.caches[index]? = some cache →
        state.attempts[attempt]? = some target →
        (∀ observed, .hooks index attempt observed ∉ events) →
        ∀ observed,
          (cache.announce target.id observed).result =
            some (cache.generation + 1)) ∧
    ∀ (depth : Nat) (world : Session.World) (count : Nat),
      (Session.worldAfter depth (List.replicate count .beginAttempt) world).slots.map
          (fun slot => slot.attempt.id) =
        world.slots.map (fun slot => slot.attempt.id) ++
          handouts world.sequencer count := by
  intro calls
  obtain ⟨unused, _, _⟩ := Cache.handled_of_empty? built
  have sound := (sound_of_after? built happened).conversation
  refine ⟨?_, ?_, ?_, ?_, ?_, ?_⟩
  · have windowed := sound.windowed unused (List.append_nil calls).symm
    rw [← sound.run] at windowed
    exact ⟨windowed.handled, rfl, windowed.distinct⟩
  · intro earlier call later attempt observed shape announces
    have windowed := sound.windowed unused shape
    rw [← sound.found earlier call later shape] at windowed
    refine ⟨?_, ?_⟩
    · rw [Call.accepts_iff_of_announce announces, windowed.handled]
    · intro notAccepted
      have ignored : call.ignored = true := by
        rw [Call.ignored, announces, notAccepted]
        rfl
      obtain ⟨_, _, same, _, nothing⟩ := Call.exists_of_ignored ignored
      cases announces.symm.trans same
      exact nothing
  · have heeds : Heeds [] (start fresh) (start fresh) :=
      ⟨rfl, rfl, .nil, rfl, rfl, rfl, by simp [start, Conversation.start]⟩
    obtain ⟨_, spared, happenedToo, later⟩ := heeds.after? happened
    exact ⟨spared, happenedToo, later.cache, later.calls, later.announced,
      later.due.flatten, later.waiting, later.pages, later.counts⟩
  · intro client index cell id world found remembered
    exact ⟨Session.World.announceAttempt_of_mem found remembered client,
      Session.World.announceHosted_of_mem found remembered client⟩
  · intro events state count reached own within handedOut index attempt cache
      target found foundTarget first observed
    exact Interplay.accepted_of_handouts reached own within handedOut found
      foundTarget first observed
  · intro depth world count
    exact Session.ids_worldAfter_beginAttempt depth count world

/--
An attempt is announced, announced again, and announced a third time after 64
others.  The second call is ignored, and the third one is accepted: the call in
between did not keep the attempt in the window.
-/
theorem attempts_are_heeded_once_within_window_of_forgotten :
    let fresh : Cache Nat Nat Nat := ⟨⟨[], 1, by decide⟩, 1, none, 0, []⟩
    let moments : List (Moment Nat Nat Nat) :=
      [.calls (.announce 1 1), .returns, .calls (.announce 1 1), .returns] ++
        ((List.range 64).flatMap fun step =>
          [.calls (.announce (UInt64.ofNat (step + 2)) 1)]) ++
        [.calls (.announce 1 1)]
    let events : List (Interplay.Event Nat Nat Nat) :=
      [.builds 1 1, .opens 1, .opens 2, .hooks 0 1 1, .proceeds 1]
    (∃ audit,
      (Cache.empty? 1 1 = some fresh ∧
        (start fresh).after? moments = some audit) ∧
      ∃ first second between third,
        (audit.conversation.calls = first :: second :: (between ++ [third]) ∧
          second.operation = .announce 1 1 ∧
          third.operation = .announce 1 1 ∧
          1 ∈ window [first] ∧
          1 ∉ window (first :: second :: between)) ∧
        second.Ignores 1 ∧
        third.accepts = true) ∧
    ∃ state cache target,
      (({} : Interplay Nat Nat Nat).after? events = some state ∧
        Interplay.openings events = handouts 1 2 ∧
        state.caches[0]? = some cache ∧
        cache.handled = [2] ∧
        state.attempts[0]? = some target) ∧
      (cache.announce target.id 1).result = some (cache.generation + 1) := by
  intro fresh moments events
  have built : Cache.empty? 1 1 = some fresh := rfl
  have computed :
      ((start fresh).after? moments).any (fun audit =>
        let calls := audit.conversation.calls
        2 < calls.length ∧
          (calls.drop 1).head?.map Call.operation = some (.announce 1 1) ∧
          (calls.drop 2).getLast?.map Call.operation = some (.announce 1 1) ∧
          1 ∈ window (calls.take 1) ∧
          1 ∉ window (calls.take 2 ++ (calls.drop 2).dropLast)) = true := by
    decide +kernel
  obtain ⟨audit, happened, told⟩ := (Option.any_eq_true _ _).mp computed
  obtain ⟨long, isSecond, isLast, remembered, forgotten⟩ := of_decide_eq_true told
  obtain ⟨first, others, shape⟩ :=
    List.exists_cons_of_length_pos (Nat.zero_lt_of_lt long)
  obtain ⟨second, rest, rfl⟩ : ∃ second rest, others = second :: rest := by
    rw [shape, List.length_cons] at long
    exact List.exists_cons_of_length_pos (by omega)
  rw [shape] at isSecond isLast remembered forgotten
  have again : second.operation = .announce 1 1 := by simpa using isSecond
  obtain ⟨third, last, onceMore⟩ := Option.map_eq_some_iff.mp isLast
  have parts : rest.dropLast ++ [third] = rest :=
    List.dropLast_append_getLast? third last
  obtain ⟨_, law, _, _, sequenced, _⟩ :=
    attempts_are_heeded_once_within_window built happened
  obtain ⟨heeded, ignores⟩ :=
    law [first] second rest 1 1 shape again
  have notAccepted : second.accepts = false := by
    rw [← Bool.not_eq_true, heeded]
    exact not_not_intro remembered
  have accepted :=
    (law (first :: second :: rest.dropLast) third [] 1 1
      (by rw [shape, ← parts]; simp) onceMore).1.mpr forgotten
  refine ⟨⟨audit, ⟨built, happened⟩, first, second, rest.dropLast, third,
    ⟨by rw [parts, shape], again, onceMore, remembered, forgotten⟩,
    ignores notAccepted, accepted⟩, ?_⟩
  obtain ⟨state, reached, cache, found, handled, target, foundTarget⟩ :
      ∃ state : Interplay Nat Nat Nat,
        ({} : Interplay Nat Nat Nat).after? events = some state ∧
          ∃ cache,
            state.caches[0]? = some cache ∧
              cache.handled = [2] ∧
              ∃ target, state.attempts[0]? = some target :=
    ⟨_, rfl, _, rfl, rfl, _, rfl⟩
  have handedOut : Interplay.openings events = handouts 1 2 := rfl
  refine ⟨state, cache, target,
    ⟨reached, handedOut, found, handled, foundTarget⟩, ?_⟩
  have own : ∀ event ∈ events, event.announcesForeign = false := by
    simp [events, Interplay.Event.announcesForeign]
  have first : ∀ observed, .hooks 0 0 observed ∉ events := by
    simp [events]
  exact sequenced events state 2 reached own (by decide) handedOut 0 0 cache
    target found foundTarget first 1

end Audit

end NavState
