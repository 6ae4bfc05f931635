import NavState.Proofs.Accounts
import NavState.Proofs.Touches

namespace NavState

/-!
# The window of remembered attempts

A cache remembers the attempts that it accepted last, as many as its limit
allows, and ignores a call that announces one of them.  An ignored call moves
nothing in the window, so an attempt is forgotten after a fixed number of other
attempts were accepted, however often it was announced meanwhile.

A conversation is the same without its ignored calls, but for the number of
duplicates that is counted.
-/

/-! ## Accepted and ignored calls -/

namespace Call

variable {ι κ ν : Type} [DecidableEq ι] [DecidableEq κ]

/-- The attempt that the call accepts. -/
def accepted? (call : Call ι κ ν) : Option UInt64 :=
  if call.accepts then
    call.operation.attempt?
  else
    none

/-- Whether the call announces an attempt that is ignored. -/
def ignored (call : Call ι κ ν) : Bool :=
  call.operation.attempt?.isSome && !call.accepts

/-- What an ignored call comes to. -/
def Ignores (attempt : UInt64) (call : Call ι κ ν) : Prop :=
  call.turn =
    { result := .announced none
      cache := call.found
      reports := [.note (.ignored attempt), .count .duplicate]
      departures := [] }

end Call

section Window

variable {ι κ ν : Type} [DecidableEq ι] [DecidableEq κ]

/-- The attempts that were accepted, in order. -/
def acceptedAttempts (calls : List (Call ι κ ν)) : List UInt64 :=
  calls.filterMap Call.accepted?

/-- The attempts that were accepted last. -/
def window (calls : List (Call ι κ ν)) : List UInt64 :=
  (acceptedAttempts calls).rtake Cache.handledLimit

omit [DecidableEq κ] in
/-- The turn of an announcement that is ignored. -/
theorem Cache.announce_eq_of_mem
    {attempt : UInt64}
    {cache : Cache ι κ ν}
    (remembered : attempt ∈ cache.handled)
    (observed : ι) :
    cache.announce attempt observed =
      { result := none
        cache := cache
        reports := [.note (.ignored attempt), .count .duplicate]
        departures := [] } := by
  simp [announce, remember?, remembered]

/-- An announcement is accepted exactly if its attempt is not remembered. -/
theorem Call.accepts_iff_of_announce
    {call : Call ι κ ν}
    {attempt : UInt64}
    {observed : ι}
    (announces : call.operation = .announce attempt observed) :
    call.accepts = true ↔ attempt ∉ call.found.handled := by
  obtain ⟨operation, cache⟩ := call
  cases announces
  by_cases remembered : attempt ∈ cache.handled
  · have nothing := (Cache.announce_of_mem remembered observed).1
    simp [accepts, turn, Cache.perform, Turn.answering, nothing,
      Answer.generation?, remembered]
  · have next := (Cache.announce_of_not_mem remembered observed).1
    simp [accepts, turn, Cache.perform, Turn.answering, next,
      Answer.generation?, remembered]

/-- An ignored call announces an attempt that is remembered, and does nothing. -/
theorem Call.exists_of_ignored
    {call : Call ι κ ν}
    (ignored : call.ignored = true) :
    ∃ attempt observed,
      call.operation = .announce attempt observed ∧
        attempt ∈ call.found.handled ∧
        call.Ignores attempt := by
  obtain ⟨announces, notAccepted⟩ := Bool.and_eq_true_iff.mp ignored
  cases shape : call.operation with
  | announce attempt observed =>
      have remembered : attempt ∈ call.found.handled := by
        by_contra unknown
        rw [(accepts_iff_of_announce shape).mpr unknown] at notAccepted
        cases notAccepted
      refine ⟨attempt, observed, rfl, remembered, ?_⟩
      rw [Ignores, turn, shape, Cache.perform,
        Cache.announce_eq_of_mem remembered]
      rfl
  | access _ | settle _ _ _ | clear _ =>
      rw [shape] at announces
      cases announces

/-- What is remembered after a call is in the window with what it accepts. -/
theorem Call.handled_turn
    (call : Call ι κ ν)
    (within : call.found.handled.length ≤ Cache.handledLimit) :
    call.turn.cache.handled =
        (call.found.handled ++ call.accepted?.toList).rtake
          Cache.handledLimit ∧
      ∀ attempt ∈ call.accepted?, attempt ∉ call.found.handled := by
  have keeps
      (nothing : call.turn.result.generation? = none)
      (same : call.turn.cache.handled = call.found.handled) :
      call.turn.cache.handled =
          (call.found.handled ++ call.accepted?.toList).rtake
            Cache.handledLimit ∧
        ∀ attempt ∈ call.accepted?, attempt ∉ call.found.handled := by
    have notAccepted : call.accepted? = none := by
      simp [accepted?, accepts, nothing]
    rw [notAccepted, Option.toList_none, List.append_nil,
      rtake_of_length_le within]
    exact ⟨same, by simp⟩
  cases Cache.effect_perform call.operation call.found with
  | accepts attempt observed announces unknown next made =>
      change call.turn.cache = _ at made
      change call.turn.result.generation? = _ at next
      have accepted : call.accepted? = some attempt := by
        rw [accepted?, accepts, next, announces]
        rfl
      rw [accepted, made]
      refine ⟨rfl, ?_⟩
      rintro _ ⟨⟩
      exact unknown
  | edits _ _ _ _ nothing made | sets _ _ _ _ nothing made
  | deletes _ _ _ nothing made | commits _ _ _ _ nothing made
  | drops _ _ _ _ _ _ nothing made | clears _ _ nothing made =>
      change call.turn.cache = _ at made
      exact keeps nothing (by rw [made])
  | reads _ _ _ _ nothing same | ignores _ _ _ _ nothing same
  | comesLate _ _ _ _ _ nothing same =>
      change call.turn.cache = _ at same
      exact keeps nothing (by rw [same])

/-! ## The window of a run -/

theorem window_concat
    (calls : List (Call ι κ ν))
    (call : Call ι κ ν) :
    window (calls ++ [call]) =
      (window calls ++ call.accepted?.toList).rtake Cache.handledLimit := by
  rw [window, window, rtake_rtake_append, acceptedAttempts, acceptedAttempts,
    List.filterMap_append]
  cases accepted : call.accepted? <;> simp [accepted]

/-- What is remembered is what was accepted last, and nothing twice. -/
structure Windowed (calls : List (Call ι κ ν)) (cache : Cache ι κ ν) : Prop where
  handled : cache.handled = window calls
  distinct : (window calls).Nodup

/-- One more call moves the window by what it accepts. -/
theorem Windowed.concat
    {calls : List (Call ι κ ν)}
    {call : Call ι κ ν}
    (windowed : Windowed calls call.found) :
    Windowed (calls ++ [call]) call.turn.cache := by
  have within : call.found.handled.length ≤ Cache.handledLimit := by
    rw [windowed.handled, window, List.rtake, List.length_drop]
    omega
  obtain ⟨handled, unknown⟩ := call.handled_turn within
  rw [windowed.handled] at handled unknown
  refine ⟨?_, ?_⟩
  · rw [handled, window_concat]
  · rw [window_concat]
    apply List.Nodup.sublist (List.drop_sublist _ _)
    refine windowed.distinct.append ?_ ?_
    · cases call.accepted? <;> simp
    · intro attempt remembered accepted
      exact unknown attempt (Option.mem_toList.mp accepted) remembered

/-- After every run the window holds what is remembered. -/
theorem windowed_after
    {fresh : Cache ι κ ν}
    (unused : fresh.handled = [])
    (operations : List (Operation ι κ ν)) :
    Windowed (fresh.calls operations) (fresh.after operations) := by
  induction operations using List.reverseRecOn with
  | nil =>
      exact ⟨unused, List.nodup_nil⟩
  | append_singleton operations operation inductionHypothesis =>
      rw [Cache.calls_concat, Cache.after_concat]
      exact inductionHypothesis.concat

/-- The calls of a conversation are those of a run. -/
theorem Conversation.Sound.calls_eq
    {fresh : Cache ι κ ν}
    {conversation : Conversation ι κ ν}
    (sound : conversation.Sound fresh)
    {earlier later : List (Call ι κ ν)}
    (shape : conversation.calls = earlier ++ later) :
    earlier = fresh.calls (earlier.map Call.operation) := by
  induction earlier using List.reverseRecOn generalizing later with
  | nil =>
      rfl
  | append_singleton front call inductionHypothesis =>
      rw [List.append_assoc] at shape
      rw [List.map_append, List.map_singleton, Cache.calls_concat,
        ← inductionHypothesis shape, ← sound.found front call later shape]

/-- Every call of a conversation finds what was accepted last before it. -/
theorem Conversation.Sound.windowed
    {fresh : Cache ι κ ν}
    {conversation : Conversation ι κ ν}
    (sound : conversation.Sound fresh)
    (unused : fresh.handled = [])
    {earlier later : List (Call ι κ ν)}
    (shape : conversation.calls = earlier ++ later) :
    Windowed earlier (fresh.after (earlier.map Call.operation)) := by
  have windowed := windowed_after unused (earlier.map Call.operation)
  rwa [← sound.calls_eq shape] at windowed

end Window

/-! ## Conversations without their ignored calls -/

namespace Audit

variable {ι κ ν : Type} [DecidableEq ι] [DecidableEq κ]

/--
The moments of a conversation without the ignored calls and their returns.  The
flags tell for each open call, the innermost first, if it was heeded.
-/
def heededMoments
    (flags : List Bool)
    (cache : Cache ι κ ν)
    (moments : List (Moment ι κ ν)) :
    List (Moment ι κ ν) :=
  match moments with
  | [] => []
  | .calls operation :: rest =>
      let call : Call ι κ ν := ⟨operation, cache⟩
      if call.ignored then
        heededMoments (false :: flags) call.turn.cache rest
      else
        .calls operation :: heededMoments (true :: flags) call.turn.cache rest
  | .announces :: rest => .announces :: heededMoments flags cache rest
  | .returns :: rest =>
      match flags with
      | false :: outer => heededMoments outer cache rest
      | _ => .returns :: heededMoments flags.tail cache rest

/-- What the heeded ones among the open calls have yet to announce. -/
inductive Spared {α : Type} :
    List Bool → List (List α) → List (List α) → Prop where
  | nil : Spared [] [] []
  | heeded
      {flags : List Bool}
      {due spared : List (List α)}
      (announced : List α)
      (outer : Spared flags due spared) :
      Spared (true :: flags) (announced :: due) (announced :: spared)
  | ignored
      {flags : List Bool}
      {due spared : List (List α)}
      (outer : Spared flags due spared) :
      Spared (false :: flags) ([] :: due) spared

theorem Spared.flatten
    {α : Type}
    {flags : List Bool}
    {due spared : List (List α)}
    (spares : Spared flags due spared) :
    spared.flatten = due.flatten := by
  induction spares with
  | nil =>
      rfl
  | heeded announced _ inductionHypothesis =>
      rw [List.flatten_cons, List.flatten_cons, inductionHypothesis]
  | ignored _ inductionHypothesis =>
      exact inductionHypothesis

/-- The other audit lacks the ignored calls, and all that they leave behind. -/
structure Heeds
    (flags : List Bool)
    (audit spared : Audit ι κ ν) :
    Prop where
  cache : spared.conversation.cache = audit.conversation.cache
  calls :
    spared.conversation.calls =
      audit.conversation.calls.filter fun call => !call.ignored
  due : Spared flags audit.conversation.due spared.conversation.due
  announced : spared.conversation.announced = audit.conversation.announced
  waiting : spared.waiting = audit.waiting
  pages : spared.ledger.pages = audit.ledger.pages
  counts :
    ∀ tally,
      audit.ledger.count tally =
        spared.ledger.count tally +
          if tally = .duplicate then
            audit.conversation.calls.countP Call.ignored
          else
            0

/-- An ignored call leaves nothing behind but one more duplicate. -/
theorem Heeds.ignored
    {flags : List Bool}
    {audit spared : Audit ι κ ν}
    (heeds : Heeds flags audit spared)
    {operation : Operation ι κ ν}
    (ignored : (audit.conversation.nextCall operation).ignored = true)
    {waiting : List Nat}
    (released : operation.release? audit.waiting = some waiting) :
    Heeds (false :: flags) (audit.call operation waiting) spared := by
  obtain ⟨attempt, observed, announces, _, nothing⟩ :=
    Call.exists_of_ignored ignored
  have same : waiting = audit.waiting := by
    change operation = _ at announces
    rw [announces] at released
    exact (Option.some.inj released).symm
  rw [Call.Ignores] at nothing
  refine ⟨?_, ?_, ?_, heeds.announced, ?_, ?_, ?_⟩
  · simp only [call, Conversation.call, nothing]
    exact heeds.cache
  · simp only [call, Conversation.call, List.filter_append, heeds.calls]
    simp [ignored]
  · simp only [call, Conversation.call, nothing, List.map_nil]
    exact .ignored heeds.due
  · simp only [call, nothing]
    rw [same, heeds.waiting]
    exact (List.append_nil _).symm
  · simp only [call, nothing]
    exact heeds.pages
  · intro tally
    have before := heeds.counts tally
    simp only [call, nothing, Ledger.count_enter, Conversation.call,
      List.countP_append, List.countP_singleton, ignored]
    rw [before]
    by_cases isDuplicate : tally = .duplicate
    · simp [isDuplicate, Report.counts]
      omega
    · simp [isDuplicate, Report.counts, Ne.symm isDuplicate]

omit [DecidableEq ι] [DecidableEq κ] in
/-- What is published last depends on the reports, and on nothing counted. -/
theorem pages_enter_congr
    (reports : List (Report ι))
    {ledger other : Ledger}
    (same : other.pages = ledger.pages) :
    (other.enter reports).pages = (ledger.enter reports).pages := by
  induction reports generalizing ledger other with
  | nil =>
      exact same
  | cons report rest inductionHypothesis =>
      rw [Ledger.enter_cons, Ledger.enter_cons]
      apply inductionHypothesis
      cases report with
      | size pages =>
          rfl
      | count tally | note note =>
          exact same

/-- A call that is heeded is so in both. -/
theorem Heeds.heeded
    {flags : List Bool}
    {audit spared : Audit ι κ ν}
    (heeds : Heeds flags audit spared)
    {operation : Operation ι κ ν}
    (isHeeded : (audit.conversation.nextCall operation).ignored = false)
    (waiting : List Nat) :
    Heeds (true :: flags) (audit.call operation waiting)
      (spared.call operation waiting) := by
  have same :
      spared.conversation.nextCall operation =
        audit.conversation.nextCall operation := by
    rw [Conversation.nextCall, heeds.cache]
    rfl
  refine ⟨?_, ?_, ?_, heeds.announced, ?_, ?_, ?_⟩
  · simp only [call, Conversation.call, same]
  · simp only [call, Conversation.call, List.filter_append, heeds.calls, same]
    simp [isHeeded]
  · simp only [call, Conversation.call, same]
    exact .heeded _ heeds.due
  · simp only [call, same]
  · simp only [call, same]
    exact pages_enter_congr _ heeds.pages
  · intro tally
    have before := heeds.counts tally
    simp only [call, same, Ledger.count_enter, Conversation.call,
      List.countP_append, List.countP_singleton, isHeeded]
    rw [before]
    simp
    omega

/-- An announcement is that of a call that is heeded. -/
theorem Heeds.announces
    {flags : List Bool}
    {audit spared : Audit ι κ ν}
    (heeds : Heeds flags audit spared)
    {next : Audit ι κ ν}
    (stepped : audit.step? .announces = some next) :
    next.conversation.cache = audit.conversation.cache ∧
      ∃ sparedNext,
        spared.step? .announces = some sparedNext ∧
          Heeds flags next sparedNext := by
  obtain ⟨reached, announced, rfl⟩ := Option.map_eq_some_iff.mp stepped
  obtain ⟨notice, later, outer, due, rfl⟩ := eq_of_announces announced
  obtain ⟨⟨cache, calls, sparedDue, sparedAnnounced⟩, ledger, waiting⟩ := spared
  have spares := heeds.due
  rw [due] at spares
  cases spares with
  | heeded _ spares =>
      have isHeard : audit.heard = audit.ledger.hear notice.departure := by
        simp only [Audit.heard, due]
      refine ⟨rfl, _, rfl, heeds.cache, heeds.calls, .heeded later spares, ?_,
        heeds.waiting, ?_, ?_⟩
      · exact congrArg (· ++ [notice]) heeds.announced
      · change (ledger.hear notice.departure).pages = audit.heard.pages
        rw [isHeard, pages_hear, pages_hear]
        exact heeds.pages
      · intro tally
        have before := heeds.counts tally
        change audit.heard.count tally = (ledger.hear notice.departure).count tally + _
        rw [isHeard, count_hear, count_hear, before]
        exact Nat.add_right_comm _ _ _

/-- A return is that of a call that is heeded, or nothing of the kind happens. -/
theorem Heeds.returns
    {flags : List Bool}
    {audit spared : Audit ι κ ν}
    (heeds : Heeds flags audit spared)
    {next : Audit ι κ ν}
    (stepped : audit.step? .returns = some next) :
    next.conversation.cache = audit.conversation.cache ∧
      ∃ flag outer,
        flags = flag :: outer ∧
          if flag = true then
            ∃ sparedNext,
              spared.step? .returns = some sparedNext ∧
                Heeds outer next sparedNext
          else
            Heeds outer next spared := by
  obtain ⟨reached, returned, rfl⟩ := Option.map_eq_some_iff.mp stepped
  obtain ⟨outer, due, rfl⟩ := eq_of_returns returned
  obtain ⟨⟨cache, calls, sparedDue, sparedAnnounced⟩, ledger, waiting⟩ := spared
  have spares := heeds.due
  rw [due] at spares
  cases spares with
  | heeded _ spares =>
      exact ⟨rfl, true, _, rfl, _, rfl, heeds.cache, heeds.calls, spares,
        heeds.announced, heeds.waiting, heeds.pages, heeds.counts⟩
  | ignored spares =>
      exact ⟨rfl, false, _, rfl, heeds.cache, heeds.calls, spares,
        heeds.announced, heeds.waiting, heeds.pages, heeds.counts⟩

/-- Whatever happens in a conversation does so without the ignored calls. -/
theorem Heeds.after?
    {flags : List Bool}
    {audit spared ended : Audit ι κ ν}
    (heeds : Heeds flags audit spared)
    {moments : List (Moment ι κ ν)}
    (happened : audit.after? moments = some ended) :
    ∃ flagsEnded sparedEnded,
      spared.after? (heededMoments flags audit.conversation.cache moments) =
          some sparedEnded ∧
        Heeds flagsEnded ended sparedEnded := by
  induction moments generalizing flags audit spared with
  | nil =>
      cases happened
      exact ⟨flags, spared, rfl, heeds⟩
  | cons moment rest inductionHypothesis =>
      obtain ⟨next, stepped, continued⟩ := Option.bind_eq_some_iff.mp happened
      cases moment with
      | calls operation =>
          obtain ⟨waiting, released, rfl⟩ := Option.map_eq_some_iff.mp stepped
          cases isIgnored : (audit.conversation.nextCall operation).ignored with
          | true =>
              have later :=
                inductionHypothesis (heeds.ignored isIgnored released) continued
              rw [Conversation.nextCall] at isIgnored
              simp only [heededMoments, isIgnored, if_true]
              exact later
          | false =>
              have later :=
                inductionHypothesis (heeds.heeded isIgnored waiting) continued
              rw [Conversation.nextCall] at isIgnored
              rw [← heeds.waiting] at released
              simp only [heededMoments, isIgnored, Bool.false_eq_true, if_false,
                Audit.after?, step?, released, Option.map_some,
                Option.bind_some]
              exact later
      | announces =>
          obtain ⟨same, sparedNext, announced, heedsNext⟩ :=
            heeds.announces stepped
          have later := inductionHypothesis heedsNext continued
          rw [same] at later
          simpa only [heededMoments, Audit.after?, announced, Option.bind_some]
            using later
      | returns =>
          obtain ⟨same, flag, outer, rfl, returned⟩ := heeds.returns stepped
          cases flag with
          | true =>
              obtain ⟨sparedNext, returnedToo, heedsNext⟩ := returned
              have later := inductionHypothesis heedsNext continued
              rw [same] at later
              simpa only [heededMoments, Audit.after?, returnedToo,
                List.tail_cons, Option.bind_some] using later
          | false =>
              have later := inductionHypothesis returned continued
              rw [same] at later
              exact later

end Audit

end NavState
