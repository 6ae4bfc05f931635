import NavState.Proofs.Conversations
import NavState.Proofs.Reports

namespace NavState

/-!
# Accounts of a cache

An audit follows a conversation with a cache and keeps the ledger of what it
reports.  The reports of a call are filed in its turn, before anything is
announced; evictions are counted one by one as they are announced.  Whoever is
called back meanwhile finds the ledger in balance with the cache.

Each generation that is handed out may be settled once.
-/

/-- A conversation with a cache, and the accounts of it. -/
structure Audit (ι κ ν : Type) where
  conversation : Conversation ι κ ν
  ledger : Ledger := {}
  /-- The generations whose settlement may still run. -/
  waiting : List Nat := []

/-- Count a departure that is announced, if it is an eviction. -/
def Ledger.hear
    {ι : Type}
    (departure : Departure ι)
    (ledger : Ledger) :
    Ledger :=
  if departure.evicts then
    ledger.increase .evict
  else
    ledger

namespace Audit

variable {ι κ ν : Type}

/-- The accounts of a new conversation are empty. -/
def start (cache : Cache ι κ ν) : Audit ι κ ν where
  conversation := .start cache

/-- The ledger once the announcement that is due next was heard. -/
def heard (audit : Audit ι κ ν) : Ledger :=
  match audit.conversation.due with
  | (notice :: _) :: _ => audit.ledger.hear notice.departure
  | _ => audit.ledger

variable [DecidableEq ι] [DecidableEq κ]

/-- File what a call reports, and let the generation it hands out be settled. -/
def call
    (operation : Operation ι κ ν)
    (audit : Audit ι κ ν)
    (waiting : List Nat) :
    Audit ι κ ν :=
  let turn := (audit.conversation.nextCall operation).turn
  { conversation := audit.conversation.call operation
    ledger := audit.ledger.enter turn.reports
    waiting := waiting ++ turn.result.generation?.toList }

/-- What comes of a moment, if the conversation allows for it. -/
def step?
    (moment : Moment ι κ ν)
    (audit : Audit ι κ ν) :
    Option (Audit ι κ ν) :=
  match moment with
  | .calls operation =>
      (operation.release? audit.waiting).map (audit.call operation)
  | .announces =>
      (audit.conversation.step? .announces).map fun next =>
        { audit with conversation := next, ledger := audit.heard }
  | .returns =>
      (audit.conversation.step? .returns).map fun next =>
        { audit with conversation := next }

/-- What comes of some moments, if the conversation allows for them. -/
def after?
    (moments : List (Moment ι κ ν))
    (audit : Audit ι κ ν) :
    Option (Audit ι κ ν) :=
  match moments with
  | [] => some audit
  | moment :: rest => (audit.step? moment).bind fun next => next.after? rest

theorem after?_append
    (earlier later : List (Moment ι κ ν))
    (audit : Audit ι κ ν) :
    audit.after? (earlier ++ later) =
      (audit.after? earlier).bind fun next => next.after? later := by
  induction earlier generalizing audit with
  | nil =>
      rfl
  | cons moment rest inductionHypothesis =>
      simp only [List.cons_append, after?, inductionHypothesis,
        Option.bind_assoc]

/-- An audit goes on to become another one. -/
def Leads (before ended : Audit ι κ ν) : Prop :=
  ∃ moments, before.after? moments = some ended

theorem Leads.refl (audit : Audit ι κ ν) : audit.Leads audit :=
  ⟨[], rfl⟩

theorem Leads.trans
    {before between ended : Audit ι κ ν}
    (first : before.Leads between)
    (second : between.Leads ended) :
    before.Leads ended := by
  obtain ⟨earlier, reached⟩ := first
  obtain ⟨later, continued⟩ := second
  refine ⟨earlier ++ later, ?_⟩
  rw [after?_append, reached]
  exact continued

theorem Leads.of_step?
    {before ended : Audit ι κ ν}
    {moment : Moment ι κ ν}
    (stepped : before.step? moment = some ended) :
    before.Leads ended := by
  refine ⟨[moment], ?_⟩
  rw [after?, stepped]
  rfl

/-! ## What every moment keeps -/

/-- The accounts are in balance with the cache. -/
structure Sound (fresh : Cache ι κ ν) (audit : Audit ι κ ν) : Prop where
  conversation : audit.conversation.Sound fresh
  counts :
    ∀ tally,
      tally ≠ .evict →
      audit.ledger.count tally =
        (audit.conversation.calls.flatMap fun call =>
          call.turn.reports).countP (Report.counts tally)
  evictions :
    audit.ledger.count .evict +
        audit.conversation.due.flatten.countP
          (fun notice => notice.departure.evicts) =
      (audit.conversation.calls.flatMap Call.evicted).length
  flights :
    audit.ledger.count .transition =
      audit.ledger.count .commit + audit.ledger.count .discard +
        audit.conversation.cache.isTransitioning.toNat
  pages : audit.ledger.pages = audit.conversation.cache.table.size
  distinct : audit.waiting.Nodup
  handedOut :
    ∀ generation ∈ audit.waiting,
      generation ≤ audit.conversation.cache.generation
  late :
    audit.ledger.count .stale + audit.conversation.cache.overdue audit.waiting ≤
      audit.ledger.count .discard

theorem sound_start
    {capacity : Nat}
    {page : ι}
    {fresh : Cache ι κ ν}
    (built : Cache.empty? capacity page = some fresh) :
    (start fresh).Sound fresh := by
  have begun := Conversation.sound_start built
  obtain ⟨table, made, rfl⟩ := Option.map_eq_some_iff.mp built
  have noPages := (Table.sound_of_empty? made).2.1
  exact {
    conversation := begun
    counts := fun _ _ => rfl
    evictions := rfl
    flights := rfl
    pages := by
      rw [← Table.length_pages]
      simp [start, Conversation.start, noPages]
    distinct := List.nodup_nil
    handedOut := by simp [start]
    late := Nat.le_refl 0
  }

/-! ### Calls -/

/-- What may be settled later is what might be before, and the new generation. -/
theorem waiting_of_release?
    {operation : Operation ι κ ν}
    {cache : Cache ι κ ν}
    {waiting rest : List Nat}
    (distinct : waiting.Nodup)
    (handedOut : ∀ generation ∈ waiting, generation ≤ cache.generation)
    (released : operation.release? waiting = some rest) :
    (rest ++ (cache.perform operation).result.generation?.toList).Nodup ∧
      ∀ generation ∈
          rest ++ (cache.perform operation).result.generation?.toList,
        generation ≤ (cache.perform operation).cache.generation := by
  have kept : rest.Sublist waiting := operation.sublist_of_release? released
  have before : ∀ generation ∈ rest, generation ≤ cache.generation :=
    fun generation member => handedOut generation (kept.subset member)
  rcases Cache.generation_perform operation cache with
    ⟨nothing, same⟩ | ⟨next, newest⟩
  · rw [nothing, same, Option.toList_none, List.append_nil]
    exact ⟨kept.nodup distinct, before⟩
  · rw [next, newest, Option.toList_some]
    refine ⟨(kept.nodup distinct).append (List.nodup_singleton _) ?_, ?_⟩
    · rw [List.disjoint_singleton]
      exact fun member => absurd (before _ member) (Nat.not_succ_le_self _)
    · intro generation member
      rcases List.mem_append.mp member with earlier | isNew
      · exact (before generation earlier).trans (Nat.le_succ _)
      · exact (List.mem_singleton.mp isNew).le

/-- A call files what it does. -/
theorem Sound.call
    {fresh : Cache ι κ ν}
    {audit : Audit ι κ ν}
    (sound : audit.Sound fresh)
    (freshSound : fresh.Sound)
    {operation : Operation ι κ ν}
    {waiting : List Nat}
    (released : operation.release? audit.waiting = some waiting) :
    (audit.call operation waiting).Sound fresh := by
  let call := audit.conversation.nextCall operation
  let next := audit.call operation waiting
  have reported : call.Reported := by
    apply Call.reported_of_sound
    have run := sound.conversation.run
    simp only [call, Conversation.nextCall, run]
    exact freshSound.after _
  obtain ⟨distinct, handedOut⟩ :=
    waiting_of_release? sound.distinct sound.handedOut released
  have counted (tally : Tally) :
      next.ledger.count tally =
        audit.ledger.count tally + call.raises tally :=
    Ledger.count_enter tally call.turn.reports audit.ledger
  have called {ρ : Type} (reading : Call ι κ ν → List ρ) :
      next.conversation.calls.flatMap reading =
        audit.conversation.calls.flatMap reading ++ reading call := by
    simp only [next, Audit.call, Conversation.call, List.flatMap_append,
      List.flatMap_singleton, call]
  exact {
    conversation := sound.conversation.call freshSound operation
    counts := by
      intro tally other
      rw [counted, called, List.countP_append, sound.counts tally other]
      rfl
    evictions := by
      have before := sound.evictions
      obtain ⟨silent, left⟩ := reported.evictions
      have due :
          next.conversation.due.flatten.countP
              (fun notice => notice.departure.evicts) =
            call.turn.departures.countP Departure.evicts +
              audit.conversation.due.flatten.countP
                (fun notice => notice.departure.evicts) := by
        simp only [next, Audit.call, Conversation.call, List.flatten_cons,
          List.countP_append, List.countP_map]
        rfl
      rw [counted, called, List.length_append, due, silent, left, ← before]
      omega
    flights := by
      have before := sound.flights
      have turned := reported.flights
      have found : call.found = audit.conversation.cache := rfl
      have reached : next.conversation.cache = call.turn.cache := rfl
      rw [found] at turned
      rw [counted, counted, counted, reached]
      omega
    pages := reported.pages audit.ledger sound.pages
    distinct := distinct
    handedOut := handedOut
    late := by
      have before := sound.late
      have turned :
          call.raises .stale + next.conversation.cache.overdue next.waiting ≤
            audit.conversation.cache.overdue audit.waiting +
              call.raises .discard :=
        reported.late audit.waiting waiting sound.distinct sound.handedOut
          released
      change
        next.ledger.count .stale + next.conversation.cache.overdue next.waiting ≤
          next.ledger.count .discard
      rw [counted, counted]
      omega
  }

/-! ### Announcements -/

/-- What is announced was due in the innermost open call. -/
theorem eq_of_announces
    {conversation next : Conversation ι κ ν}
    (stepped : conversation.step? .announces = some next) :
    ∃ notice rest outer,
      conversation.due = (notice :: rest) :: outer ∧
        next =
          { conversation with
            due := rest :: outer
            announced := conversation.announced ++ [notice] } := by
  obtain ⟨cache, calls, due, announced⟩ := conversation
  match due, stepped with
  | (notice :: rest) :: outer, stepped =>
      cases stepped
      exact ⟨notice, rest, outer, rfl, rfl⟩

/-- A call that returns has nothing left to announce. -/
theorem eq_of_returns
    {conversation next : Conversation ι κ ν}
    (stepped : conversation.step? .returns = some next) :
    ∃ outer,
      conversation.due = [] :: outer ∧
        next = { conversation with due := outer } := by
  obtain ⟨cache, calls, due, announced⟩ := conversation
  match due, stepped with
  | [] :: outer, stepped =>
      cases stepped
      exact ⟨outer, rfl, rfl⟩

omit [DecidableEq ι] [DecidableEq κ] in
theorem count_hear
    (departure : Departure ι)
    (ledger : Ledger)
    (tally : Tally) :
    (ledger.hear departure).count tally =
      ledger.count tally +
        if tally = .evict then [departure].countP Departure.evicts else 0 := by
  by_cases evicts : departure.evicts = true <;>
    simp [Ledger.hear, evicts]

omit [DecidableEq ι] [DecidableEq κ] in
@[simp] theorem pages_hear (departure : Departure ι) (ledger : Ledger) :
    (ledger.hear departure).pages = ledger.pages := by
  rw [Ledger.hear]
  split <;> rfl

/-- What is announced was due, and is counted if it is an eviction. -/
theorem Sound.announces
    {fresh : Cache ι κ ν}
    {audit : Audit ι κ ν}
    (sound : audit.Sound fresh)
    (freshSound : fresh.Sound)
    {next : Conversation ι κ ν}
    (stepped : audit.conversation.step? .announces = some next) :
    { audit with conversation := next, ledger := audit.heard }.Sound fresh := by
  have conversation := sound.conversation.step? freshSound stepped
  obtain ⟨notice, rest, outer, due, rfl⟩ := eq_of_announces stepped
  have heard : audit.heard = audit.ledger.hear notice.departure := by
    simp only [Audit.heard, due]
  have unchanged {tally : Tally} (other : tally ≠ .evict) :
      audit.heard.count tally = audit.ledger.count tally := by
    rw [heard, count_hear, if_neg other, Nat.add_zero]
  exact {
    conversation := conversation
    counts := fun tally other =>
      (unchanged other).trans (sound.counts tally other)
    evictions := by
      have before := sound.evictions
      simp only [due, List.flatten_cons, List.cons_append,
        List.countP_cons] at before
      simp only [heard, count_hear, if_true, List.countP_singleton,
        List.flatten_cons]
      omega
    flights := by
      dsimp only
      rw [unchanged (by decide), unchanged (by decide), unchanged (by decide)]
      exact sound.flights
    pages := by
      dsimp only
      rw [heard, pages_hear]
      exact sound.pages
    distinct := sound.distinct
    handedOut := sound.handedOut
    late := by
      dsimp only
      rw [unchanged (by decide), unchanged (by decide)]
      exact sound.late
  }

/-! ### Whole conversations -/

theorem Sound.returns
    {fresh : Cache ι κ ν}
    {audit : Audit ι κ ν}
    (sound : audit.Sound fresh)
    (freshSound : fresh.Sound)
    {next : Conversation ι κ ν}
    (stepped : audit.conversation.step? .returns = some next) :
    { audit with conversation := next }.Sound fresh := by
  have conversation := sound.conversation.step? freshSound stepped
  obtain ⟨outer, due, rfl⟩ := eq_of_returns stepped
  have evictions := sound.evictions
  rw [due] at evictions
  exact { sound with conversation, evictions }

theorem Sound.step?
    {fresh : Cache ι κ ν}
    {audit next : Audit ι κ ν}
    (sound : audit.Sound fresh)
    (freshSound : fresh.Sound)
    {moment : Moment ι κ ν}
    (stepped : audit.step? moment = some next) :
    next.Sound fresh := by
  cases moment with
  | calls operation =>
      obtain ⟨waiting, released, rfl⟩ := Option.map_eq_some_iff.mp stepped
      exact sound.call freshSound released
  | announces =>
      obtain ⟨reached, announced, rfl⟩ := Option.map_eq_some_iff.mp stepped
      exact sound.announces freshSound announced
  | returns =>
      obtain ⟨reached, returned, rfl⟩ := Option.map_eq_some_iff.mp stepped
      exact sound.returns freshSound returned

/-- The accounts are in balance at every moment. -/
theorem Sound.after?
    {fresh : Cache ι κ ν}
    {audit ended : Audit ι κ ν}
    (sound : audit.Sound fresh)
    (freshSound : fresh.Sound)
    {moments : List (Moment ι κ ν)}
    (happened : audit.after? moments = some ended) :
    ended.Sound fresh := by
  induction moments generalizing audit with
  | nil =>
      cases happened
      exact sound
  | cons moment rest inductionHypothesis =>
      obtain ⟨next, stepped, continued⟩ := Option.bind_eq_some_iff.mp happened
      exact inductionHypothesis (sound.step? freshSound stepped) continued

theorem sound_of_after?
    {capacity : Nat}
    {page : ι}
    {fresh : Cache ι κ ν}
    (built : Cache.empty? capacity page = some fresh)
    {moments : List (Moment ι κ ν)}
    {audit : Audit ι κ ν}
    (happened : (start fresh).after? moments = some audit) :
    audit.Sound fresh :=
  (sound_start built).after? (Cache.sound_of_empty? built) happened

/-- Every call of an audit reports what it does. -/
theorem Sound.reported
    {fresh : Cache ι κ ν}
    {audit : Audit ι κ ν}
    (sound : audit.Sound fresh)
    (freshSound : fresh.Sound)
    {call : Call ι κ ν}
    (member : call ∈ audit.conversation.calls) :
    call.Reported := by
  obtain ⟨earlier, later, shape⟩ := List.append_of_mem member
  apply Call.reported_of_sound
  rw [sound.conversation.found earlier call later shape]
  exact freshSound.after _

end Audit

end NavState
