import NavState.Proofs.Departures

namespace NavState

/-!
# Conversations with a listener

A call takes its turn first and announces its departures afterwards, one after
the other.  While one is being announced the listener may call the cache again,
and such a call takes its turn, announces its own departures and returns before
the outer call goes on.  A conversation is a cache with everything it was called
for, what the open calls have yet to announce, and what has been announced.

No store is lost on the way: whatever left the cache has been announced or is
due to be.
-/

/-- A departure and the call in whose turn the store left. -/
structure Notice (ι κ ν : Type) where
  departure : Departure ι
  call : Call ι κ ν
  deriving DecidableEq

/-- What comes next in a conversation. -/
inductive Moment (ι κ ν : Type) where
  /-- The cache is called, by its client or from inside of an announcement. -/
  | calls (operation : Operation ι κ ν)
  /-- The innermost open call announces what is due next. -/
  | announces
  /-- The innermost open call has announced everything and returns. -/
  | returns
  deriving Repr, DecidableEq

/-- A cache, what it was called for and what it announces. -/
structure Conversation (ι κ ν : Type) where
  cache : Cache ι κ ν
  /-- All calls, in the order of their turns. -/
  calls : List (Call ι κ ν) := []
  /-- What each open call has yet to announce, the innermost call first. -/
  due : List (List (Notice ι κ ν)) := []
  announced : List (Notice ι κ ν) := []
  deriving DecidableEq

namespace Conversation

variable {ι κ ν : Type}

/-- Everything that has been announced or is due. -/
def notices (conversation : Conversation ι κ ν) : List (Notice ι κ ν) :=
  conversation.announced ++ conversation.due.flatten

/-- Everything that has left the cache. -/
def left (conversation : Conversation ι κ ν) : List (Departure ι) :=
  conversation.notices.map Notice.departure

/-- The departures that have been announced. -/
def departures (conversation : Conversation ι κ ν) : List (Departure ι) :=
  conversation.announced.map Notice.departure

/-- What has left is announced when no call is open. -/
theorem left_of_quiet
    {conversation : Conversation ι κ ν}
    (quiet : conversation.due = []) :
    conversation.left = conversation.departures := by
  simp [left, notices, departures, quiet]

/-- A conversation that has just begun. -/
def start (cache : Cache ι κ ν) : Conversation ι κ ν where
  cache := cache

/-- The call by which an operation is asked for. -/
def nextCall
    (operation : Operation ι κ ν)
    (conversation : Conversation ι κ ν) :
    Call ι κ ν :=
  ⟨operation, conversation.cache⟩

variable [DecidableEq ι] [DecidableEq κ]

/-- Let the cache be called. -/
def call
    (operation : Operation ι κ ν)
    (conversation : Conversation ι κ ν) :
    Conversation ι κ ν :=
  let call := conversation.nextCall operation
  { conversation with
    cache := call.turn.cache
    calls := conversation.calls ++ [call]
    due :=
      call.turn.departures.map (fun departure => ⟨departure, call⟩) ::
        conversation.due }

/-- What comes of a moment, if the conversation allows for it. -/
def step?
    (moment : Moment ι κ ν)
    (conversation : Conversation ι κ ν) :
    Option (Conversation ι κ ν) :=
  match moment, conversation.due with
  | .calls operation, _ =>
      some (conversation.call operation)
  | .announces, (notice :: rest) :: outer =>
      some
        { conversation with
          due := rest :: outer
          announced := conversation.announced ++ [notice] }
  | .returns, [] :: outer =>
      some { conversation with due := outer }
  | _, _ =>
      none

/-- What comes of some moments, if the conversation allows for them. -/
def after?
    (moments : List (Moment ι κ ν))
    (conversation : Conversation ι κ ν) :
    Option (Conversation ι κ ν) :=
  match moments with
  | [] => some conversation
  | moment :: rest => (conversation.step? moment).bind fun next => next.after? rest

/-- The pages for which pending stores were committed. -/
def commits (conversation : Conversation ι κ ν) : List ι :=
  conversation.calls.filterMap Call.committed?

/-- The pages for which stores were created by a write. -/
def creations (conversation : Conversation ι κ ν) : List ι :=
  conversation.calls.filterMap Call.created?

/-- The number of accepted transitions. -/
def acceptances (conversation : Conversation ι κ ν) : Nat :=
  conversation.calls.countP Call.accepts

theorem after?_append
    (earlier later : List (Moment ι κ ν))
    (conversation : Conversation ι κ ν) :
    conversation.after? (earlier ++ later) =
      (conversation.after? earlier).bind fun next => next.after? later := by
  induction earlier generalizing conversation with
  | nil =>
      rfl
  | cons moment rest inductionHypothesis =>
      simp only [List.cons_append, after?, inductionHypothesis,
        Option.bind_assoc]

/-! ## What every moment keeps -/

/-- What holds of every conversation with a cache that was `fresh` at first. -/
structure Sound
    (fresh : Cache ι κ ν)
    (conversation : Conversation ι κ ν) :
    Prop where
  /-- The turns make up a run. -/
  run : conversation.cache = fresh.after (conversation.calls.map Call.operation)
  found :
    ∀ earlier call later,
      conversation.calls = earlier ++ call :: later →
      call.found = fresh.after (earlier.map Call.operation)
  called :
    ∀ notice ∈ conversation.notices,
      notice.call ∈ conversation.calls ∧
        notice.departure ∈ notice.call.turn.departures
  stores :
    ∀ page,
      conversation.commits.count page + conversation.creations.count page =
        conversation.left.countP (Departure.leaves page) +
          conversation.cache.table.pages.count page
  flights :
    conversation.acceptances =
      conversation.commits.length +
        conversation.left.countP Departure.discards +
        conversation.cache.isTransitioning.toNat

/-- Announcements and returns change nothing that left. -/
theorem Sound.of_notices_eq
    {fresh : Cache ι κ ν}
    {conversation next : Conversation ι κ ν}
    (sound : conversation.Sound fresh)
    (cache : next.cache = conversation.cache)
    (calls : next.calls = conversation.calls)
    (notices : next.notices = conversation.notices) :
    next.Sound fresh where
  run := by
    rw [cache, calls]
    exact sound.run
  found := by
    rw [calls]
    exact sound.found
  called := by
    rw [calls, notices]
    exact sound.called
  stores := by
    rw [commits, creations, left, calls, cache, notices]
    exact sound.stores
  flights := by
    rw [acceptances, commits, left, calls, cache, notices]
    exact sound.flights

theorem sound_start
    {capacity : Nat}
    {page : ι}
    {fresh : Cache ι κ ν}
    (built : Cache.empty? capacity page = some fresh) :
    (start fresh).Sound fresh := by
  obtain ⟨table, made, rfl⟩ := Option.map_eq_some_iff.mp built
  have noPages := (Table.sound_of_empty? made).2.1
  exact {
    run := rfl
    found := by simp [start]
    called := by simp [start, notices]
    stores := by simp [start, left, notices, commits, creations, noPages]
    flights := by
      simp [start, left, notices, commits, acceptances,
        Cache.isTransitioning]
  }

/-- Every call of a conversation is balanced. -/
theorem Sound.balanced
    {fresh : Cache ι κ ν}
    {conversation : Conversation ι κ ν}
    (sound : conversation.Sound fresh)
    (freshSound : fresh.Sound)
    {call : Call ι κ ν}
    (member : call ∈ conversation.calls) :
    call.Balanced := by
  obtain ⟨earlier, later, shape⟩ := List.append_of_mem member
  apply Call.balanced_of_sound
  rw [sound.found earlier call later shape]
  exact freshSound.after _

/-- A notice is there after a call if it was there before or is a new one. -/
theorem mem_notices_call
    {operation : Operation ι κ ν}
    {conversation : Conversation ι κ ν}
    {notice : Notice ι κ ν} :
    notice ∈ (conversation.call operation).notices ↔
      notice ∈ conversation.notices ∨
        notice.call = conversation.nextCall operation ∧
          notice.departure ∈
            (conversation.nextCall operation).turn.departures := by
  simp only [notices, call, List.flatten_cons, List.mem_append, List.mem_map]
  constructor
  · rintro (earlier | ⟨departure, member, rfl⟩ | later)
    · exact .inl (.inl earlier)
    · exact .inr ⟨rfl, member⟩
    · exact .inl (.inr later)
  · rintro ((earlier | later) | ⟨isNext, member⟩)
    · exact .inl earlier
    · exact .inr (.inr later)
    · refine .inr (.inl ⟨notice.departure, member, ?_⟩)
      rw [← isNext]

theorem countP_left_call
    (test : Departure ι → Bool)
    (operation : Operation ι κ ν)
    (conversation : Conversation ι κ ν) :
    (conversation.call operation).left.countP test =
      conversation.left.countP test +
        (conversation.nextCall operation).turn.departures.countP test := by
  simp only [left, notices, call, List.flatten_cons, List.map_append,
    List.map_map, List.countP_append, Function.comp_def, List.map_id']
  omega

theorem commits_call
    (operation : Operation ι κ ν)
    (conversation : Conversation ι κ ν) :
    (conversation.call operation).commits =
      conversation.commits ++
        (conversation.nextCall operation).committed?.toList := by
  simp only [commits, call, List.filterMap_append]
  cases shape : (conversation.nextCall operation).committed? <;> simp [shape]

theorem creations_call
    (operation : Operation ι κ ν)
    (conversation : Conversation ι κ ν) :
    (conversation.call operation).creations =
      conversation.creations ++
        (conversation.nextCall operation).created?.toList := by
  simp only [creations, call, List.filterMap_append]
  cases shape : (conversation.nextCall operation).created? <;> simp [shape]

theorem acceptances_call
    (operation : Operation ι κ ν)
    (conversation : Conversation ι κ ν) :
    (conversation.call operation).acceptances =
      conversation.acceptances +
        (conversation.nextCall operation).accepts.toNat := by
  simp only [acceptances, call, List.countP_append]
  cases shape : (conversation.nextCall operation).accepts <;> simp [shape]

/-- What leaves by a call is due, and what enters by it is in the cache. -/
theorem Sound.call
    {fresh : Cache ι κ ν}
    {conversation : Conversation ι κ ν}
    (sound : conversation.Sound fresh)
    (freshSound : fresh.Sound)
    (operation : Operation ι κ ν) :
    (conversation.call operation).Sound fresh := by
  have cacheSound : conversation.cache.Sound := by
    rw [sound.run]
    exact freshSound.after _
  have balanced : (conversation.nextCall operation).Balanced :=
    Call.balanced_of_sound cacheSound
  exact {
    run := by
      simp only [Conversation.call, List.map_append, List.map_cons,
        List.map_nil, Cache.after_append, ← sound.run]
      rfl
    found := by
      intro earlier found later shape
      simp only [Conversation.call] at shape
      rcases List.eq_nil_or_concat later with rfl | ⟨between, last, rfl⟩
      · obtain ⟨rfl, isLast⟩ := List.append_inj' shape rfl
        cases isLast
        exact sound.run
      · rw [List.concat_eq_append, ← List.cons_append, ← List.append_assoc]
          at shape
        exact sound.found earlier found between
          (List.append_inj' shape rfl).1
    called := by
      intro notice member
      rcases mem_notices_call.mp member with earlier | ⟨isNext, left⟩
      · obtain ⟨called, left⟩ := sound.called notice earlier
        exact ⟨List.mem_append_left _ called, left⟩
      · rw [← isNext] at left
        refine ⟨?_, left⟩
        rw [isNext]
        exact List.mem_append_right _ (List.mem_singleton.mpr rfl)
    stores := by
      intro page
      have before := sound.stores page
      have turned := balanced.stores page
      rw [countP_left_call]
      have pages :
          (conversation.nextCall operation).found.table.pages.count page =
            conversation.cache.table.pages.count page :=
        rfl
      rw [commits_call, creations_call, List.count_append, List.count_append]
      simp only [Conversation.call]
      omega
    flights := by
      have before := sound.flights
      have turned := balanced.flights
      have flight :
          (conversation.nextCall operation).found.isTransitioning =
            conversation.cache.isTransitioning :=
        rfl
      rw [flight] at turned
      rw [commits_call, acceptances_call, countP_left_call, List.length_append]
      simp only [Conversation.call]
      omega
  }

theorem Sound.step?
    {fresh : Cache ι κ ν}
    {conversation next : Conversation ι κ ν}
    (sound : conversation.Sound fresh)
    (freshSound : fresh.Sound)
    {moment : Moment ι κ ν}
    (stepped : conversation.step? moment = some next) :
    next.Sound fresh := by
  obtain ⟨cache, calls, due, announced⟩ := conversation
  cases moment with
  | calls operation =>
      cases stepped
      exact sound.call freshSound operation
  | announces =>
      match due, stepped with
      | (notice :: rest) :: outer, stepped =>
          cases stepped
          refine sound.of_notices_eq rfl rfl ?_
          simp [notices]
  | returns =>
      match due, stepped with
      | [] :: outer, stepped =>
          cases stepped
          exact sound.of_notices_eq rfl rfl rfl

theorem Sound.after?
    {fresh : Cache ι κ ν}
    {conversation ended : Conversation ι κ ν}
    (sound : conversation.Sound fresh)
    (freshSound : fresh.Sound)
    {moments : List (Moment ι κ ν)}
    (happened : conversation.after? moments = some ended) :
    ended.Sound fresh := by
  induction moments generalizing conversation with
  | nil =>
      cases happened
      exact sound
  | cons moment rest inductionHypothesis =>
      obtain ⟨next, stepped, continued⟩ := Option.bind_eq_some_iff.mp happened
      exact inductionHypothesis (sound.step? freshSound stepped) continued

theorem sound_of_after?
    {capacity : Nat}
    {page : ι}
    {fresh : Cache ι κ ν}
    (built : Cache.empty? capacity page = some fresh)
    {moments : List (Moment ι κ ν)}
    {ended : Conversation ι κ ν}
    (happened : (start fresh).after? moments = some ended) :
    ended.Sound fresh :=
  (sound_start built).after? (Cache.sound_of_empty? built) happened

/-- Every notice of a dropped store is for the page that was the current one. -/
theorem Sound.discards
    {fresh : Cache ι κ ν}
    {conversation : Conversation ι κ ν}
    (sound : conversation.Sound fresh)
    (freshSound : fresh.Sound)
    {notice : Notice ι κ ν}
    (member : notice ∈ conversation.notices)
    (discards : notice.departure.discards = true) :
    notice.call ∈ conversation.calls ∧
      notice.call.Drops ∧
      notice.departure.page = notice.call.found.current := by
  obtain ⟨called, left⟩ := sound.called notice member
  have balanced := sound.balanced freshSound called
  exact ⟨called, balanced.discards notice.departure left discards⟩

/-! ## Conversations in which every call has returned -/

/-- The stores of a page that were put into the table left, but for one. -/
theorem Sound.stores_of_quiet
    {fresh : Cache ι κ ν}
    {conversation : Conversation ι κ ν}
    (sound : conversation.Sound fresh)
    (freshSound : fresh.Sound)
    (quiet : conversation.due = [])
    (page : ι) :
    conversation.commits.count page + conversation.creations.count page =
      conversation.departures.countP (Departure.leaves page) +
        (conversation.cache.retains page).toNat := by
  have cacheSound : conversation.cache.Sound := by
    rw [sound.run]
    exact freshSound.after _
  rw [sound.stores, left_of_quiet quiet, Table.count_pages cacheSound.table]
  rfl

/-- The accepted transitions were committed or discarded, but for one. -/
theorem Sound.flights_of_quiet
    {fresh : Cache ι κ ν}
    {conversation : Conversation ι κ ν}
    (sound : conversation.Sound fresh)
    (quiet : conversation.due = []) :
    conversation.acceptances =
      conversation.commits.length +
        conversation.departures.countP Departure.discards +
        conversation.cache.isTransitioning.toNat := by
  rw [sound.flights, left_of_quiet quiet]

end Conversation

end NavState
