import NavState.Proofs.Flight
import NavState.Session.World

namespace NavState

/-!
# Caches and attempts together

A cache that accepts an attempt puts its pending store in place first, announces
the store that it superseded, and asks the attempt last to settle the new one.
The attempt may have settled before, or a listener settles it in between, and
whatever runs when it settles may call any cache and use any resolver in turn.

An interplay is any number of caches and attempts, with a stack of what has begun
and not come to its end.  No settlement gets lost between the two sides.  As long
as a pending store is in place, its settlement is about to be registered, or
waits for the attempt, or is about to run.
-/

open Session (Installation)

/-- Something that has begun and not come to its end. -/
inductive Frame (ι : Type) where
  /--
  A cache announces what left during a turn, and registers a callback with an
  attempt afterwards if the turn accepted one.
  -/
  | announcing
      (due : List (Departure ι))
      (registration : Option (Nat × Session.Callback))
  /-- Callbacks run with the outcome of an attempt. -/
  | settling (outcome : Outcome) (callbacks : List Session.Callback)

/-- What the cache asks the attempt to run when it settles. -/
def Session.Installation.callback
    (installation : Session.Installation) :
    Session.Callback :=
  .settlement installation.cache installation.generation

/-- What happens next. -/
inductive Interplay.Event (ι κ ν : Type) where
  | builds (capacity : Nat) (page : ι)
  | opens (id : UInt64)
  /-- A cache is called, by its client or from inside of a callback. -/
  | calls (cache : Nat) (operation : Operation ι κ ν)
  /-- An attempt is announced to a cache, which is to settle with it. -/
  | hooks (cache attempt : Nat) (observed : ι)
  /-- A client waits for an attempt. -/
  | awaits (attempt : Nat) (label : String) (steps : Session.Script)
  /-- A resolver of an attempt is used or let go of. -/
  | settles (attempt : Nat) (resolver : Resolver) (outcome : Outcome)
  /--
  What began last goes on, or comes to its end.  A settlement that runs finds a
  page shown.
  -/
  | proceeds (observed : ι)

/-- Caches and attempts, what is going on with them, and what was put in place. -/
structure Interplay (ι κ ν : Type) where
  caches : List (Cache ι κ ν) := []
  attempts : List (Attempt Session.Callback) := []
  /-- What has begun and not come to its end, the last first. -/
  frames : List (Frame ι) := []
  /-- The pending stores that were put in place for attempts, in order. -/
  installed : List Installation := []

namespace Interplay

variable {ι κ ν : Type}

/-- A cache takes a turn. -/
def takeTurn
    {ρ : Type}
    (index : Nat)
    (turn : Turn ι κ ν ρ)
    (registration : Option (Nat × Session.Callback))
    (state : Interplay ι κ ν) :
    Interplay ι κ ν :=
  { state with
    caches := state.caches.set index turn.cache
    frames := .announcing turn.departures registration :: state.frames }

/-- Register a callback with an attempt, which has it run if it has settled. -/
def register
    (index : Nat)
    (callback : Session.Callback)
    (state : Interplay ι κ ν) :
    Interplay ι κ ν :=
  match state.attempts[index]? with
  | none => state
  | some target =>
      let (attempt, due) := target.onSettle callback
      match due with
      | none => { state with attempts := state.attempts.set index attempt }
      | some outcome =>
          { state with frames := .settling outcome [callback] :: state.frames }

/-- Settle an attempt, which has its callbacks run. -/
def settle
    (index : Nat)
    (resolver : Resolver)
    (outcome : Outcome)
    (target : Attempt Session.Callback)
    (state : Interplay ι κ ν) :
    Interplay ι κ ν :=
  let (_, attempt, callbacks) := resolver.settle outcome target
  { state with
    attempts := state.attempts.set index attempt
    frames := .settling outcome callbacks :: state.frames }

variable [DecidableEq ι] [DecidableEq κ]

/-- Run a callback.  What client code does happens next. -/
def runCallback
    (outcome : Outcome)
    (observed : ι)
    (callback : Session.Callback)
    (state : Interplay ι κ ν) :
    Interplay ι κ ν :=
  match callback with
  | .script _ _ => state
  | .settlement index generation =>
      match state.caches[index]? with
      | none => state
      | some cache =>
          state.takeTurn index (cache.settle generation outcome observed) none

/-- Announce an attempt to a cache. -/
def hook
    (index attempt : Nat)
    (turn : Turn ι κ ν (Option Nat))
    (state : Interplay ι κ ν) :
    Interplay ι κ ν :=
  let installation? :=
    turn.result.map fun generation => Installation.mk index generation attempt
  let registration :=
    installation?.map fun installation => (attempt, installation.callback)
  { state.takeTurn index turn registration with
    installed := state.installed ++ installation?.toList }

/-- What began last goes on. -/
def proceed?
    (observed : ι)
    (state : Interplay ι κ ν) :
    Option (Interplay ι κ ν) :=
  match state.frames with
  | [] => none
  | .announcing (_ :: due) registration :: outer =>
      some { state with frames := .announcing due registration :: outer }
  | .announcing [] (some (attempt, callback)) :: outer =>
      some
        ({ state with frames := .announcing [] none :: outer }.register attempt
          callback)
  | .settling outcome (callback :: rest) :: outer =>
      some
        ({ state with frames := .settling outcome rest :: outer }.runCallback
          outcome observed callback)
  | .announcing [] none :: outer => some { state with frames := outer }
  | .settling _ [] :: outer => some { state with frames := outer }

/-- What comes of one event, if it can happen. -/
def step?
    (event : Event ι κ ν)
    (state : Interplay ι κ ν) :
    Option (Interplay ι κ ν) :=
  match event with
  | .builds capacity page =>
      (Cache.empty? capacity page).map fun cache =>
        { state with caches := state.caches ++ [cache] }
  | .opens id =>
      some { state with attempts := state.attempts ++ [Attempt.start id] }
  | .calls index operation =>
      state.caches[index]?.map fun cache =>
        state.takeTurn index (cache.perform operation) none
  | .hooks index attempt observed =>
      state.caches[index]?.bind fun cache =>
        state.attempts[attempt]?.map fun target =>
          state.hook index attempt (cache.announce target.id observed)
  | .awaits attempt label steps =>
      some (state.register attempt (.script label steps))
  | .settles attempt resolver outcome =>
      state.attempts[attempt]?.map fun target =>
        state.settle attempt resolver outcome target
  | .proceeds observed =>
      state.proceed? observed

/-- What comes of some events in order, if they can happen. -/
def after?
    (events : List (Event ι κ ν))
    (state : Interplay ι κ ν) :
    Option (Interplay ι κ ν) :=
  match events with
  | [] => some state
  | event :: rest => (state.step? event).bind fun next => next.after? rest

theorem after?_append
    (earlier later : List (Event ι κ ν))
    (state : Interplay ι κ ν) :
    state.after? (earlier ++ later) =
      (state.after? earlier).bind fun next => next.after? later := by
  induction earlier generalizing state with
  | nil =>
      rfl
  | cons event rest inductionHypothesis =>
      simp only [List.cons_append, after?, inductionHypothesis,
        Option.bind_assoc]

/-- Something that can happen makes one state of the other. -/
def Leads (before ended : Interplay ι κ ν) : Prop :=
  ∃ events, before.after? events = some ended

theorem Leads.refl (state : Interplay ι κ ν) : state.Leads state :=
  ⟨[], rfl⟩

theorem Leads.trans
    {before between ended : Interplay ι κ ν}
    (first : before.Leads between)
    (second : between.Leads ended) :
    before.Leads ended := by
  obtain ⟨earlier, reached⟩ := first
  obtain ⟨later, continued⟩ := second
  refine ⟨earlier ++ later, ?_⟩
  rw [after?_append, reached]
  exact continued

theorem Leads.of_step?
    {before ended : Interplay ι κ ν}
    {event : Event ι κ ν}
    (stepped : before.step? event = some ended) :
    before.Leads ended := by
  refine ⟨[event], ?_⟩
  rw [after?, stepped]
  rfl

omit [DecidableEq ι] [DecidableEq κ] in
@[simp] theorem installed_register
    (index : Nat)
    (callback : Session.Callback)
    (state : Interplay ι κ ν) :
    (state.register index callback).installed = state.installed := by
  simp only [register]
  split
  · rfl
  · split <;> rfl

omit [DecidableEq κ] in
@[simp] theorem installed_runCallback
    (outcome : Outcome)
    (observed : ι)
    (callback : Session.Callback)
    (state : Interplay ι κ ν) :
    (state.runCallback outcome observed callback).installed =
      state.installed := by
  cases callback with
  | script label steps =>
      rfl
  | settlement index generation =>
      simp only [runCallback]
      split <;> rfl

end Interplay

/-! ## Where a settlement is -/

/-- The frame has the settlement of an installation registered or run. -/
def Frame.Owes
    {ι : Type}
    (installation : Installation)
    (frame : Frame ι) :
    Prop :=
  match frame with
  | .announcing _ registration =>
      registration = some (installation.attempt, installation.callback)
  | .settling _ callbacks => installation.callback ∈ callbacks

namespace Interplay

variable {ι κ ν : Type}

/-- The settlement of an installation waits for the attempt, or a frame owes it. -/
def Owed (installation : Installation) (state : Interplay ι κ ν) : Prop :=
  (∃ attempt,
    state.attempts[installation.attempt]? = some attempt ∧
      installation.callback ∈ attempt.callbacks) ∨
  ∃ frame ∈ state.frames, frame.Owes installation

/-- The pending store of an installation is gone, or its settlement is owed. -/
structure Accounted
    (installation : Installation)
    (state : Interplay ι κ ν) :
    Prop where
  attempt : installation.attempt < state.attempts.length
  settlement :
    ∃ cache,
      state.caches[installation.cache]? = some cache ∧
        installation.generation ≤ cache.generation ∧
        (cache.Lapsed installation.generation ∨ state.Owed installation)

/-- Every installation is accounted for. -/
def Sound (state : Interplay ι κ ν) : Prop :=
  ∀ installation ∈ state.installed, state.Accounted installation

/-- A settlement is owed still if nothing that could owe it was taken away. -/
theorem Owed.mono
    {installation : Installation}
    {before ended : Interplay ι κ ν}
    (owed : before.Owed installation)
    (attempts : ended.attempts = before.attempts)
    (frames :
      ∀ frame ∈ before.frames,
        frame.Owes installation →
        ∃ later ∈ ended.frames, later.Owes installation) :
    ended.Owed installation := by
  rcases owed with ⟨attempt, found, waits⟩ | ⟨frame, member, owes⟩
  · rw [← attempts] at found
    exact .inl ⟨attempt, found, waits⟩
  · exact .inr (frames frame member owes)

/-- Registering a callback takes no other away. -/
theorem Owed.register
    {installation : Installation}
    {state : Interplay ι κ ν}
    (owed : state.Owed installation)
    (index : Nat)
    (callback : Session.Callback) :
    (state.register index callback).Owed installation := by
  cases found : state.attempts[index]? with
  | none =>
      simp only [Interplay.register, found]
      exact owed
  | some target =>
      cases settled : target.outcome? with
      | some outcome =>
          simp only [Interplay.register, found,
            Attempt.onSettle_of_settled settled]
          refine owed.mono rfl fun frame member owes => ?_
          exact ⟨frame, List.mem_cons_of_mem _ member, owes⟩
      | none =>
          have notDue : (target.onSettle callback).2 = none := by
            rw [Attempt.onSettle_due, settled]
          simp only [Interplay.register, found, notDue]
          rcases owed with ⟨attempt, foundOwn, waits⟩ | later
          · left
            by_cases same : index = installation.attempt
            · subst same
              rw [found] at foundOwn
              cases foundOwn
              have inside := (List.getElem?_eq_some_iff.mp found).1
              refine ⟨_, List.getElem?_set_self inside, ?_⟩
              rw [Attempt.callbacks_onSettle settled]
              exact List.mem_append_left _ waits
            · refine ⟨attempt, ?_, waits⟩
              rw [List.getElem?_set_ne same]
              exact foundOwn
          · exact .inr later

/-- A settlement that was registered waits, or it runs at once. -/
theorem owed_register
    {installation : Installation}
    {state : Interplay ι κ ν}
    (inside : installation.attempt < state.attempts.length) :
    (state.register installation.attempt installation.callback).Owed
      installation := by
  have found := List.getElem?_eq_getElem inside
  cases settled : (state.attempts[installation.attempt]).outcome? with
  | some outcome =>
      simp only [Interplay.register, found,
        Attempt.onSettle_of_settled settled]
      right
      exact ⟨_, List.mem_cons_self, List.mem_singleton.mpr rfl⟩
  | none =>
      have notDue :
          ((state.attempts[installation.attempt]).onSettle
            installation.callback).2 = none := by
        rw [Attempt.onSettle_due, settled]
      simp only [Interplay.register, found, notDue]
      left
      refine ⟨_, List.getElem?_set_self inside, ?_⟩
      rw [Attempt.callbacks_onSettle settled]
      exact List.mem_append_right _ (List.mem_singleton.mpr rfl)

/-- What waited for an attempt is run when it settles. -/
theorem Owed.settle
    {installation : Installation}
    {state : Interplay ι κ ν}
    (owed : state.Owed installation)
    {index : Nat}
    {target : Attempt Session.Callback}
    (found : state.attempts[index]? = some target)
    (resolver : Resolver)
    (outcome : Outcome) :
    (state.settle index resolver outcome target).Owed installation := by
  rcases owed with ⟨attempt, foundOwn, waits⟩ | ⟨frame, member, owes⟩
  · by_cases same : index = installation.attempt
    · subst same
      rw [found] at foundOwn
      cases foundOwn
      cases used : resolver.settled with
      | true =>
          left
          have inside := (List.getElem?_eq_some_iff.mp found).1
          simp only [Interplay.settle, Resolver.settle_of_settled used]
          exact ⟨target, List.getElem?_set_self inside, waits⟩
      | false =>
          right
          have handedOver :=
            (Resolver.settle_of_unsettled used outcome target).2
          rw [← handedOver] at waits
          exact ⟨_, List.mem_cons_self, waits⟩
    · left
      refine ⟨attempt, ?_, waits⟩
      simp only [Interplay.settle]
      rw [List.getElem?_set_ne same]
      exact foundOwn
  · exact .inr ⟨frame, List.mem_cons_of_mem _ member, owes⟩

@[simp] theorem length_attempts_register
    (index : Nat)
    (callback : Session.Callback)
    (state : Interplay ι κ ν) :
    (state.register index callback).attempts.length =
      state.attempts.length := by
  simp only [register]
  split
  · rfl
  · split <;> simp

@[simp] theorem caches_register
    (index : Nat)
    (callback : Session.Callback)
    (state : Interplay ι κ ν) :
    (state.register index callback).caches = state.caches := by
  simp only [register]
  split
  · rfl
  · split <;> rfl

variable [DecidableEq ι] [DecidableEq κ]

/-- Caches go on by runs, and what is owed is owed still. -/
theorem Accounted.goesOn
    {installation : Installation}
    {before ended : Interplay ι κ ν}
    (accounted : before.Accounted installation)
    (attempts : before.attempts.length ≤ ended.attempts.length)
    (caches :
      ∀ cache,
        before.caches[installation.cache]? = some cache →
        ∃ operations,
          ended.caches[installation.cache]? = some (cache.after operations))
    (owed : before.Owed installation → ended.Owed installation) :
    ended.Accounted installation where
  attempt := lt_of_lt_of_le accounted.attempt attempts
  settlement := by
    obtain ⟨cache, found, handedOut, lapsed⟩ := accounted.settlement
    obtain ⟨operations, foundLater⟩ := caches cache found
    have later := (Cache.accepted_eq_range' operations cache).2
    exact ⟨_, foundLater, by omega,
      lapsed.imp (fun lapsed => lapsed.after operations) owed⟩

omit [DecidableEq ι] [DecidableEq κ] in
/-- Frames may change as long as some frame owes what one of them owed. -/
theorem Accounted.withFrames
    {installation : Installation}
    {state : Interplay ι κ ν}
    (accounted : state.Accounted installation)
    {frames : List (Frame ι)}
    (kept :
      ∀ frame ∈ state.frames,
        frame.Owes installation →
        ∃ later ∈ frames, later.Owes installation) :
    { state with frames := frames }.Accounted installation where
  attempt := accounted.attempt
  settlement := by
    obtain ⟨cache, found, handedOut, lapsed⟩ := accounted.settlement
    exact ⟨cache, found, handedOut,
      lapsed.imp_right fun owed => owed.mono rfl kept⟩

/-- A turn is one operation in the run of its cache. -/
theorem caches_takeTurn
    {ρ : Type}
    {index : Nat}
    {cache : Cache ι κ ν}
    {state : Interplay ι κ ν}
    (found : state.caches[index]? = some cache)
    {turn : Turn ι κ ν ρ}
    {operation : Operation ι κ ν}
    (performs : turn.cache = (cache.perform operation).cache)
    (registration : Option (Nat × Session.Callback))
    {other : Nat}
    {otherCache : Cache ι κ ν}
    (foundOther : state.caches[other]? = some otherCache) :
    ∃ operations,
      (state.takeTurn index turn registration).caches[other]? =
        some (otherCache.after operations) := by
  simp only [takeTurn]
  by_cases same : index = other
  · subst same
    rw [found] at foundOther
    cases foundOther
    have inside := (List.getElem?_eq_some_iff.mp found).1
    refine ⟨[operation], ?_⟩
    rw [List.getElem?_set_self inside, performs]
    rfl
  · refine ⟨[], ?_⟩
    rw [List.getElem?_set_ne same]
    exact foundOther

theorem Accounted.takeTurn
    {installation : Installation}
    {state : Interplay ι κ ν}
    (accounted : state.Accounted installation)
    {ρ : Type}
    {index : Nat}
    {cache : Cache ι κ ν}
    (found : state.caches[index]? = some cache)
    {turn : Turn ι κ ν ρ}
    {operation : Operation ι κ ν}
    (performs : turn.cache = (cache.perform operation).cache)
    (registration : Option (Nat × Session.Callback)) :
    (state.takeTurn index turn registration).Accounted installation := by
  refine accounted.goesOn (Nat.le_refl _)
    (fun other foundOther =>
      caches_takeTurn found performs registration foundOther)
    fun owed => ?_
  refine owed.mono rfl fun frame member owes => ?_
  exact ⟨frame, List.mem_cons_of_mem _ member, owes⟩

omit [DecidableEq κ] in
/-- An installation is accounted for once its settlement has run. -/
theorem accounted_runCallback
    {installation : Installation}
    {state : Interplay ι κ ν}
    (attempt : installation.attempt < state.attempts.length)
    {cache : Cache ι κ ν}
    (found : state.caches[installation.cache]? = some cache)
    (handedOut : installation.generation ≤ cache.generation)
    (outcome : Outcome)
    (observed : ι) :
    (state.runCallback outcome observed installation.callback).Accounted
      installation := by
  simp only [runCallback, Installation.callback, found]
  have inside := (List.getElem?_eq_some_iff.mp found).1
  have lapsed := Cache.lapsed_settle handedOut outcome observed
  exact ⟨attempt, _, List.getElem?_set_self inside, lapsed.handedOut,
    .inl lapsed⟩

theorem Accounted.runCallback
    {installation : Installation}
    {state : Interplay ι κ ν}
    (accounted : state.Accounted installation)
    (outcome : Outcome)
    (observed : ι)
    (callback : Session.Callback) :
    (state.runCallback outcome observed callback).Accounted installation := by
  cases callback with
  | script label steps =>
      exact accounted
  | settlement index generation =>
      cases found : state.caches[index]? with
      | none =>
          simp only [Interplay.runCallback, found]
          exact accounted
      | some cache =>
          simp only [Interplay.runCallback, found]
          have performs :
              (cache.settle generation outcome observed).cache =
                (cache.perform (.settle generation outcome observed)).cache :=
            rfl
          exact accounted.takeTurn found performs none

omit [DecidableEq κ] in
/-- A new installation is accounted for by the registration that comes last. -/
theorem accounted_hook
    {state : Interplay ι κ ν}
    {index attempt : Nat}
    {cache : Cache ι κ ν}
    (found : state.caches[index]? = some cache)
    (inside : attempt < state.attempts.length)
    {id : UInt64}
    {observed : ι}
    {generation : Nat}
    (accepted : (cache.announce id observed).result = some generation) :
    (state.hook index attempt (cache.announce id observed)).Accounted
      ⟨index, generation, attempt⟩ where
  attempt := inside
  settlement := by
    have insideCaches := (List.getElem?_eq_some_iff.mp found).1
    have handedOut := (Cache.pending_announce accepted).2.1
    simp only [hook, takeTurn, accepted]
    exact ⟨_, List.getElem?_set_self insideCaches, handedOut.ge,
      .inr (.inr ⟨_, List.mem_cons_self, rfl⟩)⟩

theorem Sound.hook
    {state : Interplay ι κ ν}
    (sound : state.Sound)
    {index attempt : Nat}
    {cache : Cache ι κ ν}
    (found : state.caches[index]? = some cache)
    (inside : attempt < state.attempts.length)
    (id : UInt64)
    (observed : ι) :
    (state.hook index attempt (cache.announce id observed)).Sound := by
  intro installation member
  rcases List.mem_append.mp member with earlier | new
  · have performs :
        (cache.announce id observed).cache =
          (cache.perform (.announce id observed)).cache :=
      rfl
    let turn := cache.announce id observed
    let registration :=
      (turn.result.map fun generation =>
        Installation.mk index generation attempt).map
          fun installation => (attempt, installation.callback)
    have taken :=
      (sound installation earlier).takeTurn found performs registration
    exact ⟨taken.attempt, taken.settlement⟩
  · simp only [Option.mem_toList, Option.map_eq_some_iff] at new
    obtain ⟨generation, accepted, rfl⟩ := new
    exact accounted_hook found inside accepted

/-- Whatever began last goes on, no settlement gets lost. -/
theorem Sound.proceed?
    {state next : Interplay ι κ ν}
    (sound : state.Sound)
    {observed : ι}
    (proceeded : state.proceed? observed = some next) :
    next.Sound := by
  obtain ⟨caches, attempts, frames, installed⟩ := state
  match frames, proceeded with
  | .announcing (departure :: due) registration :: outer, proceeded =>
      cases proceeded
      intro installation member
      refine (sound installation member).withFrames fun frame inside owes => ?_
      rcases List.mem_cons.mp inside with rfl | inOuter
      · exact ⟨_, List.mem_cons_self, owes⟩
      · exact ⟨frame, List.mem_cons_of_mem _ inOuter, owes⟩
  | .announcing [] (some (attempt, callback)) :: outer, proceeded =>
      cases proceeded
      intro installation member
      rw [installed_register] at member
      have accounted := sound installation member
      refine accounted.goesOn (by simp)
        (fun cache found => ⟨[], by simpa using found⟩) fun owed => ?_
      let announced : Interplay ι κ ν :=
        ⟨caches, attempts, .announcing [] none :: outer, installed⟩
      rcases owed with waits | ⟨frame, inside, owes⟩
      · have still : announced.Owed installation := .inl waits
        exact still.register attempt callback
      · rcases List.mem_cons.mp inside with rfl | inOuter
        · cases owes
          exact owed_register accounted.attempt
        · have still : announced.Owed installation :=
            .inr ⟨frame, List.mem_cons_of_mem _ inOuter, owes⟩
          exact still.register attempt callback
  | .settling outcome (callback :: rest) :: outer, proceeded =>
      cases proceeded
      intro installation member
      rw [installed_runCallback] at member
      have accounted := sound installation member
      by_cases own : installation.callback = callback
      · subst own
        obtain ⟨cache, found, handedOut, _⟩ := accounted.settlement
        let taken : Interplay ι κ ν :=
          ⟨caches, attempts, .settling outcome rest :: outer, installed⟩
        have inside : installation.attempt < taken.attempts.length :=
          accounted.attempt
        exact accounted_runCallback inside found handedOut outcome observed
      · refine (accounted.withFrames ?_).runCallback outcome observed callback
        intro frame inside owes
        rcases List.mem_cons.mp inside with rfl | inOuter
        · rcases List.mem_cons.mp owes with isOwn | inRest
          · exact absurd isOwn own
          · exact ⟨_, List.mem_cons_self, inRest⟩
        · exact ⟨frame, List.mem_cons_of_mem _ inOuter, owes⟩
  | .announcing [] none :: outer, proceeded =>
      cases proceeded
      intro installation member
      refine (sound installation member).withFrames fun frame inside owes => ?_
      rcases List.mem_cons.mp inside with rfl | inOuter
      · cases owes
      · exact ⟨frame, inOuter, owes⟩
  | .settling outcome [] :: outer, proceeded =>
      cases proceeded
      intro installation member
      refine (sound installation member).withFrames fun frame inside owes => ?_
      rcases List.mem_cons.mp inside with rfl | inOuter
      · cases owes
      · exact ⟨frame, inOuter, owes⟩

omit [DecidableEq ι] [DecidableEq κ] in
/-- Where nothing was put in place, no settlement is missing. -/
theorem sound_of_nothing : ({} : Interplay ι κ ν).Sound := by
  intro installation member
  cases member

theorem Sound.step?
    {state next : Interplay ι κ ν}
    (sound : state.Sound)
    {event : Event ι κ ν}
    (stepped : state.step? event = some next) :
    next.Sound := by
  cases event with
  | builds capacity page =>
      obtain ⟨cache, _, rfl⟩ := Option.map_eq_some_iff.mp stepped
      intro installation member
      refine (sound installation member).goesOn (Nat.le_refl _) ?_ id
      intro other found
      have inside := (List.getElem?_eq_some_iff.mp found).1
      refine ⟨[], ?_⟩
      rw [List.getElem?_append_left inside]
      exact found
  | opens id =>
      cases stepped
      intro installation member
      refine (sound installation member).goesOn (by simp)
        (fun cache found => ⟨[], found⟩) ?_
      rintro (⟨attempt, found, waits⟩ | later)
      · have inside := (List.getElem?_eq_some_iff.mp found).1
        refine .inl ⟨attempt, ?_, waits⟩
        rw [List.getElem?_append_left inside]
        exact found
      · exact .inr later
  | calls index operation =>
      obtain ⟨cache, found, rfl⟩ := Option.map_eq_some_iff.mp stepped
      intro installation member
      exact (sound installation member).takeTurn found rfl none
  | hooks index attempt observed =>
      obtain ⟨cache, found, accepting⟩ := Option.bind_eq_some_iff.mp stepped
      obtain ⟨target, foundTarget, rfl⟩ := Option.map_eq_some_iff.mp accepting
      have inside := (List.getElem?_eq_some_iff.mp foundTarget).1
      exact sound.hook found inside target.id observed
  | awaits attempt label steps =>
      cases stepped
      intro installation member
      rw [installed_register] at member
      exact (sound installation member).goesOn (by simp)
        (fun cache found => ⟨[], by simpa using found⟩)
        fun owed => owed.register attempt (.script label steps)
  | settles attempt resolver outcome =>
      obtain ⟨target, found, rfl⟩ := Option.map_eq_some_iff.mp stepped
      intro installation member
      exact (sound installation member).goesOn (by simp [settle])
        (fun cache found => ⟨[], found⟩)
        fun owed => owed.settle found resolver outcome
  | proceeds observed =>
      exact sound.proceed? stepped

theorem Sound.after?
    {state ended : Interplay ι κ ν}
    (sound : state.Sound)
    {events : List (Event ι κ ν)}
    (happened : state.after? events = some ended) :
    ended.Sound := by
  induction events generalizing state with
  | nil =>
      cases happened
      exact sound
  | cons event rest inductionHypothesis =>
      obtain ⟨next, stepped, continued⟩ := Option.bind_eq_some_iff.mp happened
      exact inductionHypothesis (sound.step? stepped) continued

omit [DecidableEq ι] [DecidableEq κ] in
/--
When nothing is going on, a pending store that is still in place has a
settlement that waits for its attempt, which therefore has no outcome.
-/
theorem Sound.waits_of_quiet
    {state : Interplay ι κ ν}
    (sound : state.Sound)
    (quiet : state.frames = [])
    {installation : Installation}
    (installed : installation ∈ state.installed)
    {cache : Cache ι κ ν}
    (found : state.caches[installation.cache]? = some cache)
    {pending : Pending κ ν}
    (inFlight : cache.pending = some pending)
    (own : pending.generation = installation.generation) :
    ∃ attempt,
      state.attempts[installation.attempt]? = some attempt ∧
        installation.callback ∈ attempt.callbacks ∧
        attempt.outcome? = none := by
  obtain ⟨other, foundOther, _, settles⟩ :=
    (sound installation installed).settlement
  rw [found] at foundOther
  cases foundOther
  rcases settles with lapsed | owed
  · exact absurd own (lapsed.gone pending inFlight)
  · rcases owed with ⟨attempt, foundAttempt, waits⟩ | ⟨frame, member, _⟩
    · exact ⟨attempt, foundAttempt, waits,
        Attempt.outcome?_of_mem_callbacks waits⟩
    · rw [quiet] at member
      cases member

end Interplay

end NavState
