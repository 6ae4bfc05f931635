import NavState.Proofs.Interplay

namespace NavState

/-!
# Attempts of a sequencer

A sequencer hands numbers out one after the other, and starts again from zero
behind the largest one.  Short of a whole round all of them are different.  So
when all attempts of an interplay get their ids from one sequencer, and no other
ids are announced, a cache remembers an attempt only if that very attempt was
announced to it before.
-/

/-! ## The numbers of a sequencer -/

/-- The numbers that a sequencer hands out, beginning with the next one. -/
def handouts (next : UInt64) (count : Nat) : List UInt64 :=
  match count with
  | 0 => []
  | count + 1 => next :: handouts (next + 1) count

theorem exists_of_mem_handouts
    {next id : UInt64}
    {count : Nat}
    (member : id ∈ handouts next count) :
    ∃ steps < count, id = next + UInt64.ofNat steps := by
  induction count generalizing next with
  | zero =>
      cases member
  | succ count inductionHypothesis =>
      rcases List.mem_cons.mp member with rfl | later
      · exact ⟨0, Nat.succ_pos count, by simp⟩
      · obtain ⟨steps, fewer, rfl⟩ := inductionHypothesis later
        refine ⟨steps + 1, Nat.succ_lt_succ fewer, ?_⟩
        rw [Nat.add_comm steps 1, UInt64.ofNat_add, ← UInt64.add_assoc]
        rfl

/-- No number comes back before all of them were handed out. -/
theorem nodup_handouts
    {count : Nat}
    (within : count ≤ UInt64.size)
    (next : UInt64) :
    (handouts next count).Nodup := by
  induction count generalizing next with
  | zero =>
      exact List.nodup_nil
  | succ count inductionHypothesis =>
      refine List.nodup_cons.mpr ⟨?_, inductionHypothesis (by omega) (next + 1)⟩
      intro again
      obtain ⟨steps, fewer, isNext⟩ := exists_of_mem_handouts again
      have values := congrArg UInt64.toNat isNext
      have bound := next.toNat_lt
      rw [UInt64.size] at within
      simp only [UInt64.toNat_add, UInt64.toNat_ofNat', UInt64.reduceToNat,
        Nat.add_mod_mod, Nat.mod_add_mod] at values
      omega

/-! ## Interplays whose attempts get their ids from a sequencer -/

namespace Interplay

variable {ι κ ν : Type}

/-- The id that an attempt is opened with. -/
def Event.opened? (event : Event ι κ ν) : Option UInt64 :=
  match event with
  | .opens id => some id
  | _ => none

/-- Whether an event announces an id without an attempt that goes by it. -/
def Event.announcesForeign (event : Event ι κ ν) : Bool :=
  match event with
  | .calls _ operation => operation.attempt?.isSome
  | _ => false

/-- The ids of the attempts that were opened, in order. -/
def openings (events : List (Event ι κ ν)) : List UInt64 :=
  events.filterMap Event.opened?

/-- What the caches of one state remember, they did so in the other. -/
def RemembersNoMore (before ended : Interplay ι κ ν) : Prop :=
  ∀ (index : Nat) (cache : Cache ι κ ν),
    ended.caches[index]? = some cache →
    ∀ id ∈ cache.handled,
      ∃ earlier : Cache ι κ ν,
        before.caches[index]? = some earlier ∧ id ∈ earlier.handled

/--
Every attempt goes by the id that it was opened with, and a cache remembers the
ids of attempts that were announced to it.
-/
structure Recalls
    (events : List (Event ι κ ν))
    (state : Interplay ι κ ν) :
    Prop where
  ids : state.attempts.map Attempt.id = openings events
  remembered :
    ∀ index cache,
      state.caches[index]? = some cache →
      ∀ id ∈ cache.handled,
        ∃ attempt observed,
          .hooks index attempt observed ∈ events ∧
            (openings events)[attempt]? = some id

theorem openings_concat
    (events : List (Event ι κ ν))
    (event : Event ι κ ν) :
    openings (events ++ [event]) = openings events ++ event.opened?.toList := by
  rw [openings, List.filterMap_append, ← openings]
  cases opened : event.opened? <;> simp [opened]

theorem remembersNoMore_of_eq
    {before ended : Interplay ι κ ν}
    (same : ended.caches = before.caches) :
    before.RemembersNoMore ended := by
  intro index cache found id member
  rw [same] at found
  exact ⟨cache, found, member⟩

theorem remembersNoMore_takeTurn
    {ρ : Type}
    {index : Nat}
    {cache : Cache ι κ ν}
    {state : Interplay ι κ ν}
    (found : state.caches[index]? = some cache)
    {turn : Turn ι κ ν ρ}
    (noMore : turn.cache.handled ⊆ cache.handled)
    (registration : Option (Nat × Session.Callback)) :
    state.RemembersNoMore (state.takeTurn index turn registration) := by
  intro other ended foundOther id member
  simp only [takeTurn] at foundOther
  by_cases same : index = other
  · subst same
    have inside := (List.getElem?_eq_some_iff.mp found).1
    rw [List.getElem?_set_self inside] at foundOther
    cases foundOther
    exact ⟨cache, found, noMore member⟩
  · rw [List.getElem?_set_ne same] at foundOther
    exact ⟨ended, foundOther, member⟩

/-- An attempt goes by the same id when something else of it changes. -/
theorem ids_set
    {index : Nat}
    {target attempt : Attempt Session.Callback}
    {attempts : List (Attempt Session.Callback)}
    (found : attempts[index]? = some target)
    (same : attempt.id = target.id) :
    (attempts.set index attempt).map Attempt.id = attempts.map Attempt.id := by
  obtain ⟨inside, rfl⟩ := List.getElem?_eq_some_iff.mp found
  have insideIds : index < (attempts.map Attempt.id).length := by
    rwa [List.length_map]
  have isId : (attempts.map Attempt.id)[index] = attempt.id := by
    rw [List.getElem_map, same]
  rw [List.map_set, ← isId, List.set_getElem_self]

theorem ids_register
    (index : Nat)
    (callback : Session.Callback)
    (state : Interplay ι κ ν) :
    (state.register index callback).attempts.map Attempt.id =
      state.attempts.map Attempt.id := by
  simp only [register]
  split
  · rfl
  · next target found =>
      split
      · refine ids_set found ?_
        rw [Attempt.onSettle]
        split <;> rfl
      · rfl

theorem ids_settle
    {index : Nat}
    {target : Attempt Session.Callback}
    {state : Interplay ι κ ν}
    (found : state.attempts[index]? = some target)
    (resolver : Resolver)
    (outcome : Outcome) :
    (state.settle index resolver outcome target).attempts.map Attempt.id =
      state.attempts.map Attempt.id := by
  have same : (resolver.settle outcome target).2.1.id = target.id := by
    rw [Resolver.settle]
    split <;> rfl
  exact ids_set found same

variable [DecidableEq ι] [DecidableEq κ]

/-- Only an announcement has anything remembered. -/
theorem noMore
    (cache : Cache ι κ ν)
    (operation : Operation ι κ ν)
    (silent : operation.attempt? = none) :
    (cache.perform operation).cache.handled ⊆ cache.handled := by
  have atMost := Cache.handled_perform_subset operation cache
  rwa [silent, Option.toList_none, List.append_nil] at atMost

/-- What goes on changes no id, and has no cache remember anything. -/
theorem recalls_proceed?
    {state next : Interplay ι κ ν}
    {observed : ι}
    (proceeded : state.proceed? observed = some next) :
    next.attempts.map Attempt.id = state.attempts.map Attempt.id ∧
      state.RemembersNoMore next := by
  simp only [proceed?] at proceeded
  split at proceeded
  · cases proceeded
  · cases proceeded
    exact ⟨rfl, remembersNoMore_of_eq rfl⟩
  · cases proceeded
    exact ⟨ids_register _ _ _, remembersNoMore_of_eq (caches_register _ _ _)⟩
  · next callback _ _ _ =>
      cases proceeded
      cases callback with
      | script label steps =>
          exact ⟨rfl, remembersNoMore_of_eq rfl⟩
      | settlement index generation =>
          simp only [runCallback]
          split
          · exact ⟨rfl, remembersNoMore_of_eq rfl⟩
          · next cache found =>
              refine ⟨rfl, ?_⟩
              exact remembersNoMore_takeTurn found
                (noMore cache (.settle generation _ observed) rfl) none
  · cases proceeded
    exact ⟨rfl, remembersNoMore_of_eq rfl⟩
  · cases proceeded
    exact ⟨rfl, remembersNoMore_of_eq rfl⟩

omit [DecidableEq ι] [DecidableEq κ] in
/-- What is remembered is recalled as long as nothing more is remembered. -/
theorem Recalls.concat
    {events : List (Event ι κ ν)}
    {state next : Interplay ι κ ν}
    (recalls : Recalls events state)
    {event : Event ι κ ν}
    (ids :
      next.attempts.map Attempt.id =
        state.attempts.map Attempt.id ++ event.opened?.toList)
    (noMore : state.RemembersNoMore next) :
    Recalls (events ++ [event]) next where
  ids := by
    rw [ids, recalls.ids, openings_concat]
  remembered := by
    intro index cache found id member
    obtain ⟨earlier, foundEarlier, wasMember⟩ := noMore index cache found id member
    obtain ⟨attempt, observed, hooked, opened⟩ :=
      recalls.remembered index earlier foundEarlier id wasMember
    refine ⟨attempt, observed, List.mem_append_left _ hooked, ?_⟩
    rw [openings_concat,
      List.getElem?_append_left (List.getElem?_eq_some_iff.mp opened).1]
    exact opened

/-- A hook has the id of its attempt remembered. -/
theorem Recalls.hook
    {events : List (Event ι κ ν)}
    {state : Interplay ι κ ν}
    (recalls : Recalls events state)
    {index attempt : Nat}
    {cache : Cache ι κ ν}
    {target : Attempt Session.Callback}
    (found : state.caches[index]? = some cache)
    (foundTarget : state.attempts[attempt]? = some target)
    (observed : ι) :
    Recalls (events ++ [.hooks index attempt observed])
      (state.hook index attempt (cache.announce target.id observed)) where
  ids := by
    rw [openings_concat]
    exact recalls.ids.trans (List.append_nil _).symm
  remembered := by
    intro other ended foundOther id member
    simp only [Interplay.hook, takeTurn] at foundOther
    have same : openings (events ++ [.hooks index attempt observed]) =
        openings events := by
      rw [openings_concat]
      exact List.append_nil _
    rw [same]
    have before :
        ∀ earlier : Cache ι κ ν,
          state.caches[other]? = some earlier →
          id ∈ earlier.handled →
          ∃ attemptBefore seen,
            Event.hooks other attemptBefore seen ∈
                events ++ [.hooks index attempt observed] ∧
              (openings events)[attemptBefore]? = some id := by
      intro earlier foundEarlier wasMember
      obtain ⟨attemptBefore, seen, hooked, opened⟩ :=
        recalls.remembered other earlier foundEarlier id wasMember
      exact ⟨attemptBefore, seen, List.mem_append_left _ hooked, opened⟩
    by_cases isOwn : index = other
    · subst isOwn
      have inside := (List.getElem?_eq_some_iff.mp found).1
      rw [List.getElem?_set_self inside] at foundOther
      cases foundOther
      have atMost :=
        Cache.handled_perform_subset (.announce target.id observed) cache
      rcases List.mem_append.mp (atMost member) with wasMember | isNew
      · exact before cache found wasMember
      · have isId : id = target.id := by
          simpa [Operation.attempt?] using isNew
        refine ⟨attempt, observed, by simp, ?_⟩
        rw [← recalls.ids, List.getElem?_map, foundTarget, isId]
        rfl
    · rw [List.getElem?_set_ne isOwn] at foundOther
      exact before ended foundOther member

theorem Recalls.step?
    {events : List (Event ι κ ν)}
    {state next : Interplay ι κ ν}
    (recalls : Recalls events state)
    {event : Event ι κ ν}
    (own : event.announcesForeign = false)
    (stepped : state.step? event = some next) :
    Recalls (events ++ [event]) next := by
  cases event with
  | builds capacity page =>
      obtain ⟨built, made, rfl⟩ := Option.map_eq_some_iff.mp stepped
      refine recalls.concat (List.append_nil _).symm ?_
      intro index cache found id member
      by_cases inside : index < state.caches.length
      · rw [List.getElem?_append_left inside] at found
        exact ⟨cache, found, member⟩
      · rw [List.getElem?_append_right (Nat.le_of_not_lt inside)] at found
        have isBuilt : cache = built :=
          List.mem_singleton.mp (List.mem_of_getElem? found)
        rw [isBuilt, (Cache.handled_of_empty? made).1] at member
        cases member
  | opens id =>
      cases stepped
      refine recalls.concat ?_ (remembersNoMore_of_eq rfl)
      simp [Event.opened?, Attempt.start]
  | calls index operation =>
      obtain ⟨cache, found, rfl⟩ := Option.map_eq_some_iff.mp stepped
      have silent : operation.attempt? = none := by
        simpa [Event.announcesForeign] using own
      exact recalls.concat (List.append_nil _).symm
        (remembersNoMore_takeTurn found (noMore cache operation silent) none)
  | hooks index attempt observed =>
      obtain ⟨cache, found, accepting⟩ := Option.bind_eq_some_iff.mp stepped
      obtain ⟨target, foundTarget, rfl⟩ := Option.map_eq_some_iff.mp accepting
      exact recalls.hook found foundTarget observed
  | awaits attempt label steps =>
      cases stepped
      refine recalls.concat ?_ (remembersNoMore_of_eq (caches_register _ _ _))
      rw [ids_register]
      exact (List.append_nil _).symm
  | settles attempt resolver outcome =>
      obtain ⟨target, found, rfl⟩ := Option.map_eq_some_iff.mp stepped
      refine recalls.concat ?_ (remembersNoMore_of_eq rfl)
      rw [ids_settle found]
      exact (List.append_nil _).symm
  | proceeds observed =>
      obtain ⟨ids, noMore⟩ := recalls_proceed? stepped
      refine recalls.concat ?_ noMore
      rw [ids]
      exact (List.append_nil _).symm

/-- Whatever happens, a cache remembers ids of attempts announced to it. -/
theorem recalls_after?
    {events : List (Event ι κ ν)}
    {state : Interplay ι κ ν}
    (own : ∀ event ∈ events, event.announcesForeign = false)
    (happened : ({} : Interplay ι κ ν).after? events = some state) :
    Recalls events state := by
  induction events using List.reverseRecOn generalizing state with
  | nil =>
      cases happened
      exact ⟨rfl, fun _ _ impossible => nomatch impossible⟩
  | append_singleton events event inductionHypothesis =>
      rw [after?_append] at happened
      obtain ⟨before, reached, continued⟩ := Option.bind_eq_some_iff.mp happened
      obtain ⟨last, stepped, ended⟩ := Option.bind_eq_some_iff.mp continued
      cases ended
      have recalls :=
        inductionHypothesis
          (fun earlier member => own earlier (List.mem_append_left _ member))
          reached
      exact recalls.step? (own event (by simp)) stepped

/-- The first hook of an attempt of a sequencer is accepted. -/
theorem accepted_of_handouts
    {events : List (Event ι κ ν)}
    {state : Interplay ι κ ν}
    (happened : ({} : Interplay ι κ ν).after? events = some state)
    (own : ∀ event ∈ events, event.announcesForeign = false)
    {next : UInt64}
    {count : Nat}
    (within : count < UInt64.size)
    (handedOut : openings events = handouts next count)
    {index attempt : Nat}
    {cache : Cache ι κ ν}
    {target : Attempt Session.Callback}
    (found : state.caches[index]? = some cache)
    (foundTarget : state.attempts[attempt]? = some target)
    (first : ∀ observed, .hooks index attempt observed ∉ events)
    (observed : ι) :
    (cache.announce target.id observed).result =
      some (cache.generation + 1) := by
  have recalls := recalls_after? own happened
  have distinct : (openings events).Nodup := by
    rw [handedOut]
    exact nodup_handouts within.le next
  apply (Cache.announce_of_not_mem _ observed).1
  intro remembered
  obtain ⟨other, seen, hooked, opened⟩ :=
    recalls.remembered index cache found target.id remembered
  have openedOwn : (openings events)[attempt]? = some target.id := by
    rw [← recalls.ids, List.getElem?_map, foundTarget]
    rfl
  obtain ⟨inside, _⟩ := List.getElem?_eq_some_iff.mp openedOwn
  have same : attempt = other :=
    (List.getElem?_inj inside distinct).mp (openedOwn.trans opened.symm)
  subst same
  exact first seen hooked

end Interplay

end NavState
