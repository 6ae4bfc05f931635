import NavState.Proofs.Accounts
import NavState.Proofs.Sessions

namespace NavState.Session

/-!
# What belongs to one cache

A cache may be alone with its metrics: then they change only as it reports.

Between the moment a generation is handed out and the moment its settlement runs,
the settlement is a callback: it waits in an attempt, or whoever is about to
register or to run it holds it.  A callback is never in two places, so the
settlement runs once at most.
-/

/-- The conversations of sessions, with their accounts. -/
abbrev CellAudit := Audit PageId String String

namespace World

/-! ## Metrics that nobody else changes -/

/-- Cells keep their metrics, and metrics that were asked for are kept. -/
structure Grows (before ended : World) : Prop where
  cells :
    ∀ (index : Nat) (cell : Cell),
      before.cells[index]? = some cell →
      ∃ later,
        ended.cells[index]? = some later ∧ later.meters = cell.meters
  counters : before.counters ⊆ ended.counters
  gauges : before.gauges ⊆ ended.gauges

theorem grows_of_eq
    {before ended : World}
    (cells : ended.cells = before.cells)
    (counters : before.counters ⊆ ended.counters)
    (gauges : before.gauges ⊆ ended.gauges) :
    before.Grows ended where
  cells := by
    intro index cell found
    exact ⟨cell, by rw [cells]; exact found, rfl⟩
  counters := counters
  gauges := gauges

theorem Grows.trans
    {before between ended : World}
    (first : before.Grows between)
    (second : between.Grows ended) :
    before.Grows ended where
  cells := by
    intro index cell found
    obtain ⟨reached, foundReached, sameReached⟩ := first.cells index cell found
    obtain ⟨later, foundLater, sameLater⟩ :=
      second.cells index reached foundReached
    exact ⟨later, foundLater, sameLater.trans sameReached⟩
  counters := List.Subset.trans first.counters second.counters
  gauges := List.Subset.trans first.gauges second.gauges

theorem Apart.grows
    {before ended : World}
    (apart : before.Apart ended) :
    before.Grows ended :=
  grows_of_eq apart.cells apart.counters apart.gauges

theorem grows_record (entry : LogEntry) (world : World) :
    world.Grows (world.record entry) :=
  grows_of_eq rfl (List.Subset.refl _) (List.Subset.refl _)

theorem grows_putCache
    (index : Nat)
    (cache : Cache PageId String String)
    (world : World) :
    world.Grows (world.putCache index cache) where
  cells := by
    intro other cell found
    by_cases same : index = other
    · subst same
      exact ⟨{ cell with cache := cache }, by simp [putCache, found], rfl⟩
    · exact ⟨cell, by simp [putCache, same, found], rfl⟩
  counters := List.Subset.refl _
  gauges := List.Subset.refl _

theorem grows_enact
    {ρ : Type}
    (index : Nat)
    (cell : Cell)
    (turn : Turn PageId String String ρ)
    (world : World) :
    world.Grows (world.enact index cell turn) :=
  (grows_putCache index turn.cache world).trans
    (quiet_enact index cell turn world).grows

theorem grows_deliver
    {client : Client}
    (continues : ∀ script world, Grows world (client script world))
    (cell : Cell)
    (departures : List (Departure PageId))
    (world : World) :
    world.Grows (world.deliver client cell departures) :=
  tracked_deliver Grows Grows.trans (fun quiet => quiet.grows) grows_record
    continues cell departures world

theorem tracks_grows : Tracks Grows where
  trans := Grows.trans
  apart := Apart.grows
  turn := fun continues world index cell _ _ turn _ _ =>
    (grows_enact index cell turn world).trans
      (grows_deliver continues cell turn.departures _)
  cell := by
    intro world cell capacity page _ _
    refine ⟨?_, List.Subset.refl _, List.Subset.refl _⟩
    intro index other found
    refine ⟨other, ?_, rfl⟩
    rw [List.getElem?_append_left (List.getElem?_eq_some_iff.mp found).1]
    exact found

/-- The cell at an index has some metrics. -/
def Owns (index : Nat) (meters : Meters) (world : World) : Prop :=
  ∃ cell, world.cells[index]? = some cell ∧ cell.meters = meters

theorem Owns.of_grows
    {before ended : World}
    {index : Nat}
    {meters : Meters}
    (owns : before.Owns index meters)
    (grows : before.Grows ended) :
    ended.Owns index meters := by
  obtain ⟨cell, found, rfl⟩ := owns
  exact grows.cells index cell found

/-- Nobody but the cell at an index has one of some metrics. -/
structure Alone (index : Nat) (meters : Meters) (world : World) : Prop where
  distinct : meters.rows.Nodup
  others :
    ∀ (other : Nat) (cell : Cell),
      other ≠ index →
      world.cells[other]? = some cell →
      meters.rows.Disjoint cell.meters.rows
  named :
    ∀ meter,
      meter ∈ world.counters ∨ meter ∈ world.gauges →
      meter ∉ meters.rows

/-- The only cell is alone if no metric was asked for by name. -/
theorem alone_of_singleton
    {world : World}
    {cell : Cell}
    (only : world.cells = [cell])
    (unnamed : (world.counters, world.gauges) = ([], []))
    (distinct : cell.meters.rows.Nodup) :
    world.Alone 0 cell.meters where
  distinct := distinct
  others := by
    intro other found different isThere
    obtain ⟨other, rfl⟩ := Nat.exists_eq_succ_of_ne_zero different
    simp [only] at isThere
  named := by
    simp only [Prod.mk.injEq] at unnamed
    simp [unnamed]

/-- Who is alone in the end was alone all the time. -/
theorem Alone.of_grows
    {before ended : World}
    {index : Nat}
    {meters : Meters}
    (alone : ended.Alone index meters)
    (grows : before.Grows ended) :
    before.Alone index meters where
  distinct := alone.distinct
  others := by
    intro other cell different found
    obtain ⟨later, foundLater, same⟩ := grows.cells other cell found
    rw [← same]
    exact alone.others other later different foundLater
  named := by
    intro meter kept
    exact alone.named meter
      (kept.imp (fun counter => grows.counters counter)
        fun gauge => grows.gauges gauge)

/-- The metrics of another cell are others. -/
theorem Alone.disjoint
    {world : World}
    {index : Nat}
    {meters : Meters}
    (alone : world.Alone index meters)
    {other : Nat}
    (different : other ≠ index)
    {others : Meters}
    (owns : world.Owns other others) :
    meters.rows.Disjoint others.rows := by
  obtain ⟨cell, found, rfl⟩ := owns
  exact alone.others other cell different found

end World

/-! ## Settlements that wait -/

/-- The settlements of a cell are of the generations that they are for. -/
theorem countP_settlements
    (generations : List Nat)
    (index other generation : Nat) :
    (generations.map (Callback.settlement index)).countP
        (Callback.settles other generation) =
      if other = index then generations.count generation else 0 := by
  rw [List.countP_map]
  split
  · next same =>
      subst same
      rw [List.count]
      congr 1
      funext settled
      simp [Callback.settles, beq_eq_decide]
  · next different =>
      rw [List.countP_eq_zero]
      intro settled _
      simp [Callback.settles, Ne.symm different]

namespace World

/-- How many callbacks of attempts settle a generation of a cell. -/
def outstanding (index generation : Nat) (world : World) : Nat :=
  ((world.slots.map Slot.attempt).flatMap Attempt.callbacks).countP
    (Callback.settles index generation)

/-- What one attempt comes to have, another list of callbacks has to lose. -/
theorem countP_callbacks_set
    {attempts : List (Attempt Callback)}
    {index : Nat}
    {attempt : Attempt Callback}
    (found : attempts[index]? = some attempt)
    (changed : Attempt Callback)
    (test : Callback → Bool) :
    ((attempts.set index changed).flatMap Attempt.callbacks).countP test +
        attempt.callbacks.countP test =
      (attempts.flatMap Attempt.callbacks).countP test +
        changed.callbacks.countP test := by
  induction attempts generalizing index with
  | nil =>
      cases found
  | cons first rest inductionHypothesis =>
      cases index with
      | zero =>
          cases found
          simp only [List.set_cons_zero, List.flatMap_cons, List.countP_append]
          omega
      | succ index =>
          have others := inductionHypothesis found
          simp only [List.set_cons_succ, List.flatMap_cons, List.countP_append]
          omega

theorem outstanding_putAttempt
    {world : World}
    {place : Nat}
    {slot : Slot}
    (found : world.slots[place]? = some slot)
    (attempt : Attempt Callback)
    (index generation : Nat) :
    (world.putAttempt place attempt).outstanding index generation +
        slot.attempt.callbacks.countP (Callback.settles index generation) =
      world.outstanding index generation +
        attempt.callbacks.countP (Callback.settles index generation) := by
  rw [outstanding, outstanding, attempts_putAttempt]
  apply countP_callbacks_set
  simp [found]

/-! ## Cells that are audited -/

/--
The cell at an index has come to where an audit is, and its metrics show the
ledger.  Settlements that are held or that wait in attempts have not run yet.
-/
structure Matches
    (index : Nat)
    (meters : Meters)
    (held : List Callback)
    (audit : CellAudit)
    (world : World) :
    Prop where
  cell :
    ∃ cell,
      world.cells[index]? = some cell ∧
        cell.meters = meters ∧
        cell.cache = audit.conversation.cache
  shows : world.Shows meters audit.ledger
  once :
    ∀ generation,
      world.outstanding index generation +
          held.countP (Callback.settles index generation) ≤
        audit.waiting.count generation

theorem Matches.of_quiet
    {before ended : World}
    {index : Nat}
    {meters : Meters}
    {held : List Callback}
    {audit : CellAudit}
    (isMatch : before.Matches index meters held audit)
    (quiet : before.Quiet ended)
    (shows : ended.Shows meters audit.ledger) :
    ended.Matches index meters held audit where
  cell := by
    rw [quiet.cells]
    exact isMatch.cell
  shows := shows
  once := by
    intro generation
    rw [outstanding, quiet.attempts]
    exact isMatch.once generation

/-- Callbacks may be let go of. -/
theorem Matches.mono
    {world : World}
    {index : Nat}
    {meters : Meters}
    {held kept : List Callback}
    {audit : CellAudit}
    (isMatch : world.Matches index meters held audit)
    (fewer :
      ∀ generation,
        kept.countP (Callback.settles index generation) ≤
          held.countP (Callback.settles index generation)) :
    world.Matches index meters kept audit where
  cell := isMatch.cell
  shows := isMatch.shows
  once := by
    intro generation
    have once := isMatch.once generation
    have less := fewer generation
    omega

/--
An audit of one world goes on to the other, if the cell is alone with its
metrics, and meanwhile client code notes nothing down.  This is said of audits
that come from one origin.  What is held meanwhile becomes what is kept.
-/
structure Carries
    (origin : CellAudit)
    (index : Nat)
    (meters : Meters)
    (held kept : List Callback)
    (before ended : World) :
    Prop where
  grows : before.Grows ended
  leads :
    ended.Alone index meters →
    ∀ audit : CellAudit,
      origin.Leads audit →
      before.Matches index meters held audit →
      ∃ later : CellAudit,
        audit.Leads later ∧
          ended.Matches index meters kept later ∧
          later.conversation.due = audit.conversation.due ∧
          ended.journal.remarks = before.journal.remarks

theorem Carries.trans
    {before between ended : World}
    {origin : CellAudit}
    {index : Nat}
    {meters : Meters}
    {held kept rest : List Callback}
    (first : Carries origin index meters held kept before between)
    (second : Carries origin index meters kept rest between ended) :
    Carries origin index meters held rest before ended where
  grows := first.grows.trans second.grows
  leads := by
    intro alone audit comes isMatch
    obtain ⟨reached, leads, matchReached, same, silent⟩ :=
      first.leads (alone.of_grows second.grows) audit comes isMatch
    obtain ⟨later, continues, matchLater, sameLater, silentLater⟩ :=
      second.leads alone reached (comes.trans leads) matchReached
    exact ⟨later, leads.trans continues, matchLater, sameLater.trans same,
      silentLater.trans silent⟩

/-- An audit is not noticed to go on, if what it matches stays the same. -/
theorem carries_of_matches
    {before ended : World}
    {origin : CellAudit}
    {index : Nat}
    {meters : Meters}
    {held kept : List Callback}
    (grows : before.Grows ended)
    (silent : ended.journal.remarks = before.journal.remarks)
    (stays :
      ended.Alone index meters →
      ∀ audit : CellAudit,
        before.Matches index meters held audit →
        ended.Matches index meters kept audit) :
    Carries origin index meters held kept before ended where
  grows := grows
  leads := fun alone audit _ isMatch =>
    ⟨audit, .refl audit, stays alone audit isMatch, rfl, silent⟩

theorem carries_drop
    {origin : CellAudit}
    {index : Nat}
    {meters : Meters}
    {held kept : List Callback}
    (fewer :
      ∀ generation,
        kept.countP (Callback.settles index generation) ≤
          held.countP (Callback.settles index generation))
    (world : World) :
    Carries origin index meters held kept world world :=
  carries_of_matches (tracks_grows.refl world) rfl
    fun _ _ isMatch => isMatch.mono fewer

theorem Still.carries
    {before ended : World}
    (still : before.Still ended)
    {origin : CellAudit}
    (index : Nat)
    (meters : Meters)
    (held : List Callback) :
    Carries origin index meters held held before ended :=
  carries_of_matches still.grows still.remarks fun _ _ isMatch =>
    isMatch.of_quiet still.toQuiet (isMatch.shows.of_keeps still.words)

/-- What is logged is not seen in an audit. -/
theorem carries_log
    {origin : CellAudit}
    (log : List LogEntry)
    (index : Nat)
    (meters : Meters)
    (held : List Callback)
    (world : World) :
    Carries origin index meters held held world { world with log := log } :=
  carries_of_matches
    (grows_of_eq rfl (List.Subset.refl _) (List.Subset.refl _)) rfl
    fun _ _ isMatch =>
      ⟨isMatch.cell, ⟨isMatch.shows.counts, isMatch.shows.pages⟩, isMatch.once⟩

theorem carries_record
    {origin : CellAudit}
    (entry : LogEntry)
    (index : Nat)
    (meters : Meters)
    (held : List Callback)
    (world : World) :
    Carries origin index meters held held world (world.record entry) :=
  carries_log (world.log ++ [entry]) index meters held world

/-- What is told in the journal is not seen in an audit. -/
theorem carries_note
    {origin : CellAudit}
    {entry : Journal → Journal}
    {world : World}
    (silent : (entry world.journal).remarks = world.journal.remarks)
    (index : Nat)
    (meters : Meters)
    (held : List Callback) :
    Carries origin index meters held held world (world.note entry) :=
  carries_of_matches
    (grows_of_eq rfl (List.Subset.refl _) (List.Subset.refl _)) silent
    fun _ _ isMatch =>
      ⟨isMatch.cell, ⟨isMatch.shows.counts, isMatch.shows.pages⟩, isMatch.once⟩

/-- Whoever changes metrics of another cell is not noticed. -/
theorem carries_change
    {world : World}
    {origin : CellAudit}
    {index : Nat}
    {meters : Meters}
    {meter : Meter}
    (other : world.Alone index meters → meter ∉ meters.rows)
    (change : Metric.Change)
    (held : List Callback) :
    Carries origin index meters held held world (world.change meter change) := by
  have quiet := quiet_change meter change world
  refine carries_of_matches quiet.grows quiet.remarks fun alone audit isMatch => ?_
  exact isMatch.of_quiet quiet
    (isMatch.shows.change (other (alone.of_grows quiet.grows)) change)

/-- Callbacks that are held may wait in an attempt, and the other way around. -/
theorem carries_putAttempt
    {world : World}
    {origin : CellAudit}
    {index : Nat}
    {meters : Meters}
    {place : Nat}
    {slot : Slot}
    (found : world.slots[place]? = some slot)
    {attempt : Attempt Callback}
    {held kept : List Callback}
    (same :
      ∀ test,
        attempt.callbacks.countP test + kept.countP test =
          slot.attempt.callbacks.countP test + held.countP test) :
    Carries origin index meters held kept world (world.putAttempt place attempt) := by
  refine carries_of_matches
    (grows_of_eq rfl (List.Subset.refl _) (List.Subset.refl _)) rfl ?_
  intro _ audit isMatch
  refine ⟨isMatch.cell, ⟨isMatch.shows.counts, isMatch.shows.pages⟩, ?_⟩
  intro generation
  have once := isMatch.once generation
  have changed := outstanding_putAttempt found attempt index generation
  have moved := same (Callback.settles index generation)
  omega

end World

end NavState.Session
