import NavState.Proofs.Custody

namespace NavState.Session

/-!
# What sessions export

The calls of a cache of a session make up a conversation that can be audited,
whatever is called back meanwhile.  If the cache is alone with its metrics, they
show the ledger of the audit.
-/

namespace World

/-- Whoever audits the cell goes on with it, whatever is held meanwhile. -/
abbrev StaysAudited
    (origin : CellAudit)
    (index : Nat)
    (meters : Meters) :
    World → World → Prop :=
  Stays (Carries origin index meters)

/-- A call with nothing left to announce returns. -/
theorem leads_returns
    {audit : CellAudit}
    {outer : List (List (Notice PageId String String))}
    (due : audit.conversation.due = [] :: outer) :
    audit.Leads
      { audit with conversation := { audit.conversation with due := outer } } := by
  have returned :
      audit.conversation.step? .returns =
        some { audit.conversation with due := outer } := by
    simp only [Conversation.step?, due]
  have stepped :
      audit.step? .returns =
        some
          { audit with
            conversation := { audit.conversation with due := outer } } := by
    rw [Audit.step?, returned]
    rfl
  exact .of_step? stepped

/-- An announcement that is due is counted in the ledger as it is in the metrics. -/
theorem Matches.announce
    {world : World}
    {index : Nat}
    {meters : Meters}
    {held : List Callback}
    {audit : CellAudit}
    (isMatch : world.Matches index meters held audit)
    (distinct : meters.rows.Nodup)
    {cell : Cell}
    (own : cell.meters = meters)
    {notice : Notice PageId String String}
    {rest : List (Notice PageId String String)}
    {outer : List (List (Notice PageId String String))}
    (due : audit.conversation.due = (notice :: rest) :: outer) :
    ∃ next : CellAudit,
      audit.Leads next ∧
        (world.counting cell notice.departure).Matches index meters held next ∧
        next.conversation.due = rest :: outer := by
  let told : Conversation PageId String String :=
    { audit.conversation with
      due := rest :: outer
      announced := audit.conversation.announced ++ [notice] }
  let next : CellAudit := { audit with conversation := told, ledger := audit.heard }
  have stepped : audit.step? .announces = some next := by
    have announced : audit.conversation.step? .announces = some told := by
      simp only [Conversation.step?, due, told]
    rw [Audit.step?, announced]
    rfl
  have heard : audit.heard = audit.ledger.hear notice.departure := by
    simp only [Audit.heard, due]
  have quiet := quiet_counting cell notice.departure world
  refine ⟨next, .of_step? stepped, ⟨?_, ?_, ?_⟩, rfl⟩
  · rw [quiet.cells]
    exact isMatch.cell
  · simp only [next, heard, counting, Ledger.hear, Departure.evicts,
      decide_eq_true_eq, own]
    split
    · exact isMatch.shows.increase distinct .evict
    · exact isMatch.shows
  · intro generation
    rw [outstanding, quiet.attempts]
    exact isMatch.once generation

/-- What a turn reports is filed as the metrics show it. -/
theorem Shows.enact
    {world : World}
    {cell : Cell}
    {ledger : Ledger}
    (shows : world.Shows cell.meters ledger)
    (distinct : cell.meters.rows.Nodup)
    (place : Nat)
    {ρ : Type}
    (turn : Turn PageId String String ρ) :
    (world.enact place cell turn).Shows cell.meters
      (ledger.enter turn.reports) := by
  have filed (reports : List (Report PageId))
      {world : World}
      {ledger : Ledger}
      (shows : world.Shows cell.meters ledger) :
      (reports.foldl (World.file cell.meters) world).Shows cell.meters
        (ledger.enter reports) := by
    induction reports generalizing world ledger with
    | nil =>
        exact shows
    | cons report rest inductionHypothesis =>
        exact inductionHypothesis (shows.file distinct report)
  exact filed turn.reports ⟨shows.counts, shows.pages⟩

/-- A turn of the cell is a call, which files what the metrics come to show. -/
theorem Matches.call
    {world : World}
    {index : Nat}
    {held kept : List Callback}
    {audit : CellAudit}
    {cell : Cell}
    (isMatch : world.Matches index cell.meters held audit)
    (distinct : cell.meters.rows.Nodup)
    (found : world.cells[index]? = some cell)
    {ρ : Type}
    {turn : Turn PageId String String ρ}
    {operation : Operation PageId String String}
    (takes : Takes audit.conversation.cache operation turn)
    (waiting : List Nat)
    (once :
      ∀ generation,
        world.outstanding index generation +
            kept.countP (Callback.settles index generation) ≤
          (audit.call operation waiting).waiting.count generation) :
    (world.enact index cell turn).Matches index cell.meters kept
      (audit.call operation waiting) := by
  have quiet := quiet_enact index cell turn world
  refine ⟨⟨{ cell with cache := turn.cache }, ?_, rfl, takes.cache⟩, ?_, ?_⟩
  · rw [quiet.cells]
    simp [putCache, found]
  · have shows := isMatch.shows.enact distinct index turn
    rw [takes.reports] at shows
    exact shows
  · intro generation
    have attempts :
        (world.enact index cell turn).outstanding index generation =
          world.outstanding index generation := by
      rw [outstanding, quiet.attempts]
      rfl
    rw [attempts]
    exact once generation

section Clients

variable
  {origin : CellAudit}
  {index : Nat}
  {meters : Meters}
  {client : Client}
  (continues :
    ∀ script world,
      StaysAudited origin index meters world (client script world))

include continues

theorem grows_client (script : Script) (world : World) :
    world.Grows (client script world) :=
  (continues script world []).grows

/-! ### Turns of the cell -/

/-- Whatever is due is announced, and the evictions among it are counted. -/
theorem audited_deliver
    {cell : Cell}
    (own : cell.meters = meters)
    {held : List Callback}
    {outer : List (List (Notice PageId String String))}
    {notices : List (Notice PageId String String)}
    {world : World}
    {audit : CellAudit}
    (comes : origin.Leads audit)
    (isMatch : world.Matches index meters held audit)
    (due : audit.conversation.due = notices :: outer)
    (alone :
      (world.deliver client cell
        (notices.map Notice.departure)).Alone index meters) :
    ∃ later : CellAudit,
      audit.Leads later ∧
        (world.deliver client cell (notices.map Notice.departure)).Matches index
          meters held later ∧
        later.conversation.due = [] :: outer ∧
        (world.deliver client cell
            (notices.map Notice.departure)).journal.remarks =
          world.journal.remarks := by
  induction notices generalizing world audit with
  | nil =>
      exact ⟨audit, .refl audit, isMatch, due, rfl⟩
  | cons notice rest inductionHypothesis =>
      let delivered := world.deliverOne client cell notice.departure
      have goesOn :
          delivered.Grows
            (delivered.deliver client cell (rest.map Notice.departure)) :=
        grows_deliver (grows_client continues) cell _ delivered
      obtain ⟨next, leads, matchNext, dueNext⟩ :=
        isMatch.announce alone.distinct own due
      have answered :
          Carries origin index meters held held (world.counting cell notice.departure)
            delivered := by
        simp only [delivered, deliverOne_counting]
        split
        · exact carries_drop (fun _ => Nat.le_refl _) _
        · exact (carries_record _ index meters held _).trans
            (continues _ _ held)
      obtain ⟨reached, answers, matchReached, dueReached, silent⟩ :=
        answered.leads (alone.of_grows goesOn) next (comes.trans leads) matchNext
      obtain ⟨later, leadsLater, matchLater, dueLater, silentLater⟩ :=
        inductionHypothesis (comes.trans (leads.trans answers)) matchReached
          (dueReached.trans dueNext) alone
      have counted := (quiet_counting cell notice.departure world).remarks
      exact ⟨later, leads.trans (answers.trans leadsLater), matchLater, dueLater,
        silentLater.trans (silent.trans counted)⟩

/--
A turn of the cell is a call of its conversation, and what left during it is
announced.  A settlement may run if it is held.
-/
theorem carries_takeTurn
    {world : World}
    {cell : Cell}
    (found : world.cells[index]? = some cell)
    {ρ : Type}
    {turn : Turn PageId String String ρ}
    {operation : Operation PageId String String}
    (takes : Takes cell.cache operation turn)
    {held kept : List Callback}
    (released :
      ∀ audit : CellAudit,
        world.Matches index meters held audit →
        ∃ waiting,
          operation.release? audit.waiting = some waiting ∧
            ∀ generation,
              world.outstanding index generation +
                  kept.countP (Callback.settles index generation) ≤
                (waiting ++
                  (cell.cache.perform operation).result.generation?.toList).count
                  generation) :
    Carries origin index meters held kept world
      (world.takeTurn client index cell turn) where
  grows :=
    (grows_enact index cell turn world).trans
      (grows_deliver (grows_client continues) cell turn.departures _)
  leads := by
    intro alone audit comes isMatch
    obtain ⟨waiting, releases, once⟩ := released audit isMatch
    obtain ⟨same, foundSame, own, cache⟩ := isMatch.cell
    rw [found] at foundSame
    cases foundSame
    subst own
    rw [cache] at takes once
    let call := audit.conversation.nextCall operation
    let notices : List (Notice PageId String String) :=
      call.turn.departures.map fun departure => ⟨departure, call⟩
    have stepped :
        audit.step? (.calls operation) = some (audit.call operation waiting) := by
      rw [Audit.step?, releases]
      rfl
    have called := isMatch.call alone.distinct found takes waiting once
    have filed := (quiet_enact index cell turn world).remarks
    have left : notices.map Notice.departure = turn.departures := by
      rw [takes.departures]
      simp [notices, call, Conversation.nextCall, Call.turn, Function.comp_def]
    rw [takeTurn, ← left] at alone ⊢
    have leadsCalled := Audit.Leads.of_step? stepped
    obtain ⟨told, leads, matchTold, due, silent⟩ :=
      audited_deliver continues rfl (comes.trans leadsCalled) called rfl alone
    exact ⟨_, leadsCalled.trans (leads.trans (leads_returns due)),
      ⟨matchTold.cell, matchTold.shows, matchTold.once⟩, rfl, silent.trans filed⟩

/-! ### Turns of other cells -/

omit continues in
/-- What another cell reports is filed in its own metrics. -/
theorem carries_file
    {world : World}
    {other : Nat}
    (different : other ≠ index)
    {others : Meters}
    (owns : world.Owns other others)
    (report : Report PageId)
    (held : List Callback) :
    Carries origin index meters held held world (world.file others report) := by
  have foreign {meter : Meter} (member : meter ∈ others.rows) :
      world.Alone index meters → meter ∉ meters.rows :=
    fun alone isOwn => alone.disjoint different owns isOwn member
  cases report with
  | count tally =>
      exact carries_change (foreign (others.tally_mem_rows tally)) _ held
  | size pages =>
      exact carries_change (foreign others.pages_mem_rows) _ held
  | note note =>
      exact (still_trace _ world).carries index meters held

omit continues in
theorem carries_enact
    {world : World}
    {other : Nat}
    (different : other ≠ index)
    {cell : Cell}
    (owns : world.Owns other cell.meters)
    {ρ : Type}
    (turn : Turn PageId String String ρ)
    (held : List Callback) :
    Carries origin index meters held held world (world.enact other cell turn) := by
  have stored :
      Carries origin index meters held held world
        (world.putCache other turn.cache) := by
    refine carries_of_matches (grows_putCache other turn.cache world) rfl ?_
    intro _ audit isMatch
    refine ⟨?_, ⟨isMatch.shows.counts, isMatch.shows.pages⟩, isMatch.once⟩
    obtain ⟨own, foundOwn, same⟩ := isMatch.cell
    exact ⟨own, by simp [putCache, different, foundOwn], same⟩
  have filed (reports : List (Report PageId))
      {world : World}
      (owns : world.Owns other cell.meters) :
      Carries origin index meters held held world
        (reports.foldl (file cell.meters) world) := by
    induction reports generalizing world with
    | nil =>
        exact carries_drop (fun _ => Nat.le_refl _) world
    | cons report rest inductionHypothesis =>
        have reported :
            Carries origin index meters held held world
              (world.file cell.meters report) :=
          carries_file different owns report held
        exact reported.trans (inductionHypothesis (owns.of_grows reported.grows))
  exact stored.trans (filed turn.reports (owns.of_grows stored.grows))

theorem carries_deliver
    {other : Nat}
    (different : other ≠ index)
    {cell : Cell}
    (departures : List (Departure PageId))
    (held : List Callback)
    {world : World}
    (owns : world.Owns other cell.meters) :
    Carries origin index meters held held world
      (world.deliver client cell departures) := by
  induction departures generalizing world with
  | nil =>
      exact carries_drop (fun _ => Nat.le_refl _) world
  | cons departure rest inductionHypothesis =>
      have counted :
          Carries origin index meters held held world
            (world.counting cell departure) := by
        rw [counting]
        split
        · refine carries_change ?_ _ held
          exact fun alone isOwn =>
            alone.disjoint different owns isOwn (cell.meters.tally_mem_rows .evict)
        · exact carries_drop (fun _ => Nat.le_refl _) world
      have delivered :
          Carries origin index meters held held world
            (world.deliverOne client cell departure) := by
        rw [deliverOne_counting]
        split
        · exact counted
        · exact (counted.trans (carries_record _ index meters held _)).trans
            (continues _ _ held)
      exact delivered.trans
        (inductionHypothesis (owns.of_grows delivered.grows))

theorem carries_takeTurn_of_ne
    {world : World}
    {other : Nat}
    (different : other ≠ index)
    {cell : Cell}
    (found : world.cells[other]? = some cell)
    {ρ : Type}
    (turn : Turn PageId String String ρ)
    (held : List Callback) :
    Carries origin index meters held held world
      (world.takeTurn client other cell turn) :=
  have owns : world.Owns other cell.meters := ⟨cell, found, rfl⟩
  have enacted :
      Carries origin index meters held held world (world.enact other cell turn) :=
    carries_enact different owns turn held
  enacted.trans
    (carries_deliver continues different turn.departures held
      (owns.of_grows enacted.grows))

/-! ### Settlements -/

/-- A settlement that is held runs, and is held no longer. -/
theorem carries_settles
    {world : World}
    {place : Nat}
    {cell : Cell}
    (found : world.cells[place]? = some cell)
    (generation : Nat)
    (outcome : Outcome)
    (held : List Callback) :
    Carries origin index meters (.settlement place generation :: held) held world
      (world.takeTurn client place cell
        (cell.cache.settle generation outcome (world.observed cell))) := by
  by_cases own : place = index
  · subst own
    refine carries_takeTurn continues found
      (⟨rfl, rfl, rfl⟩ :
        Takes cell.cache
          (.settle generation outcome (world.observed cell)) _) ?_
    intro audit isMatch
    have runs (other : Nat) :
        (Callback.settlement place generation).settles place other =
          decide (generation = other) := by
      simp [Callback.settles]
    have waits : generation ∈ audit.waiting := by
      have once := isMatch.once generation
      rw [List.countP_cons_of_pos (by simp [runs])] at once
      exact List.count_pos_iff.mp (by omega)
    refine ⟨audit.waiting.erase generation, by
      rw [Operation.release?, if_pos waits], fun other => ?_⟩
    have once := isMatch.once other
    have before := (List.perm_cons_erase waits).count_eq other
    simp only [List.countP_cons, runs, decide_eq_true_eq] at once
    rw [List.count_cons] at before
    have nothing :
        (cell.cache.perform
            (.settle generation outcome
              (world.observed cell))).result.generation? =
          none :=
      rfl
    rw [nothing, Option.toList_none, List.append_nil]
    simp only [beq_iff_eq] at before
    omega
  · have dropped :
        Carries origin index meters (.settlement place generation :: held) held world
          world := by
      refine carries_drop (fun other => ?_) world
      exact (List.sublist_cons_self _ held).countP_le
    exact dropped.trans (carries_takeTurn_of_ne continues own found _ held)

/-! ### Announcements of attempts -/

/-- Whoever announces an attempt that is accepted holds its settlement. -/
theorem carries_accept
    {world : World}
    {place : Nat}
    {cell : Cell}
    (found : world.cells[place]? = some cell)
    (attempt : Option Nat)
    (id : UInt64)
    (held : List Callback) :
    let accepted := world.accept client place cell attempt id
    Carries origin index meters held
      (accepted.1.toList.map (Callback.settlement place) ++ held) world
      accepted.2 := by
  intro accepted
  have noted :
      Carries origin index meters held held world
        (world.noteAccepted place attempt accepted.1) := by
    simp only [noteAccepted]
    split
    · exact carries_drop (fun _ => Nat.le_refl _) world
    · refine carries_note ?_ index meters held
      cases attempt <;> rfl
  have foundStill :
      (world.noteAccepted place attempt accepted.1).cells[place]? = some cell := by
    simp only [noteAccepted]
    split <;> exact found
  refine noted.trans ?_
  by_cases own : place = index
  · subst own
    refine carries_takeTurn continues foundStill
      (⟨rfl, rfl, rfl⟩ :
        Takes cell.cache (.announce id (world.observed cell)) _) ?_
    intro audit isMatch
    refine ⟨audit.waiting, rfl, fun generation => ?_⟩
    have once := isMatch.once generation
    rw [List.countP_append, List.count_append, countP_settlements, if_pos rfl]
    change _ ≤ _ + accepted.1.toList.count generation
    omega
  · refine (carries_takeTurn_of_ne continues own foundStill _ held).trans
      (carries_drop (fun generation => ?_) _)
    rw [List.countP_append, countP_settlements, if_neg (Ne.symm own),
      Nat.zero_add]

end Clients

/-- Whoever holds a callback, an audit of a cell goes on. -/
theorem tracksWaiting_carries
    (origin : CellAudit)
    (index : Nat)
    (meters : Meters) :
    TracksWaiting (Carries origin index meters) where
  trans := Carries.trans
  drop := fun fewer world => carries_drop (fewer index) world
  still := fun still held => still.carries index meters held
  settles := carries_settles
  hosts := fun continues _ _ _ found id held =>
    carries_accept continues found none id held
  accepts := fun continues _ _ _ found attempt id held =>
    carries_accept continues found (some attempt) id held
  puts := fun found _ _ _ same => carries_putAttempt found same

/-- Calls that stand alone go on with an audit. -/
theorem tracksSteps_staysAudited
    (origin : CellAudit)
    (index : Nat)
    (meters : Meters) :
    TracksSteps (StaysAudited origin index meters) where
  trans := fun first second held => (first held).trans (second held)
  change := fun kept change held =>
    carries_change (fun alone => alone.named _ kept) change held
  call := by
    intro client continues world place cell found ρ turn operation takes alone
      held
    by_cases own : place = index
    · subst own
      refine carries_takeTurn continues found takes fun audit isMatch => ?_
      refine ⟨audit.waiting, ?_, fun generation => ?_⟩
      · cases operation with
        | settle generation outcome observed =>
            cases alone
        | _ =>
            rfl
      · rw [List.count_append]
        exact (isMatch.once generation).trans (Nat.le_add_right _ _)
    · exact carries_takeTurn_of_ne continues own found turn held
  cell := by
    intro world cell capacity page built numbered held
    refine carries_of_matches (tracks_grows.cell world built numbered) rfl ?_
    intro _ audit isMatch
    refine ⟨?_, ⟨isMatch.shows.counts, isMatch.shows.pages⟩, isMatch.once⟩
    obtain ⟨own, found, same⟩ := isMatch.cell
    refine ⟨own, ?_, same⟩
    rw [List.getElem?_append_left (List.getElem?_eq_some_iff.mp found).1]
    exact found

/-- Whatever happens in a world, an audit of a cell goes on. -/
theorem tracks_staysAudited
    (origin : CellAudit)
    (index : Nat)
    (meters : Meters) :
    TracksAttempts (StaysAudited origin index meters) := by
  refine (tracksWaiting_carries origin index meters).attempts
    (tracksSteps_staysAudited origin index meters) fun id resolver world held => ?_
  refine carries_of_matches
    (grows_of_eq rfl (List.Subset.refl _) (List.Subset.refl _)) rfl ?_
  intro _ audit isMatch
  refine ⟨isMatch.cell, ⟨isMatch.shows.counts, isMatch.shows.pages⟩, ?_⟩
  intro generation
  have none : (Attempt.start id : Attempt Callback).callbacks = [] := rfl
  have same :
      World.outstanding index generation
          { world with
            slots := world.slots ++ [Slot.mk (Attempt.start id) resolver] } =
        world.outstanding index generation := by
    simp [outstanding, none]
  rw [same]
  exact isMatch.once generation

/-- A cache has just been built, and nobody has changed its metrics yet. -/
structure Opens
    (index : Nat)
    (meters : Meters)
    (fresh : Cache PageId String String)
    (world : World) :
    Prop where
  isNew : ∃ capacity page, Cache.empty? capacity page = some fresh
  cell :
    ∃ cell,
      world.cells[index]? = some cell ∧
        cell.meters = meters ∧
        cell.cache = fresh
  zero : ∀ meter ∈ meters.rows, world.word? meter = some 0
  /-- No attempt has a settlement of the cache among its callbacks. -/
  unawaited : ∀ generation, world.outstanding index generation = 0

theorem Opens.matches
    {world : World}
    {index : Nat}
    {meters : Meters}
    {fresh : Cache PageId String String}
    (opens : world.Opens index meters fresh) :
    world.Matches index meters [] (Audit.start fresh) where
  cell := opens.cell
  shows :=
    ⟨fun tally => opens.zero _ (meters.tally_mem_rows tally),
      opens.zero _ meters.pages_mem_rows⟩
  once := by
    intro generation
    rw [opens.unawaited]
    exact Nat.le_refl 0

/-! ## Client code that looks around -/

/--
The metrics of a cell show the ledger of an audit that leads from the new cache to
where the cache is.  Calls may be open in it.
-/
def AccountsFor
    (index : Nat)
    (meters : Meters)
    (fresh : Cache PageId String String)
    (world : World) :
    Prop :=
  ∃ (audit : CellAudit) (cell : Cell),
    (Audit.start fresh).Leads audit ∧
      world.cells[index]? = some cell ∧
      cell.meters = meters ∧
      cell.cache = audit.conversation.cache ∧
      world.Shows meters audit.ledger

open Classical in
/-- Client code looks around and notes it down if things are not as it expects. -/
noncomputable def look (expected : World → Prop) (world : World) : World :=
  if expected world then
    world
  else
    world.note fun journal =>
      { journal with remarks := journal.remarks ++ ["unexpected"] }

/-- An audit goes on where client code looks around. -/
theorem staysAudited_look
    (index : Nat)
    (meters : Meters)
    (fresh : Cache PageId String String)
    (world : World) :
    StaysAudited (.start fresh) index meters world
      (world.look (AccountsFor index meters fresh)) := by
  intro held
  by_cases expected : world.AccountsFor index meters fresh
  · rw [look, if_pos expected]
    exact carries_drop (fun _ => Nat.le_refl _) world
  · rw [look, if_neg expected]
    refine ⟨grows_of_eq rfl (List.Subset.refl _) (List.Subset.refl _), ?_⟩
    intro _ audit comes isMatch
    obtain ⟨cell, found, own, cache⟩ := isMatch.cell
    exact absurd ⟨audit, cell, comes, found, own, cache, isMatch.shows⟩ expected

end World

/--
Client code that runs its scripts like any other, and that looks around when it is
called and after every step.
-/
noncomputable def inspecting (expected : World → Prop) : Nat → Client
  | 0, _, world => world.look expected
  | depth + 1, script, world =>
      script.foldl
        (fun world step =>
          let (reply, world) :=
            (perform (inspecting expected depth) step.2).reply world
          (world.record (.performed step.1 reply)).look expected)
        (world.look expected)

/-- The world after the commands of a session whose client code looks around. -/
noncomputable def inspectedAfter
    (expected : World → Prop)
    (depth : Nat)
    (commands : List Command)
    (world : World) :
    World :=
  commands.foldl
    (fun world command =>
      ((perform (inspecting expected depth) command).reply
        { world with log := [] }).2)
    world

/-- Client code that finds what it expects everywhere is like any other. -/
theorem inspecting_eq
    {expected : World → Prop}
    (always : ∀ world, expected world)
    (depth : Nat) :
    inspecting expected depth = runScript depth := by
  have looks (world : World) : world.look expected = world := if_pos (always world)
  induction depth with
  | zero =>
      funext script world
      exact looks world
  | succ depth inductionHypothesis =>
      funext script world
      simp only [inspecting, runScript, looks, inductionHypothesis]

theorem inspectedAfter_eq
    {expected : World → Prop}
    (always : ∀ world, expected world)
    (depth : Nat)
    (commands : List Command)
    (world : World) :
    inspectedAfter expected depth commands world =
      worldAfter depth commands world := by
  simp only [inspectedAfter, inspecting_eq always, worldAfter, performTop]

/-! ## Whole sessions -/

/-- An audit goes on whatever client code does that looks around. -/
theorem staysAudited_inspecting
    (index : Nat)
    (meters : Meters)
    (fresh : Cache PageId String String)
    (depth : Nat)
    (script : Script)
    (world : World) :
    World.StaysAudited (.start fresh) index meters world
      (inspecting (World.AccountsFor index meters fresh) depth script world) := by
  have tracks := World.tracks_staysAudited (.start fresh) index meters
  have looks := World.staysAudited_look index meters fresh
  induction depth generalizing script world with
  | zero =>
      exact looks world
  | succ depth inductionHypothesis =>
      refine tracks.trans (looks world)
        (World.tracked_foldl tracks.toTracksCalls ?_ script _)
      intro world step
      have performed :=
        tracked_reply
          (tracked_perform tracks.tasks inductionHypothesis step.2 world)
      have logged (entry : LogEntry) (world : World) :
          World.StaysAudited (.start fresh) index meters world
            (world.record entry) :=
        fun held => World.carries_record entry index meters held world
      exact tracks.trans performed (tracks.trans (logged _ _) (looks _))

theorem staysAudited_worldAfter
    (origin : CellAudit)
    (index : Nat)
    (meters : Meters)
    (depth : Nat)
    (commands : List Command)
    (world : World) :
    World.StaysAudited origin index meters world
      (worldAfter depth commands world) := by
  have emptied (world : World) :
      World.StaysAudited origin index meters world { world with log := [] } :=
    fun held => World.carries_log [] index meters held world
  exact tracked_worldAfter (World.tracks_staysAudited origin index meters).tasks
    emptied depth commands world

/--
What a session exports for a cache that is alone with its metrics is the ledger
of an audit that leads from the new cache to where the cache is.
-/
theorem audit_worldAfter
    {world : World}
    {index : Nat}
    {meters : Meters}
    {fresh : Cache PageId String String}
    (opens : world.Opens index meters fresh)
    {depth : Nat}
    {commands : List Command}
    (alone : (worldAfter depth commands world).Alone index meters) :
    ∃ (audit : CellAudit) (cell : Cell),
      (Audit.start fresh).Leads audit ∧
        audit.conversation.due = [] ∧
        (worldAfter depth commands world).cells[index]? = some cell ∧
        cell.cache = audit.conversation.cache ∧
        (worldAfter depth commands world).Shows meters audit.ledger := by
  have carries :=
    staysAudited_worldAfter (.start fresh) index meters depth commands world []
  obtain ⟨audit, leads, isMatch, due, _⟩ :=
    carries.leads alone (Audit.start fresh) (.refl _) opens.matches
  obtain ⟨cell, found, _, cache⟩ := isMatch.cell
  exact ⟨audit, cell, leads, due, found, cache, isMatch.shows⟩

/-- Client code that looks around finds nothing that it does not expect. -/
theorem remarks_inspectedAfter
    {world : World}
    {index : Nat}
    {meters : Meters}
    {fresh : Cache PageId String String}
    (opens : world.Opens index meters fresh)
    {depth : Nat}
    {commands : List Command}
    (alone :
      (inspectedAfter (World.AccountsFor index meters fresh) depth commands
        world).Alone index meters) :
    (inspectedAfter (World.AccountsFor index meters fresh) depth commands
        world).journal.remarks =
      world.journal.remarks := by
  have tracks := World.tracks_staysAudited (.start fresh) index meters
  have inspected :
      World.StaysAudited (.start fresh) index meters world
        (inspectedAfter (World.AccountsFor index meters fresh) depth commands
          world) := by
    refine World.tracked_foldl tracks.toTracksCalls ?_ commands world
    intro world command
    have logged :
        World.StaysAudited (.start fresh) index meters world
          { world with log := [] } :=
      fun held => World.carries_log [] index meters held world
    have performed :=
      tracked_reply
        (tracked_perform tracks.tasks
          (staysAudited_inspecting index meters fresh depth) command
          { world with log := [] })
    exact tracks.trans logged performed
  obtain ⟨_, _, _, _, silent⟩ :=
    (inspected []).leads alone (Audit.start fresh) (.refl _) opens.matches
  exact silent

end NavState.Session

namespace NavState.Audit

variable {ι κ ν : Type} [DecidableEq ι] [DecidableEq κ]

/--
The metrics account for the cache.  At every moment of a conversation, also in
the middle of nested calls: the transitions are those that were committed, those
that were discarded, and the one in flight, if there is one; no more settlements
came late than transitions were discarded; and the number of pages is that of
the table.  What is counted is what the calls count themselves, of which a
settlement counts exactly one commit, discard or late settlement, and an
announcement exactly one transition or duplicate.  Whenever no call is open, as
many evictions are counted as pages were evicted from the table.

And what a session exports for a new cache that is alone with its metrics is the
ledger of such a conversation, whatever the commands of the session call back.
Client code that looks at the cache and its metrics whenever it is called, however
deep calls nest, and after every step that it takes, never finds anything else.
Such code is that of any other session as long as it expects whatever it finds.
-/
theorem metrics_account_for_cache
    {capacity : Nat}
    {page : ι}
    {fresh : Cache ι κ ν}
    (built : Cache.empty? capacity page = some fresh)
    {moments : List (Moment ι κ ν)}
    {audit : Audit ι κ ν}
    (happened : (start fresh).after? moments = some audit) :
    (audit.ledger.count .transition =
        audit.ledger.count .commit + audit.ledger.count .discard +
          audit.conversation.cache.isTransitioning.toNat ∧
      audit.ledger.count .stale ≤ audit.ledger.count .discard ∧
      audit.ledger.pages = audit.conversation.cache.table.size) ∧
    ((∀ tally,
        tally ≠ .evict →
        audit.ledger.count tally =
          (audit.conversation.calls.flatMap fun call =>
            call.turn.reports).countP (Report.counts tally)) ∧
      (∀ call ∈ audit.conversation.calls,
        ∀ generation outcome observed,
          call.operation = .settle generation outcome observed →
          call.raises .commit + call.raises .discard + call.raises .stale = 1) ∧
      ∀ call ∈ audit.conversation.calls,
        ∀ attempt observed,
          call.operation = .announce attempt observed →
          call.raises .transition + call.raises .duplicate = 1) ∧
    (audit.conversation.due = [] →
      audit.ledger.count .evict =
        (audit.conversation.calls.flatMap Call.evicted).length) ∧
    (∀ (index : Nat)
        (meters : Session.Meters)
        (opened : Cache PageId String String)
        (world : Session.World)
        (depth : Nat)
        (commands : List Session.Command),
      world.Opens index meters opened →
      (Session.worldAfter depth commands world).Alone index meters →
      ∃ (exported : Session.CellAudit) (cell : Session.Cell),
        (start opened).Leads exported ∧
          exported.conversation.due = [] ∧
          (Session.worldAfter depth commands world).cells[index]? = some cell ∧
          cell.cache = exported.conversation.cache ∧
          (Session.worldAfter depth commands world).Shows meters
            exported.ledger) ∧
    (∀ (index : Nat)
        (meters : Session.Meters)
        (opened : Cache PageId String String)
        (world : Session.World)
        (depth : Nat)
        (commands : List Session.Command),
      world.Opens index meters opened →
      let ended :=
        Session.inspectedAfter (Session.World.AccountsFor index meters opened) depth
          commands world
      ended.Alone index meters →
      ended.journal.remarks = world.journal.remarks) ∧
    ∀ (expected : Session.World → Prop)
        (depth : Nat)
        (commands : List Session.Command)
        (world : Session.World),
      (∀ world, expected world) →
      Session.inspectedAfter expected depth commands world =
        Session.worldAfter depth commands world := by
  have freshSound := Cache.sound_of_empty? built
  have sound := sound_of_after? built happened
  refine ⟨⟨sound.flights, (Nat.le_add_right _ _).trans sound.late, sound.pages⟩,
    ⟨sound.counts, ?_, ?_⟩, ?_, ?_, ?_, ?_⟩
  · intro call member
    exact (sound.reported freshSound member).settlements
  · intro call member
    exact (sound.reported freshSound member).announcements
  · intro quiet
    have evictions := sound.evictions
    rw [quiet, List.flatten_nil, List.countP_nil, Nat.add_zero] at evictions
    exact evictions
  · intro index meters opened world depth commands opens alone
    exact Session.audit_worldAfter opens alone
  · intro index meters opened world depth commands opens ended alone
    exact Session.remarks_inspectedAfter opens alone
  · intro expected depth commands world always
    exact Session.inspectedAfter_eq always depth commands world

/--
A listener is told that the first page is evicted and starts two transitions
meanwhile.  The second one supersedes the first, whose settlement comes late.  In
a session in which that happens, this is what the metrics of the cache show.
-/
theorem metrics_account_for_cache_of_nested :
    let fresh : Cache PageId String String :=
      ⟨⟨[], 1, by decide⟩, .number 1, none, 0, []⟩
    let moments : List (Moment PageId String String) :=
      [.calls (.access (.set "key" "value")), .returns,
        .calls (.announce 7 (.number 1)), .returns,
        .calls (.settle 1 .succeeded (.number 2)), .announces,
        .calls (.announce 8 (.number 2)), .returns,
        .calls (.announce 8 (.number 2)), .returns,
        .calls (.announce 9 (.number 2)), .announces, .returns,
        .calls (.settle 2 .succeeded (.number 2)), .returns,
        .returns]
    let opening : List Session.Command :=
      [.openHost (some (.number 1)), .metric (.create .exporting),
        .build 0
          { capacity := 1
            name := "cache"
            config := none
            listener := some
              { evict :=
                  [("1", .openAttempt 8), ("2", .announce 0 1),
                    ("3", .announce 0 1),
                    ("4", .openAttempt 9), ("5", .announce 0 2),
                    ("6", .attempt 1 (.settle .succeeded))] }
            registry := some 0 }]
    let commands : List Session.Command :=
      [.cache 0 (.set "key" "value"), .openAttempt 7, .announce 0 0,
        .host 0 (.direct (.number 2)), .attempt 0 (.settle .succeeded)]
    let tallies : List Tally :=
      [.transition, .commit, .discard, .stale, .duplicate, .evict]
    let world := Session.worldAfter 1 opening { tracing := false }
    let later := Session.worldAfter 1 commands world
    (∃ audit,
      (Cache.empty? 1 (.number 1) = some fresh ∧
        (start fresh).after? moments = some audit) ∧
      (tallies.map audit.ledger.count = [3, 1, 1, 1, 1, 1] ∧
        audit.conversation.cache.isTransitioning = true) ∧
      audit.ledger.count .transition =
        audit.ledger.count .commit + audit.ledger.count .discard +
          audit.conversation.cache.isTransitioning.toNat ∧
      audit.ledger.count .evict =
        (audit.conversation.calls.flatMap Call.evicted).length) ∧
    ∃ (meters : Session.Meters) (exported : Session.CellAudit),
      (world.Opens 0 meters fresh ∧ later.Alone 0 meters) ∧
        tallies.map (fun tally => later.word? (meters.tally tally)) =
          [some 3, some 1, some 1, some 1, some 1, some 1] ∧
        (start fresh).Leads exported ∧
        later.Shows meters exported.ledger := by
  intro fresh moments opening commands tallies world later
  have built : Cache.empty? 1 (.number 1) = some fresh := rfl
  have run :
      ((start fresh).after? moments).map (fun audit =>
          (audit.conversation.due, tallies.map audit.ledger.count,
            audit.conversation.cache.isTransitioning)) =
        some ([], [3, 1, 1, 1, 1, 1], true) := by
    decide +kernel
  obtain ⟨audit, happened, seen⟩ := Option.map_eq_some_iff.mp run
  simp only [Prod.mk.injEq] at seen
  obtain ⟨quiet, counts, inFlight⟩ := seen
  have law := metrics_account_for_cache built happened
  have opens :
      world.cells.map (fun cell =>
          (cell.cache, cell.meters.rows.all (world.word? · = some 0))) =
        [(fresh, true)] := by
    decide +kernel
  have shown :
      later.cells.map (fun cell =>
          (decide cell.meters.rows.Nodup,
            tallies.map fun tally => later.word? (cell.meters.tally tally))) =
        [(true, [some 3, some 1, some 1, some 1, some 1, some 1])] := by
    decide +kernel
  have unnamed : (later.counters, later.gauges) = ([], []) := by
    decide +kernel
  have unawaited : world.slots.length = 0 := by
    decide +kernel
  obtain ⟨cell, only, opens⟩ := List.map_eq_singleton_iff.mp opens
  obtain ⟨ended, onlyEnded, shown⟩ := List.map_eq_singleton_iff.mp shown
  simp only [Prod.mk.injEq] at opens shown
  obtain ⟨isFresh, zero⟩ := opens
  obtain ⟨distinct, shown⟩ := shown
  have kept : ended.meters = cell.meters := by
    have grows :=
      Session.staysAudited_worldAfter (start fresh) 0 cell.meters 1 commands world []
    obtain ⟨reached, found, same⟩ :=
      grows.grows.cells 0 cell (by rw [only]; rfl)
    rw [onlyEnded] at found
    cases found
    exact same
  rw [kept] at distinct shown
  have opened : world.Opens 0 cell.meters fresh := {
    isNew := ⟨1, .number 1, built⟩
    cell := ⟨cell, by rw [only]; rfl, rfl, isFresh⟩
    zero := by simpa using zero
    unawaited := by
      simp [Session.World.outstanding, List.length_eq_zero_iff.mp unawaited]
  }
  have alone : later.Alone 0 cell.meters := by
    rw [← kept]
    exact Session.World.alone_of_singleton onlyEnded unnamed
      (by rw [kept]; exact of_decide_eq_true distinct)
  obtain ⟨exported, _, leads, _, _, _, shows⟩ :=
    law.2.2.2.1 0 cell.meters fresh world 1 commands opened alone
  exact ⟨⟨audit, ⟨built, happened⟩, ⟨counts, inFlight⟩, law.1.1, law.2.2.1 quiet⟩,
    cell.meters, exported, ⟨opened, alone⟩, shown, leads, shows⟩

end NavState.Audit
