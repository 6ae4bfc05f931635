import NavState.Proofs.Fleet

namespace NavState

/-- The number of pages published last, given the number before a report. -/
def Report.sizeAfter {ι : Type} (size : Nat) (report : Report ι) : Nat :=
  match report with
  | .size pages => pages
  | _ => size

theorem Ledger.pages_enter
    {ι : Type}
    (reports : List (Report ι))
    (ledger : Ledger) :
    (ledger.enter reports).pages =
      reports.foldl Report.sizeAfter ledger.pages := by
  induction reports generalizing ledger with
  | nil =>
      rfl
  | cons report rest inductionHypothesis =>
      rw [enter_cons, inductionHypothesis]
      cases report <;> rfl

/-! ## What a conversation has counted and published -/

namespace Conversation

variable {ι κ ν : Type} [DecidableEq ι] [DecidableEq κ]

/-- Everything that the calls of a conversation have reported. -/
def reports (conversation : Conversation ι κ ν) : List (Report ι) :=
  conversation.calls.flatMap fun call => call.turn.reports

/--
How often a conversation has counted events of a tally.  Evictions are counted as
they are announced, all other events as calls report them.
-/
def increments (tally : Tally) (conversation : Conversation ι κ ν) : Nat :=
  conversation.reports.countP (Report.counts tally) +
    if tally = .evict then
      conversation.departures.countP Departure.evicts
    else
      0

/-- The number of pages that a conversation has published last, or zero. -/
def published (conversation : Conversation ι κ ν) : Nat :=
  conversation.reports.foldl Report.sizeAfter 0

theorem reports_call
    (operation : Operation ι κ ν)
    (conversation : Conversation ι κ ν) :
    (conversation.call operation).reports =
      conversation.reports ++ (conversation.nextCall operation).turn.reports := by
  simp only [reports, call, List.flatMap_append, List.flatMap_singleton]

/-- What is filed at a moment is what the conversation counts more. -/
theorem increments_of_step?
    {conversation next : Conversation ι κ ν}
    {moment : Moment ι κ ν}
    (stepped : conversation.step? moment = some next)
    (tally : Tally) :
    next.increments tally =
      conversation.increments tally +
        (conversation.files moment).countP (Report.counts tally) := by
  cases moment with
  | calls operation =>
      cases stepped
      simp only [increments, files, reports_call, List.countP_append]
      simp only [departures, call]
      omega
  | announces =>
      obtain ⟨notice, rest, outer, due, rfl⟩ := Audit.eq_of_announces stepped
      simp only [increments, files, due, departures, List.map_append,
        List.countP_append, List.map_singleton, List.countP_singleton]
      by_cases evicts : notice.departure.evicts = true
      · by_cases own : tally = .evict
        · subst own
          simp [evicts, Report.counts, reports]
          omega
        · simp [evicts, own, Ne.symm own, Report.counts, reports]
      · simp [evicts, reports]
  | returns =>
      obtain ⟨outer, due, rfl⟩ := Audit.eq_of_returns stepped
      simp [increments, files, departures, reports]

/-- The number that is published last may be filed at a moment. -/
theorem published_of_step?
    {conversation next : Conversation ι κ ν}
    {moment : Moment ι κ ν}
    (stepped : conversation.step? moment = some next) :
    next.published =
      (conversation.files moment).foldl Report.sizeAfter
        conversation.published := by
  cases moment with
  | calls operation =>
      cases stepped
      simp only [published, files, reports_call, List.foldl_append]
  | announces =>
      obtain ⟨notice, rest, outer, due, rfl⟩ := Audit.eq_of_announces stepped
      simp only [files, due]
      split <;> rfl
  | returns =>
      obtain ⟨outer, due, rfl⟩ := Audit.eq_of_returns stepped
      rfl

/-- The number that was published last is the number of pages retained. -/
theorem published_eq_size
    {capacity : Nat}
    {page : ι}
    {fresh : Cache ι κ ν}
    (built : Cache.empty? capacity page = some fresh)
    {moments : List (Moment ι κ ν)}
    {conversation : Conversation ι κ ν}
    (happened : (start fresh).after? moments = some conversation) :
    conversation.published = conversation.cache.table.size := by
  induction moments using List.reverseRecOn generalizing conversation with
  | nil =>
      cases happened
      obtain ⟨table, made, rfl⟩ := Option.map_eq_some_iff.mp built
      have noPages := (Table.sound_of_empty? made).2.1
      rw [← Table.length_pages]
      simp [start, published, reports, noPages]
  | append_singleton earlier last inductionHypothesis =>
      rw [after?_append] at happened
      obtain ⟨before, reached, continued⟩ := Option.bind_eq_some_iff.mp happened
      obtain ⟨next, stepped, ⟨⟩⟩ := Option.bind_eq_some_iff.mp continued
      have published := inductionHypothesis reached
      rw [published_of_step? stepped, published]
      cases last with
      | calls operation =>
          cases stepped
          have sound : before.cache.Sound := by
            rw [(sound_of_after? built reached).run]
            exact (Cache.sound_of_empty? built).after _
          have reported : (before.nextCall operation).Reported :=
            Call.reported_of_sound sound
          have pages := reported.pages ⟨fun _ => 0, before.cache.table.size⟩ rfl
          rw [Ledger.pages_enter] at pages
          exact pages
      | announces =>
          obtain ⟨notice, rest, outer, due, rfl⟩ := Audit.eq_of_announces stepped
          simp only [files, due]
          split <;> rfl
      | returns =>
          obtain ⟨outer, due, rfl⟩ := Audit.eq_of_returns stepped
          rfl

end Conversation

end NavState

namespace NavState.Session

/-!
# Sums over the caches of a registry

What is filed under a name is what the caches with that name have counted, taken
together, and the number of pages that one of them published last.  Each cache
counts and publishes what it would have done alone: it goes through its own
moments, and nothing that happens to others is among them.
-/

open NavState.Metric (Library)

/-- Whether a filing counts an event of a tally for a cache with some name. -/
def Filing.counts
    (name : String)
    (tally : Tally)
    (filing : Filing) :
    Bool :=
  filing.1 = name && filing.2.counts tally

/-- The number of pages published last under a name, given the one before a filing. -/
def Filing.sizeAfter
    (name : String)
    (size : Nat)
    (filing : Filing) :
    Nat :=
  if filing.1 = name then
    filing.2.sizeAfter size
  else
    size

/-- The number that was published last under a name, or zero. -/
def lastSize (name : String) (filed : List Filing) : Nat :=
  filed.foldl (Filing.sizeAfter name) 0

/-- What the members with a name come to, taken together. -/
def sumOver
    (name : String)
    (measure : Member → Nat) :
    List Member → Nat
  | [] => 0
  | member :: rest =>
      if member.name = name then
        measure member + sumOver name measure rest
      else
        sumOver name measure rest

namespace Filing

theorem countP_map
    (name own : String)
    (tally : Tally)
    (reports : List (Report PageId)) :
    (reports.map (Prod.mk own)).countP (Filing.counts name tally) =
      if own = name then reports.countP (Report.counts tally) else 0 := by
  rw [List.countP_map]
  by_cases same : own = name
  · simp [Filing.counts, Function.comp_def, same]
  · simp [Filing.counts, Function.comp_def, same]

theorem lastSize_append_map
    (name own : String)
    (filed : List Filing)
    (reports : List (Report PageId)) :
    lastSize name (filed ++ reports.map (Prod.mk own)) =
      if own = name then
        reports.foldl Report.sizeAfter (lastSize name filed)
      else
        lastSize name filed := by
  rw [lastSize, List.foldl_append, List.foldl_map]
  by_cases same : own = name
  · simp only [Filing.sizeAfter, same, if_true]
    rfl
  · simp only [Filing.sizeAfter, same, if_false]
    exact List.foldl_fixed _

theorem lastSize_concat
    (name : String)
    (filed : List Filing)
    (filing : Filing) :
    lastSize name (filed ++ [filing]) =
      filing.sizeAfter name (lastSize name filed) := by
  rw [lastSize, List.foldl_append, ← lastSize]
  rfl

/-- Whoever has filed nothing has published nothing. -/
theorem lastSize_eq_zero
    {name : String}
    {filed : List Filing}
    (nobody : ∀ filing ∈ filed, filing.1 ≠ name) :
    lastSize name filed = 0 := by
  induction filed using List.reverseRecOn with
  | nil =>
      rfl
  | append_singleton earlier last inductionHypothesis =>
      have before : lastSize name earlier = 0 :=
        inductionHypothesis fun filing member =>
          nobody filing (List.mem_append_left _ member)
      have foreign := nobody last (by simp)
      rw [lastSize_concat, before, sizeAfter, if_neg foreign]

end Filing

theorem sumOver_append
    (name : String)
    (measure : Member → Nat)
    (earlier later : List Member) :
    sumOver name measure (earlier ++ later) =
      sumOver name measure earlier + sumOver name measure later := by
  induction earlier with
  | nil =>
      simp [sumOver]
  | cons member rest inductionHypothesis =>
      simp only [List.cons_append, sumOver, inductionHypothesis]
      split <;> omega

/-- A member that grows makes the sum of its name grow by as much. -/
theorem sumOver_set
    (name : String)
    (measure : Member → Nat)
    {members : List Member}
    {index : Nat}
    {member : Member}
    (found : members[index]? = some member)
    {later : Member}
    (sameName : later.name = member.name)
    {gain : Nat}
    (grown : measure later = measure member + gain) :
    sumOver name measure (members.set index later) =
      sumOver name measure members + if member.name = name then gain else 0 := by
  induction members generalizing index with
  | nil =>
      cases found
  | cons first rest inductionHypothesis =>
      cases index with
      | zero =>
          cases found
          simp only [List.set_cons_zero, sumOver, sameName, grown]
          split <;> omega
      | succ index =>
          simp only [List.set_cons_succ, sumOver, inductionHypothesis found]
          split <;> omega

/-! ## Accounts of a fleet -/

namespace Fleet

/-- No cache has a name but the one at an index. -/
def HasAlone (index : Nat) (name : String) (fleet : Fleet) : Prop :=
  ∀ (place : Nat) (member : Member),
    fleet.members[place]? = some member →
    member.name = name →
    place = index

/-- What is filed under a name is what its caches have counted and published. -/
structure Accounts (fleet : Fleet) : Prop where
  filers : ∀ filing ∈ fleet.filed, filing.1 ∈ fleet.names
  counts :
    ∀ name tally,
      fleet.filed.countP (Filing.counts name tally) =
        sumOver name (fun member => member.conversation.increments tally) fleet.members
  /-- A cache that has its name to itself is the only one to publish under it. -/
  sole :
    ∀ (index : Nat) (member : Member),
      fleet.members[index]? = some member →
      fleet.HasAlone index member.name →
      lastSize member.name fleet.filed = member.conversation.published

theorem accounts_gains
    {fleet : Fleet}
    (accounts : fleet.Accounts)
    (name : String)
    (cache : Cache PageId String String)
    (world : World) :
    ({ fleet with
        world := world
        members := fleet.members ++ [⟨name, .start cache⟩] } : Fleet).Accounts where
  filers := by
    intro filing member
    rw [names, List.map_append]
    exact List.mem_append_left _ (accounts.filers filing member)
  counts := by
    intro other tally
    rw [sumOver_append, ← accounts.counts]
    simp [sumOver, Conversation.start, Conversation.increments,
      Conversation.reports, Conversation.departures]
  sole := by
    intro index member isMember alone
    have before
        (place : Nat)
        (other : Member)
        (isOther : fleet.members[place]? = some other)
        (same : other.name = member.name) :
        place = index := by
      refine alone place other ?_ same
      rw [List.getElem?_append_left (List.getElem?_eq_some_iff.mp isOther).1]
      exact isOther
    rcases Nat.lt_or_ge index fleet.members.length with inside | outside
    · rw [List.getElem?_append_left inside] at isMember
      exact accounts.sole index member isMember before
    · have isNew : member = ⟨name, .start cache⟩ := by
        rw [List.getElem?_append_right outside] at isMember
        exact List.mem_singleton.mp (List.mem_of_getElem? isMember)
      subst isNew
      refine Filing.lastSize_eq_zero fun filing member same => ?_
      obtain ⟨other, isOther, named⟩ :=
        List.mem_map.mp (accounts.filers filing member)
      obtain ⟨place, found⟩ := List.mem_iff_getElem?.mp isOther
      have isLast := before place other found (named.trans same)
      have within := (List.getElem?_eq_some_iff.mp found).1
      omega

theorem accounts_lives
    {fleet : Fleet}
    (accounts : fleet.Accounts)
    {index : Nat}
    {moment : Moment PageId String String}
    {member : Member}
    {next : Conversation PageId String String}
    (isMember : fleet.members[index]? = some member)
    (stepped : member.conversation.step? moment = some next)
    (cell : Cell) :
    (fleet.live index cell member moment next).Accounts := by
  have sameNames := names_live isMember cell moment next
  refine ⟨?_, ?_, ?_⟩
  · intro filing isFiled
    rw [sameNames]
    rcases List.mem_append.mp isFiled with before | isNew
    · exact accounts.filers filing before
    · obtain ⟨report, _, rfl⟩ := List.mem_map.mp isNew
      exact List.mem_map_of_mem (List.mem_of_getElem? isMember)
  · intro name tally
    let measure (member : Member) : Nat := member.conversation.increments tally
    have grown :
        measure { member with conversation := next } =
          measure member +
            (member.conversation.files moment).countP (Report.counts tally) := by
      exact Conversation.increments_of_step? stepped tally
    rw [live, List.countP_append, accounts.counts, Filing.countP_map]
    have sameName : ({ member with conversation := next } : Member).name = member.name :=
      rfl
    exact (sumOver_set name measure isMember sameName grown).symm
  · intro place other isOther alone
    have inside := (List.getElem?_eq_some_iff.mp isMember).1
    rw [live, Filing.lastSize_append_map]
    by_cases own : index = place
    · subst own
      rw [live, List.getElem?_set_self inside] at isOther
      cases isOther
      have before : fleet.HasAlone index member.name := by
        intro place other isOther same
        by_cases own : index = place
        · exact own.symm
        · refine alone place other ?_ same
          rw [live, List.getElem?_set_ne own]
          exact isOther
      rw [if_pos rfl, accounts.sole index member isMember before,
        Conversation.published_of_step? stepped]
    · have different : member.name ≠ other.name := by
        intro same
        refine own (alone index { member with conversation := next } ?_ same)
        rw [live, List.getElem?_set_self inside]
      rw [live, List.getElem?_set_ne own] at isOther
      rw [if_neg different]
      refine accounts.sole place other isOther fun third another isThird same => ?_
      by_cases again : index = third
      · subst again
        rw [isMember] at isThird
        cases isThird
        exact absurd same different
      · refine alone third another ?_ same
        rw [live, List.getElem?_set_ne again]
        exact isThird

/-! ## Transcripts of the members -/

/-- The cache at an index was built as a request asked for, with some name. -/
def Opened
    (library : Library)
    (tracing : Bool)
    (happenings : List Happening)
    (index : Nat)
    (name : String)
    (fresh : Cache PageId String String) :
    Prop :=
  ∃ earlier host request later before,
    happenings = earlier ++ .builds host request :: later ∧
      (start library tracing).after? earlier = some before ∧
      before.members.length = index ∧
      request.name = name ∧
      request.opens? host before.world = some fresh

theorem Opened.concat
    {library : Library}
    {tracing : Bool}
    {happenings : List Happening}
    {index : Nat}
    {name : String}
    {fresh : Cache PageId String String}
    (opened : Opened library tracing happenings index name fresh)
    (happening : Happening) :
    Opened library tracing (happenings ++ [happening]) index name fresh := by
  obtain ⟨earlier, host, request, later, before, rfl, reached⟩ := opened
  exact ⟨earlier, host, request, later ++ [happening], before, by simp, reached⟩

/-- Each cache has come from its start to where it is by its own moments alone. -/
structure Transcribes
    (library : Library)
    (tracing : Bool)
    (happenings : List Happening)
    (fleet : Fleet) :
    Prop where
  own :
    ∀ (index : Nat) (member : Member),
      fleet.members[index]? = some member →
      ∃ fresh,
        Opened library tracing happenings index member.name fresh ∧
          (Conversation.start fresh).after? (momentsOf index happenings) =
            some member.conversation
  absent :
    ∀ index, fleet.members.length ≤ index → momentsOf index happenings = []

theorem momentsOf_concat
    (index : Nat)
    (happenings : List Happening)
    (happening : Happening) :
    momentsOf index (happenings ++ [happening]) =
      momentsOf index happenings ++ (happening.moment? index).toList := by
  rw [momentsOf, List.filterMap_append, momentsOf]
  cases shape : happening.moment? index <;> simp [shape]

theorem momentsOf_concat_of_quiet
    {happening : Happening}
    (quiet : ∀ index, happening.moment? index = none)
    (index : Nat)
    (happenings : List Happening) :
    momentsOf index (happenings ++ [happening]) = momentsOf index happenings := by
  rw [momentsOf_concat, quiet index, Option.toList_none, List.append_nil]

variable
  {library : Library}
  {tracing : Bool}
  {happenings : List Happening}
  {fleet : Fleet}

theorem transcribes_spares
    (transcribes : fleet.Transcribes library tracing happenings)
    {happening : Happening}
    (quiet : ∀ index, happening.moment? index = none)
    (world : World) :
    ({ fleet with world := world } : Fleet).Transcribes library tracing
      (happenings ++ [happening]) where
  own := by
    intro index member isMember
    obtain ⟨fresh, opened, reached⟩ := transcribes.own index member isMember
    refine ⟨fresh, opened.concat happening, ?_⟩
    rw [momentsOf_concat_of_quiet quiet]
    exact reached
  absent := by
    intro index outside
    rw [momentsOf_concat_of_quiet quiet]
    exact transcribes.absent index outside

theorem transcribes_gains
    (transcribes : fleet.Transcribes library tracing happenings)
    (happened : (start library tracing).after? happenings = some fleet)
    {host : Nat}
    {request : BuildRequest Step}
    {cache : Cache PageId String String}
    (opens : request.opens? host fleet.world = some cache)
    (world : World) :
    ({ fleet with
        world := world
        members := fleet.members ++ [⟨request.name, .start cache⟩] } :
      Fleet).Transcribes library tracing (happenings ++ [.builds host request]) where
  own := by
    intro index member isMember
    rw [momentsOf_concat_of_quiet fun _ => rfl]
    rcases Nat.lt_trichotomy index fleet.members.length with
      inside | isNew | outside
    · rw [List.getElem?_append_left inside] at isMember
      obtain ⟨fresh, opened, reached⟩ := transcribes.own index member isMember
      exact ⟨fresh, opened.concat _, reached⟩
    · subst isNew
      rw [List.getElem?_concat_length] at isMember
      cases isMember
      refine ⟨cache, ⟨happenings, host, request, [], fleet, rfl, happened, rfl,
        rfl, opens⟩, ?_⟩
      rw [transcribes.absent _ (Nat.le_refl _)]
      rfl
    · rw [List.getElem?_eq_none (by simp; omega)] at isMember
      cases isMember
  absent := by
    intro index outside
    rw [List.length_append] at outside
    rw [momentsOf_concat_of_quiet fun _ => rfl]
    exact transcribes.absent index (Nat.le_of_add_right_le outside)

theorem transcribes_lives
    (transcribes : fleet.Transcribes library tracing happenings)
    {index : Nat}
    {moment : Moment PageId String String}
    {member : Member}
    {next : Conversation PageId String String}
    (isMember : fleet.members[index]? = some member)
    (stepped : member.conversation.step? moment = some next)
    (cell : Cell) :
    (fleet.live index cell member moment next).Transcribes library tracing
      (happenings ++ [.lives index moment]) where
  own := by
    intro place other isOther
    rw [momentsOf_concat]
    by_cases same : index = place
    · subst same
      rw [live, List.getElem?_set_self (List.getElem?_eq_some_iff.mp isMember).1]
        at isOther
      cases isOther
      obtain ⟨fresh, opened, reached⟩ := transcribes.own index member isMember
      refine ⟨fresh, opened.concat _, ?_⟩
      rw [Conversation.after?_append, reached]
      simp [Happening.moment?, Conversation.after?, stepped]
    · rw [live, List.getElem?_set_ne same] at isOther
      simp only [Happening.moment?, same, if_false, Option.toList_none,
        List.append_nil]
      obtain ⟨fresh, opened, reached⟩ := transcribes.own place other isOther
      exact ⟨fresh, opened.concat _, reached⟩
  absent := by
    intro place outside
    rw [live, List.length_set] at outside
    have inside := (List.getElem?_eq_some_iff.mp isMember).1
    have different : index ≠ place := by omega
    rw [momentsOf_concat, transcribes.absent place outside]
    simp [Happening.moment?, different]

/-! ## Runs of a fleet -/

/-- What holds of a fleet after every run. -/
structure Kept
    (library : Library)
    (tracing : Bool)
    (happenings : List Happening)
    (fleet : Fleet) :
    Prop where
  happened : (start library tracing).after? happenings = some fleet
  sound : fleet.Sound library
  accounts : fleet.Accounts
  transcribes : fleet.Transcribes library tracing happenings

theorem kept_start (library : Library) (tracing : Bool) :
    (start library tracing).Kept library tracing [] where
  happened := rfl
  sound := sound_start library tracing
  accounts := {
    filers := fun _ member => nomatch member
    counts := fun _ _ => rfl
    sole := fun _ _ found => nomatch found
  }
  transcribes := {
    own := fun _ _ found => nomatch found
    absent := fun _ _ => rfl
  }

theorem Kept.step?
    (kept : fleet.Kept library tracing happenings)
    (valid : Shared.Valid library)
    {happening : Happening}
    {next : Fleet}
    (stepped : fleet.step? happening = some next) :
    next.Kept library tracing (happenings ++ [happening]) := by
  have happened : (start library tracing).after? (happenings ++ [happening]) = some next := by
    rw [after?_append, kept.happened]
    simp [after?, stepped]
  have moves := kept.sound.moves valid stepped
  have sound := kept.sound.of_moves moves
  cases moves with
  | spares quiet spares =>
      exact ⟨happened, sound, ⟨kept.accounts.filers, kept.accounts.counts,
        kept.accounts.sole⟩, transcribes_spares kept.transcribes quiet _⟩
  | gains gains =>
      exact ⟨happened, sound, accounts_gains kept.accounts _ _ _,
        transcribes_gains kept.transcribes kept.happened gains.opens _⟩
  | lives isMember found steps =>
      exact ⟨happened, sound, accounts_lives kept.accounts isMember steps _,
        transcribes_lives kept.transcribes isMember steps _⟩

theorem kept_of_after?
    (valid : Shared.Valid library)
    (happened : (start library tracing).after? happenings = some fleet) :
    fleet.Kept library tracing happenings :=
  induction_after? (kept_start library tracing)
    (fun _ _ _ _ kept stepped => kept.step? valid stepped) happened

end Fleet

end NavState.Session
