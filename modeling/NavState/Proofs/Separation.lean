import NavState.Proofs.Gathering
import NavState.Proofs.Happenings
import NavState.Proofs.Sharing

namespace NavState

namespace Tally

theorem label_injective {tally other : Tally} (same : tally.label = other.label) :
    tally = other := by
  revert same
  cases tally <;> cases other <;> decide

/-- No label ends in another one. -/
theorem eq_of_label_suffix
    {tally other : Tally}
    (suffix : other.label.toList <:+ tally.label.toList) :
    other = tally := by
  have checked :
      ∀ tally ∈ all, ∀ other ∈ all,
        other.label.toList <:+ tally.label.toList → other = tally := by
    decide +kernel
  exact checked tally (mem_all tally) other (mem_all other) suffix

/-- A name and a label put together determine both. -/
theorem eq_of_append_label_eq
    {name other : String}
    {tally counted : Tally}
    (same : name ++ tally.label = other ++ counted.label) :
    name = other ∧ tally = counted := by
  have sameTexts :
      name.toList ++ tally.label.toList =
        other.toList ++ counted.label.toList := by
    rw [← String.toList_append, same, String.toList_append]
  have sameTally : tally = counted := by
    rcases List.append_eq_append_iff.mp sameTexts with
      ⟨between, _, ends⟩ | ⟨between, _, ends⟩
    · exact (eq_of_label_suffix ⟨between, ends.symm⟩).symm
    · exact eq_of_label_suffix ⟨between, ends.symm⟩
  subst sameTally
  exact ⟨String.toList_injective (List.append_cancel_right sameTexts), rfl⟩

end Tally

end NavState

namespace NavState.Session

/-!
# Rows of caches that share a registry

Rows are told apart by their addresses, which the library makes up of the label
values put together.  Whatever the names of caches are, no two rows have the same
text, as no label of a tally ends in another one.  So as long as different texts
have different addresses, the row of a tally shows what all caches with its name
have counted, and the row of a name shows the number of pages that a cache with
that name published last.
-/

open NavState.Metric (Library)

namespace Shared

/-- Rows with the same text are the same row. -/
theorem eq_of_join_eq
    {shared : Shared}
    {name other : String}
    {row otherRow : List String}
    (isRow : row ∈ shared.rows name)
    (isOther : otherRow ∈ shared.rows other)
    (same : String.join row = String.join otherRow) :
    row = otherRow := by
  cases shared with
  | operations =>
      obtain ⟨tally, _, rfl⟩ := List.mem_map.mp isRow
      obtain ⟨counted, _, rfl⟩ := List.mem_map.mp isOther
      simp only [String.join, List.foldl_cons, List.foldl_nil,
        String.empty_append] at same
      obtain ⟨rfl, rfl⟩ := Tally.eq_of_append_label_eq same
      rfl
  | retained =>
      rw [List.mem_singleton.mp isRow, List.mem_singleton.mp isOther] at same ⊢
      simpa [String.join] using same

/--
Rows of caches with these names have different addresses if their label values
put together are different texts.
-/
def Separates
    (library : Library)
    (names : List String)
    (shared : Shared) :
    Prop :=
  ∀ name ∈ names, ∀ row ∈ shared.rows name,
    ∀ other ∈ names, ∀ otherRow ∈ shared.rows other,
      String.join row ≠ String.join otherRow →
      shared.address library row ≠ shared.address library otherRow

theorem Separates.eq
    {library : Library}
    {shared : Shared}
    {names : List String}
    (separates : shared.Separates library names)
    {name other : String}
    (isName : name ∈ names)
    (isOtherName : other ∈ names)
    {row otherRow : List String}
    (isRow : row ∈ shared.rows name)
    (isOther : otherRow ∈ shared.rows other)
    (same : shared.address library row = shared.address library otherRow) :
    row = otherRow := by
  by_contra different
  refine separates name isName row isRow other isOtherName otherRow isOther ?_ same
  exact fun sameText => different (eq_of_join_eq isRow isOther sameText)

/-! ## What the words say -/

/-- The word of a tally is the number of its events that were filed. -/
theorem word_operations
    {library : Library}
    {name : String}
    {tally : Tally}
    (filed : List Filing)
    (told :
      ∀ filing ∈ filed, ∀ row ∈ operations.rows filing.1,
        operations.address library [name, tally.label] =
          operations.address library row →
        [name, tally.label] = row) :
    operations.word library filed [name, tally.label] =
      UInt64.ofNat (filed.countP (Filing.counts name tally)) := by
  induction filed using List.reverseRecOn with
  | nil =>
      rfl
  | append_singleton earlier last inductionHypothesis =>
      have before := inductionHypothesis fun filing member =>
        told filing (List.mem_append_left _ member)
      have toldLast := told last (by simp)
      obtain ⟨filer, report⟩ := last
      rw [word_append_singleton, before, enter, List.countP_append,
        List.countP_singleton]
      cases report with
      | count counted =>
          simp only [change?]
          by_cases own :
              operations.address library [name, tally.label] =
                operations.address library [filer, counted.label]
          · have same :=
              toldLast [filer, counted.label]
                (List.mem_map_of_mem (Tally.mem_all counted)) own
            simp only [List.cons.injEq, and_true] at same
            obtain ⟨rfl, sameLabel⟩ := same
            cases Tally.label_injective sameLabel
            simp [Filing.counts, Report.counts, Metric.Change.apply]
          · have foreign : ¬(filer = name ∧ counted = tally) := by
              rintro ⟨rfl, rfl⟩
              exact own rfl
            rw [if_neg own]
            simp [Filing.counts, Report.counts, foreign]
      | size pages =>
          simp [change?, Filing.counts, Report.counts]
      | note note =>
          simp [change?, Filing.counts, Report.counts]

/-- The word of a name is the number that was published last under it. -/
theorem word_retained
    {library : Library}
    {name : String}
    (filed : List Filing)
    (told :
      ∀ filing ∈ filed, ∀ row ∈ retained.rows filing.1,
        retained.address library [name] = retained.address library row →
        [name] = row) :
    retained.word library filed [name] = UInt64.ofNat (lastSize name filed) := by
  induction filed using List.reverseRecOn with
  | nil =>
      rfl
  | append_singleton earlier last inductionHypothesis =>
      have before := inductionHypothesis fun filing member =>
        told filing (List.mem_append_left _ member)
      have toldLast := told last (by simp)
      obtain ⟨filer, report⟩ := last
      rw [word_append_singleton, before, enter, Filing.lastSize_concat]
      cases report with
      | size pages =>
          simp only [change?]
          by_cases own :
              retained.address library [name] = retained.address library [filer]
          · have same := toldLast [filer] (List.mem_singleton.mpr rfl) own
            simp only [List.cons.injEq, and_true] at same
            subst same
            simp [Filing.sizeAfter, Report.sizeAfter, Metric.Change.apply]
          · have foreign : filer ≠ name := by
              rintro rfl
              exact own rfl
            rw [if_neg own]
            simp [Filing.sizeAfter, foreign]
      | count counted =>
          simp [change?, Filing.sizeAfter, Report.sizeAfter]
      | note note =>
          simp [change?, Filing.sizeAfter, Report.sizeAfter]

/-! ## Rows that are published -/

theorem labelsOf_operations (name label : String) :
    Metric.Depot.labelsOf operations.definition [name, label] =
      [("name", name), ("op", label)] := by
  refine List.mergeSort_of_pairwise ?_
  simp [definition, Meters.operations]

theorem labelsOf_retained (name : String) :
    Metric.Depot.labelsOf retained.definition [name] = [("name", name)] :=
  List.mergeSort_of_pairwise (List.pairwise_singleton _ _)

/-- Different rows of a shared vector have different labels. -/
theorem eq_of_labelsOf_eq
    {shared : Shared}
    {name other : String}
    {row otherRow : List String}
    (isRow : row ∈ shared.rows name)
    (isOther : otherRow ∈ shared.rows other)
    (same :
      Metric.Depot.labelsOf shared.definition row =
        Metric.Depot.labelsOf shared.definition otherRow) :
    row = otherRow := by
  cases shared with
  | operations =>
      obtain ⟨tally, _, rfl⟩ := List.mem_map.mp isRow
      obtain ⟨counted, _, rfl⟩ := List.mem_map.mp isOther
      rw [labelsOf_operations, labelsOf_operations] at same
      simpa using same
  | retained =>
      rw [List.mem_singleton.mp isRow, List.mem_singleton.mp isOther] at same ⊢
      rw [labelsOf_retained, labelsOf_retained] at same
      simpa using same

end Shared

/-- What caches on one registry rely on of the library, for their names. -/
structure Fleet.Supported (library : Library) (fleet : Fleet) : Prop where
  /-- The definitions of the shared vectors are valid. -/
  valid : Shared.Valid library
  /-- Rows whose label values put together differ have different addresses. -/
  separates : ∀ shared : Shared, shared.Separates library fleet.names
  /-- A name that nobody else has offered is taken. -/
  welcomes : ∀ shared : Shared, fleet.world.depot.Welcomes shared.definition
  /-- What is shown under a name is what was collected under it. -/
  shows : library.Shows

/-- Each row of a cache is shown once, with the word of what was filed. -/
theorem Fleet.Sound.rows
    {library : Library}
    {fleet : Fleet}
    (sound : fleet.Sound library)
    (supported : fleet.Supported library)
    {shared : Shared}
    {name : String}
    (isName : name ∈ fleet.names)
    {row : List String}
    (isRow : row ∈ shared.rows name) :
    fleet.world.depot.rows 0 shared.definition.name
        (Metric.Depot.labelsOf shared.definition row) =
      [⟨Metric.Depot.labelsOf shared.definition row,
        .ofInt
          (Metric.Depot.readingOf shared.kind
            (shared.word library fleet.filed row))⟩] := by
  have asked
      (other : List String)
      (member : other ∈ shared.rowsOf library fleet.names) :
      ∃ owner ∈ fleet.names, other ∈ shared.rows owner := by
    rcases Metric.Vector.mem_or_mem_of_mem_withRows member with isAsked | nothing
    · exact List.mem_flatMap.mp isAsked
    · cases nothing
  have distinct : (shared.rowsOf library fleet.names).Nodup :=
    (Metric.Vector.nodup_withRows _ (by simp)).of_map _
  have isThere : row ∈ shared.rowsOf library fleet.names := by
    obtain ⟨other, member, same⟩ :=
      List.mem_map.mp (Shared.address_mem_rowsOf isName isRow)
    obtain ⟨owner, isOwner, isOther⟩ := asked other member
    rw [← (supported.separates shared).eq isOwner isName isOther isRow same]
    exact member
  have shows : fleet.world.depot.library.Shows := by
    rw [sound.stocks.uses]
    exact supported.shows
  refine (sound.stocks.holds shared).rows shows (supported.welcomes shared) distinct
    isThere fun other member same => ?_
  obtain ⟨owner, _, isOther⟩ := asked other member
  exact Shared.eq_of_labelsOf_eq isOther isRow same

namespace Fleet

variable
  {library : Library}
  {fleet : Fleet}
  {tracing : Bool}
  {happenings : List Happening}

/-- What the rows of a tally say is the sum of what the caches have counted. -/
theorem Kept.word_operations
    (kept : fleet.Kept library tracing happenings)
    (separates : Shared.operations.Separates library fleet.names)
    {name : String}
    (isName : name ∈ fleet.names)
    (tally : Tally) :
    Shared.operations.word library fleet.filed [name, tally.label] =
      UInt64.ofNat
        (sumOver name (fun other => other.conversation.increments tally)
          fleet.members) := by
  have isRow : [name, tally.label] ∈ Shared.operations.rows name :=
    List.mem_map_of_mem (Tally.mem_all tally)
  rw [← kept.accounts.counts]
  exact Shared.word_operations fleet.filed fun filing member row isOther =>
    separates.eq isName (kept.accounts.filers filing member) isRow isOther

/-- What the row of a name says was published last under it. -/
theorem Kept.word_retained
    (kept : fleet.Kept library tracing happenings)
    (separates : Shared.retained.Separates library fleet.names)
    {name : String}
    (isName : name ∈ fleet.names) :
    Shared.retained.word library fleet.filed [name] =
      UInt64.ofNat (lastSize name fleet.filed) := by
  have isRow : [name] ∈ Shared.retained.rows name :=
    List.mem_singleton.mpr rfl
  exact Shared.word_retained fleet.filed fun filing member row isOther =>
    separates.eq isName (kept.accounts.filers filing member) isRow isOther

/-- The row of a tally has the sum of what all caches with the name have counted. -/
theorem Kept.rows_operations
    (kept : fleet.Kept library tracing happenings)
    (supported : fleet.Supported library)
    {name : String}
    (isName : name ∈ fleet.names)
    (tally : Tally) :
    fleet.world.depot.rows 0 "navstore_op_total"
        [("name", name), ("op", tally.label)] =
      [⟨[("name", name), ("op", tally.label)],
        .ofInt
          (sumOver name (fun other => other.conversation.increments tally)
            fleet.members % UInt64.size : Nat)⟩] := by
  have isRow : [name, tally.label] ∈ Shared.operations.rows name :=
    List.mem_map_of_mem (Tally.mem_all tally)
  have published := kept.sound.rows supported isName isRow
  rw [kept.word_operations (supported.separates .operations) isName, Shared.labelsOf_operations]
    at published
  have reading (count : Nat) :
      Metric.Depot.readingOf Shared.operations.kind (UInt64.ofNat count) =
        (count % UInt64.size : Nat) := by
    simp only [Metric.Depot.readingOf, Shared.kind, UInt64.toNat_ofNat']
  rw [reading] at published
  exact published

/-- The row of a name has what was published last under it. -/
theorem Kept.rows_retained
    (kept : fleet.Kept library tracing happenings)
    (supported : fleet.Supported library)
    {name : String}
    (isName : name ∈ fleet.names) :
    fleet.world.depot.rows 0 "navstore_entries" [("name", name)] =
      [⟨[("name", name)],
        .ofInt (Int.bmod (lastSize name fleet.filed) UInt64.size)⟩] := by
  have isRow : [name] ∈ Shared.retained.rows name := List.mem_singleton.mpr rfl
  have published := kept.sound.rows supported isName isRow
  rw [kept.word_retained (supported.separates .retained) isName, Shared.labelsOf_retained]
    at published
  have reading (size : Nat) :
      Metric.Depot.readingOf Shared.retained.kind (UInt64.ofNat size) =
        Int.bmod size UInt64.size := by
    simp only [Metric.Depot.readingOf, Shared.kind, UInt64.toInt64_ofNat']
    exact Int64.toInt_ofNat'
  rw [reading] at published
  exact published

/--
The caches of a world are those of a fleet, and their metrics tell what the fleet
has counted and published under their names.
-/
structure Tells (world : World) (fleet : Fleet) : Prop where
  cells : fleet.world.cells = world.cells
  counts :
    ∀ cell ∈ world.cells,
      ∀ tally,
        world.word? (cell.meters.tally tally) =
          some
            (UInt64.ofNat
              (sumOver cell.name
                (fun other => other.conversation.increments tally)
                fleet.members))
  pages :
    ∀ cell ∈ world.cells,
      world.word? cell.meters.pages =
        some (UInt64.ofNat (lastSize cell.name fleet.filed))

theorem Tells.of_mirrors
    (tells : fleet.Tells fleet.world)
    {world : World}
    (mirrors : fleet.Mirrors library world) :
    fleet.Tells world := by
  have copied {cell : Cell} (isCell : cell ∈ world.cells) {meter : Meter}
      (isRow : meter ∈ cell.meters.rows) :
      World.Copies meter fleet.world world :=
    mirrors.words meter
      (List.mem_flatMap.mpr ⟨cell.meters, List.mem_map_of_mem isCell, isRow⟩)
  refine ⟨mirrors.cells, fun cell isCell tally => ?_, fun cell isCell => ?_⟩
  · exact copied isCell (cell.meters.tally_mem_rows tally) _
      (tells.counts cell (mirrors.cells ▸ isCell) tally)
  · exact copied isCell cell.meters.pages_mem_rows _
      (tells.pages cell (mirrors.cells ▸ isCell))

/-- A fleet tells of itself. -/
theorem Kept.tells
    (kept : fleet.Kept library tracing happenings)
    (separates : ∀ shared : Shared, shared.Separates library fleet.names) :
    fleet.Tells fleet.world := by
  have filled {cell : Cell} (isCell : cell ∈ fleet.world.cells) :
      ∃ member ∈ fleet.members, member.Fills library fleet.world.depot cell := by
    obtain ⟨index, found⟩ := List.mem_iff_getElem?.mp isCell
    obtain ⟨member, isMember, fills⟩ := kept.sound.member found
    exact ⟨member, List.mem_of_getElem? isMember, fills⟩
  refine ⟨rfl, fun cell isCell tally => ?_, fun cell isCell => ?_⟩
  all_goals
    obtain ⟨member, isMember, fills⟩ := filled isCell
    obtain ⟨numbers, meters, binds⟩ := fills.meters
    have isName : member.name ∈ fleet.names := List.mem_map_of_mem isMember
    rw [fills.name, meters]
  · rw [Meters.tally_within,
      ← kept.word_operations (separates .operations) isName]
    exact kept.sound.stocks.word? (binds .operations)
      (Shared.address_mem_rowsOf isName
        (List.mem_map_of_mem (Tally.mem_all tally)))
  · rw [← kept.word_retained (separates .retained) isName]
    exact kept.sound.stocks.word? (binds .retained)
      (Shared.address_mem_rowsOf isName (List.mem_singleton.mpr rfl))

/-- What a session does with the caches of a fleet happens in the fleet. -/
theorem Kept.worldAfter
    (kept : fleet.Kept library tracing happenings)
    (separates : ∀ shared : Shared, shared.Separates library fleet.names)
    (valid : Shared.Valid library)
    {depth : Nat}
    {commands : List Command}
    (undisturbed :
      fleet.world.Undisturbed (Session.worldAfter depth commands fleet.world)) :
    ∃ more next,
      (start library tracing).after? (happenings ++ more) = some next ∧
        next.dues = fleet.dues ∧
        next.Tells (Session.worldAfter depth commands fleet.world) := by
  have mirrors : fleet.Mirrors library fleet.world :=
    ⟨kept.sound, rfl, fun _ _ _ found => found⟩
  obtain ⟨next, ⟨more, goesOn⟩, mirrorsNext, same⟩ :=
    (happens_worldAfter depth commands fleet.world).leads undisturbed library
      fleet mirrors
  have happened : (start library tracing).after? (happenings ++ more) = some next := by
    rw [after?_append, kept.happened]
    exact goesOn
  have separatesNext (shared : Shared) : shared.Separates library next.names := by
    rw [names_eq_of_dues_eq same]
    exact separates shared
  exact ⟨more, next, happened, same,
    ((kept_of_after? valid happened).tells separatesNext).of_mirrors mirrorsNext⟩

/-- Whoever gathers through a clone of the registry is shown its exporter. -/
theorem Sound.gather
    (sound : fleet.Sound library)
    {registry : Nat}
    (clone : fleet.world.registries[registry]? = some (.exporting 0)) :
    (performMetric (.gather registry)).reply fleet.world =
      (.families (fleet.world.depot.gather 0), fleet.world) := by
  have isThere := List.getElem?_eq_getElem sound.stocks.sound.catalogue
  have first := sound.stocks.sound.first
  rw [Metric.Depot.catalogue, isThere, Option.getD_some] at first
  have looked :
      (registryOf registry).run.run fleet.world =
        (.ok (.exporting 0), fleet.world) := by
    change
      (Act.require Fault.inapplicable
        fleet.world.registries[registry]?).run.run fleet.world = _
    rw [clone]
    rfl
  have found :
      (exporterOf registry).run.run fleet.world = (.ok 0, fleet.world) := by
    rw [exporterOf, Act.run_bind looked]
    change
      (do
        let entry ← Act.require .inapplicable fleet.world.depot.catalogues[0]?
        return entry.exporter : Act Nat).run.run fleet.world = _
    rw [isThere]
    exact congrArg (fun exporter => (Except.ok exporter, fleet.world)) first
  rw [Act.reply, performMetric, Act.run_bind found]
  rfl

/--
Caches on one registry do not disturb each other's metrics.  They may be built at
any time, on clones of the registry, and their calls, announcements and returns
may come in any order, while others use the registry for other names.

Each cache has come from its start, as it was asked for, to where it is by its
own moments, with the pages it observed in them, just as if it were alone.  The
metric of a tally is a word, and it has what all caches with its name have
counted, modulo the size of a word.  The metric of a name is a word with the
number of pages that a cache with that name published last, or zero.  Each of them
is shown in one row, in floating point, and exactly so up to two to the power of
53.  If a cache has its name to itself, the number of pages published last is that
of the pages it retains.  All of this is what gathering through a clone of the
registry shows.

Whatever the commands of a session do with the caches and call back meanwhile
comes to such moments, of which the metrics tell, as long as the session builds no
cache and asks for none of their metrics.

Names are any texts, and the library is any that supports the caches: it accepts
the two definitions, takes names that nobody else has offered, shows what it
collects, and has different addresses for the rows of these caches whose label
values put together are different texts.
-/
theorem shared_metrics_stay_apart
    (happened : (start library tracing).after? happenings = some fleet)
    (supported : fleet.Supported library) :
    (∀ (index : Nat) (member : Member),
      fleet.members[index]? = some member →
      (∃ fresh cell,
        Opened library tracing happenings index member.name fresh ∧
          (Conversation.start fresh).after? (momentsOf index happenings) =
            some member.conversation ∧
          fleet.world.cells[index]? = some cell ∧
          cell.name = member.name ∧
          cell.cache = member.conversation.cache) ∧
      (∀ tally : Tally,
        fleet.world.depot.rows 0 "navstore_op_total"
            [("name", member.name), ("op", tally.label)] =
          [⟨[("name", member.name), ("op", tally.label)],
            .ofInt
              (sumOver member.name
                (fun other => other.conversation.increments tally)
                fleet.members % UInt64.size : Nat)⟩]) ∧
      fleet.world.depot.rows 0 "navstore_entries" [("name", member.name)] =
        [⟨[("name", member.name)],
          .ofInt (Int.bmod (lastSize member.name fleet.filed) UInt64.size)⟩] ∧
      (lastSize member.name fleet.filed < 9223372036854775808 →
        fleet.world.depot.rows 0 "navstore_entries" [("name", member.name)] =
          [⟨[("name", member.name)],
            .ofInt (lastSize member.name fleet.filed)⟩]) ∧
      (fleet.HasAlone index member.name →
        lastSize member.name fleet.filed =
          member.conversation.cache.table.size)) ∧
    fleet.Tells fleet.world ∧
    (∀ value : Nat,
      value ≤ 9007199254740992 →
      (Metric.Reading.ofInt value).Says value) ∧
    (∀ registry,
      fleet.world.registries[registry]? = some (.exporting 0) →
      (performMetric (.gather registry)).reply fleet.world =
        (.families (fleet.world.depot.gather 0), fleet.world)) ∧
    ∀ (depth : Nat) (commands : List Command),
      fleet.world.Undisturbed (Session.worldAfter depth commands fleet.world) →
      ∃ more next,
        (start library tracing).after? (happenings ++ more) = some next ∧
          next.dues = fleet.dues ∧
          next.Tells (Session.worldAfter depth commands fleet.world) := by
  have kept := kept_of_after? supported.valid happened
  refine ⟨fun index member isMember => ?_, kept.tells supported.separates,
    fun value small => ?_, fun registry => kept.sound.gather,
    fun _ _ => kept.worldAfter supported.separates supported.valid⟩
  · have isName : member.name ∈ fleet.names :=
      List.mem_map_of_mem (List.mem_of_getElem? isMember)
    obtain ⟨fresh, opened, reached⟩ := kept.transcribes.own index member isMember
    obtain ⟨cell, found, fills⟩ := kept.sound.cells index member isMember
    have sized := kept.rows_retained supported isName
    refine ⟨⟨fresh, cell, opened, reached, found, fills.name, fills.cache⟩,
      kept.rows_operations supported isName, sized, ?_, ?_⟩
    · intro small
      have exact : Int.bmod (lastSize member.name fleet.filed) UInt64.size =
          lastSize member.name fleet.filed :=
        Int.bmod_eq_of_le (by simp) (by simp [UInt64.size]; omega)
      rw [exact] at sized
      exact sized
    · intro alone
      obtain ⟨_, _, _, _, _, _, _, _, _, opens⟩ := opened
      obtain ⟨capacity, page, built⟩ := BuildRequest.empty?_of_opens? opens
      rw [kept.accounts.sole index member isMember alone]
      exact Conversation.published_eq_size built reached
  · exact Metric.Reading.says_ofInt (by simpa using small)

/--
Two caches have the same name, and a third one has a name of which it is the
beginning.  One evicts a page while the others go on, and somebody else counts
something of their own under another name.  Then a session goes on with one of
the two.
-/
theorem shared_metrics_stay_apart_of_three :
    let other : Metric.Definition := ⟨"other_total", "others", ["name"]⟩
    let request (name : String) (registry : Nat) : BuildRequest Step :=
      { capacity := 1
        name := name
        config := none
        listener := none
        registry := some registry }
    let set : Moment PageId String String :=
      .calls (.access (.set "key" "value"))
    let happenings : List Happening :=
      [.metric (.create (.clone 0)),
        .metric (.register 1 .counter other ["pages"]),
        .meanwhile { tracing := true, hosts := [.directed (.number 1)] },
        .builds 0 (request "pages" 0), .builds 0 (request "pages" 1),
        .lives 0 set, .builds 0 (request "page" 0), .lives 1 set, .lives 2 set,
        .lives 0 .returns, .lives 0 (.calls (.announce 7 (.number 1))),
        .lives 1 .returns, .lives 1 (.calls (.clear (.number 1))),
        .lives 0 .returns, .metric (.change .counter 0 (.increase 5)),
        .lives 0 (.calls (.settle 1 .succeeded (.number 2))),
        .lives 1 .announces, .lives 0 .announces, .lives 1 .returns,
        .lives 1 (.calls (.access (.get "key")))]
    let labels (name : String) (tally : Tally) :=
      [("name", name), ("op", tally.label)]
    let commands : List Command := [.cache 1 (.set "key" "value")]
    ∃ fleet,
      ((start Library.standard false).after? happenings = some fleet ∧
        fleet.Supported Library.standard) ∧
      fleet.names = ["pages", "pages", "page"] ∧
      fleet.world.depot.rows 0 "navstore_op_total" (labels "pages" .set) =
        [⟨labels "pages" .set, .ofInt 2⟩] ∧
      fleet.world.depot.rows 0 "navstore_op_total" (labels "pages" .evict) =
        [⟨labels "pages" .evict, .ofInt 1⟩] ∧
      fleet.world.depot.rows 0 "navstore_op_total" (labels "page" .set) =
        [⟨labels "page" .set, .ofInt 1⟩] ∧
      fleet.world.depot.rows 0 "navstore_entries" [("name", "pages")] =
        [⟨[("name", "pages")], .ofInt 1⟩] ∧
      fleet.world.depot.rows 0 "navstore_entries" [("name", "page")] =
        [⟨[("name", "page")], .ofInt 1⟩] ∧
      (let later := Session.worldAfter scriptDepth commands fleet.world
      later.cells.map (fun cell => later.word? (cell.meters.tally .set)) =
          [some 3, some 3, some 1] ∧
        ∃ more next,
          (start Library.standard false).after? (happenings ++ more) = some next ∧
            next.Tells later) := by
  intro other request set happenings labels commands
  let total (name : String) (tally : Tally) (fleet : Fleet) : Nat :=
    sumOver name (fun member => member.conversation.increments tally) fleet.members
  have run :
      ((start Library.standard false).after? happenings).any (fun fleet =>
        fleet.names = ["pages", "pages", "page"] ∧
          [total "pages" .set fleet, total "pages" .evict fleet,
              total "page" .set fleet] = [2, 1, 1] ∧
          [lastSize "pages" fleet.filed, lastSize "page" fleet.filed] =
            [1, 1] ∧
          (∀ shared ∈ [Shared.operations, .retained],
            fleet.world.depot.Welcomes shared.definition) ∧
          fleet.world.Undisturbed
            (Session.worldAfter scriptDepth commands fleet.world) ∧
          (Session.worldAfter scriptDepth commands fleet.world).cells.map (fun cell =>
              (Session.worldAfter scriptDepth commands fleet.world).word?
                (cell.meters.tally .set)) =
            [some 3, some 3, some 1]) = true := by
    decide +kernel
  obtain ⟨fleet, happened, seen⟩ := (Option.any_eq_true _ _).mp run
  obtain ⟨named, totals, sizes, welcomes, undisturbed, words⟩ :=
    of_decide_eq_true seen
  simp only [List.cons.injEq, and_true, total] at totals sizes
  obtain ⟨sets, evicts, alone⟩ := totals
  obtain ⟨size, aloneSize⟩ := sizes
  have supported : fleet.Supported Library.standard := {
    valid := by
      intro shared
      cases shared <;> decide +kernel
    separates := by
      intro shared
      rw [named]
      cases shared <;> unfold Shared.Separates <;> decide +kernel
    welcomes := fun shared => welcomes shared (by cases shared <;> simp)
    shows := Library.shows_standard
  }
  obtain ⟨law, _, _, _, session⟩ := shared_metrics_stay_apart happened supported
  obtain ⟨more, next, goesOn, _, tells⟩ := session scriptDepth commands undisturbed
  have found
      (index : Nat)
      (name : String)
      (isThere : fleet.names[index]? = some name) :
      ∃ member, fleet.members[index]? = some member ∧ member.name = name := by
    rw [names, List.getElem?_map] at isThere
    exact Option.map_eq_some_iff.mp isThere
  obtain ⟨first, isFirst, firstName⟩ := found 0 "pages" (by rw [named]; rfl)
  obtain ⟨third, isThird, thirdName⟩ := found 2 "page" (by rw [named]; rfl)
  obtain ⟨_, counts, pages, _⟩ := law 0 first isFirst
  obtain ⟨_, thirdCounts, thirdPages, _⟩ := law 2 third isThird
  rw [firstName] at counts pages
  rw [thirdName] at thirdCounts thirdPages
  refine ⟨fleet, ⟨happened, supported⟩, named, ?_, ?_, ?_, ?_, ?_, words, more,
    next, goesOn, tells⟩
  · rw [counts .set, sets]
    rfl
  · rw [counts .evict, evicts]
    rfl
  · rw [thirdCounts .set, alone]
    rfl
  · rw [pages, size]
    rfl
  · rw [thirdPages, aloneSize]
    rfl

end Fleet

end NavState.Session
