import NavState.Proofs.Gathering
import NavState.Proofs.Readings
import NavState.Proofs.Requests

namespace NavState

/-!
# What a catalogue promises

A catalogue binds each name to the vector that was first registered under it.
Registering a name again gives that vector, whatever definition comes with it,
and whoever asks for the other kind, or for a first vector whose definition is
invalid, is refused and leaves no trace.  A vector whose name the exporter
refuses is bound all the same: its metrics work, and they are never published.

Other catalogues, and whatever others publish, change nothing of this, and all of
it is so over any library of metrics.
-/

namespace Metric.Depot

/-- A catalogue in front of an exporter, with nothing bound yet. -/
structure Blank (catalogue exporter : Nat) (depot : Depot) : Prop where
  isThere : depot.catalogues[catalogue]? = some ⟨exporter, []⟩
  behind : exporter < depot.exporters.length

/-- What the first registration of a name makes. -/
structure Enrolled
    (catalogue exporter : Nat)
    (kind : Kind)
    (definition : Definition)
    (depot : Depot)
    (registered : Registered) :
    Prop where
  number : registered.vector = depot.forms.length
  forms : registered.depot.forms = depot.forms ++ [(kind, definition)]
  bound :
    registered.depot.boundNumber? catalogue definition.name =
      some registered.vector
  /-- The library decides whether the exporter takes the vector. -/
  refused : registered.refused = !depot.admits exporter [⟨definition, []⟩]
  /-- Only the exporter of the catalogue ever publishes the vector. -/
  published :
    ∀ more place,
      (registered.depot.after more).Publishes place registered.vector ↔
        place = exporter ∧ registered.refused = false

/--
The answer to a registration, given the form in which the name was first
registered, if it was.
-/
def Answers
    (catalogue exporter : Nat)
    (kind : Kind)
    (definition : Definition)
    (first? : Option Form)
    (depot : Depot) :
    Prop :=
  match first? with
  | some (own, _) =>
      if own = kind then
        ∃ number,
          depot.boundNumber? catalogue definition.name = some number ∧
            depot.register catalogue kind definition = .ok ⟨depot, number, false⟩
      else
        depot.register catalogue kind definition =
          .error (.otherKind definition.name own)
  | none =>
      match depot.library.fault? kind definition with
      | some text =>
          depot.register catalogue kind definition =
            .error (.invalid definition.name text)
      | none =>
          ∃ registered,
            depot.register catalogue kind definition = .ok registered ∧
              Enrolled catalogue exporter kind definition depot registered

/-- What a catalogue has bound after some actions. -/
structure Catalogued
    (catalogue exporter : Nat)
    (actions : List Action)
    (depot : Depot) :
    Prop where
  /-- No name is bound twice. -/
  distinct : (Assoc.keys (depot.catalogue catalogue).bound).Nodup
  /-- A name is bound to a vector of the form in which it was first registered. -/
  forms :
    ∀ name,
      depot.boundForm? catalogue name =
        Action.first? depot.library catalogue name actions
  /-- No two names share a vector. -/
  apart :
    ∀ name other number,
      depot.boundNumber? catalogue name = some number →
      depot.boundNumber? catalogue other = some number →
      name = other
  /-- A name stays bound to its vector. -/
  kept :
    ∀ name number more,
      depot.boundNumber? catalogue name = some number →
      (depot.after more).boundNumber? catalogue name = some number
  /-- A name that was only registered with invalid definitions can still be bound. -/
  answers :
    ∀ kind definition,
      depot.Answers catalogue exporter kind definition
        (Action.first? depot.library catalogue definition.name actions)

/-- How the metrics of a vector behave. -/
structure Accumulates (number : Nat) (form : Form) (depot : Depot) : Prop where
  kept : ∀ more, (depot.after more).forms[number]? = some form
  /-- The right number of values is given a metric, which starts at zero. -/
  given :
    ∀ values,
      values.length = form.2.labels.length →
      let address := depot.library.address form.2 values
      ∃ later,
        depot.child? number values = some (address, later) ∧
          later.reading? number address =
            some ((depot.reading? number address).getD 0)
  unfit :
    ∀ values,
      values.length ≠ form.2.labels.length →
      depot.child? number values = none
  /-- Its reading moves by its own changes alone. -/
  moved :
    ∀ address reading more,
      depot.reading? number address = some reading →
      (depot.after more).reading? number address =
        some (form.1.moved reading (Action.changesAt number address more))
  /-- If it only grows, it reads the sum. -/
  summed :
    ∀ address reading amounts more,
      depot.reading? number address = some reading →
      Action.changesAt number address more = amounts.map .increase →
      (depot.after more).reading? number address =
        some (form.1.wrap (reading + total amounts))
  /-- Whoever publishes the vector shows its metrics, in floating point. -/
  shown :
    depot.library.Shows →
    ∀ exporter address reading,
      depot.Publishes exporter number →
      depot.reading? number address = some reading →
      ∃ family ∈ depot.gather exporter,
        family.name = form.2.name ∧
          ∃ row ∈ family.rows, row.reading = .ofInt reading
  /-- Nobody else shows anything of what is done with them. -/
  hidden :
    ∀ exporter,
      ¬depot.Publishes exporter number →
      (∀ values, (depot.perform (.asks number values)).gather exporter =
        depot.gather exporter) ∧
      ∀ address change,
        (depot.perform (.changes number address change)).gather exporter =
          depot.gather exporter

/-! ## Names -/

section Names

variable
  {depot : Depot}
  {catalogue exporter : Nat}

theorem Blank.catalogue_eq (blank : depot.Blank catalogue exporter) :
    depot.catalogue catalogue = ⟨exporter, []⟩ := by
  rw [Depot.catalogue, blank.isThere]
  rfl

theorem Blank.stands (blank : depot.Blank catalogue exporter) :
    depot.Stands catalogue exporter where
  inside := (List.getElem?_eq_some_iff.mp blank.isThere).1
  front := by rw [blank.catalogue_eq]
  behind := blank.behind

theorem Blank.boundForm?
    (blank : depot.Blank catalogue exporter)
    (name : String) :
    depot.boundForm? catalogue name = none := by
  rw [Depot.boundForm?, boundNumber?, blank.catalogue_eq]
  rfl

theorem refused_enroll
    (stands : depot.Stands catalogue exporter)
    (kind : Kind)
    (definition : Definition) :
    (depot.enroll catalogue kind definition).refused =
      !depot.admits exporter [⟨definition, []⟩] := by
  rw [← stands.front]
  rfl

/-- A new vector is published by the exporter of its catalogue, if by any. -/
theorem Sound.publishes_enroll_iff
    (sound : depot.Sound)
    (stands : depot.Stands catalogue exporter)
    (kind : Kind)
    (definition : Definition)
    (place : Nat) :
    (depot.enroll catalogue kind definition).depot.Publishes place
        depot.vectors.length ↔
      place = exporter ∧ depot.admits exporter [⟨definition, []⟩] = true := by
  have isNew : ¬depot.Publishes place depot.vectors.length := by
    intro member
    have inside := sound.published place _ member
    rw [names, List.length_map] at inside
    exact Nat.lt_irrefl _ inside
  rw [Publishes, exporter_enroll, stands.front]
  split
  · next own =>
      cases depot.admits exporter [⟨definition, []⟩] with
      | true =>
          exact iff_of_true (List.mem_append_right _ (List.mem_singleton.mpr rfl))
            ⟨own.1.symm, rfl⟩
      | false =>
          exact iff_of_false isNew (by simp)
  · next elsewhere =>
      refine iff_of_false isNew ?_
      rintro ⟨rfl, _⟩
      exact elsewhere ⟨rfl, stands.behind⟩

theorem Sound.enrolled
    (sound : depot.Sound)
    (stands : depot.Stands catalogue exporter)
    {definition : Definition}
    (unbound : depot.boundNumber? catalogue definition.name = none)
    (kind : Kind) :
    depot.Enrolled catalogue exporter kind definition
      (depot.enroll catalogue kind definition) where
  number := (List.length_map _).symm
  forms := forms_enroll catalogue kind definition depot
  bound := by
    rw [boundNumber?_enroll stands.inside, unbound, if_pos ⟨rfl, rfl⟩]
    rfl
  refused := refused_enroll stands kind definition
  published := by
    intro more place
    have isThere :
        depot.vectors.length <
          (depot.enroll catalogue kind definition).depot.forms.length := by
      rw [forms_enroll, List.length_append, forms, List.length_map]
      exact Nat.lt_succ_self _
    rw [refused_enroll stands, Bool.not_eq_false']
    exact (publishes_after_iff isThere more place).trans
      (sound.publishes_enroll_iff stands kind definition place)

/-- A registration is answered by what is bound to the name. -/
theorem Sound.answers
    (sound : depot.Sound)
    (stands : depot.Stands catalogue exporter)
    (kind : Kind)
    (definition : Definition) :
    depot.Answers catalogue exporter kind definition
      (depot.boundForm? catalogue definition.name) := by
  rw [Depot.boundForm?]
  cases bound : depot.boundNumber? catalogue definition.name with
  | some number =>
      obtain ⟨⟨own, first⟩, isThere⟩ := sound.exists_form bound
      have answer := register_of_bound bound isThere kind
      rw [Option.bind_some, isThere, Answers]
      split
      · next same =>
          rw [if_pos same] at answer
          exact ⟨number, bound, answer⟩
      · next different =>
          rw [if_neg different] at answer
          exact answer
  | none =>
      rw [Option.bind_none, Answers]
      cases checked : depot.library.fault? kind definition with
      | some text =>
          exact register_of_invalid bound checked
      | none =>
          exact ⟨_, register_of_valid bound checked,
            sound.enrolled stands bound kind⟩

/-- What a catalogue has bound is what was registered through it. -/
theorem Blank.catalogued
    (blank : depot.Blank catalogue exporter)
    (sound : depot.Sound)
    (actions : List Action) :
    (depot.after actions).Catalogued catalogue exporter actions := by
  have later := sound.after actions
  have forms (name : String) :
      (depot.after actions).boundForm? catalogue name =
        Action.first? (depot.after actions).library catalogue name actions := by
    rw [sound.boundForm?_after blank.stands, blank.boundForm?, Option.none_or,
      library_after]
  refine ⟨?_, forms, ?_, ?_, ?_⟩
  · refine nodup_keys_after ?_ actions
    rw [blank.catalogue_eq]
    exact List.nodup_nil
  · intro name other number first second
    have named := later.bound catalogue name number first
    rw [later.bound catalogue other number second] at named
    cases named
    rfl
  · intro name number more bound
    exact boundNumber?_after bound more
  · intro kind definition
    rw [← forms]
    exact later.answers (blank.stands.after actions) kind definition

end Names

/-! ## Metrics -/

section Hidden

variable
  {depot : Depot}
  {exporter number : Nat}
  (hidden : ¬depot.Publishes exporter number)

include hidden

/-- Whoever does not publish a vector does not show its new metrics. -/
theorem gather_asks_of_not_publishes (values : List String) :
    (depot.perform (.asks number values)).gather exporter =
      depot.gather exporter := by
  rw [perform]
  split
  · next key later made =>
      obtain ⟨vector, changed, _, _, same⟩ := eq_of_child? made
      have shape :
          later = { depot with vectors := depot.vectors.set number changed } :=
        same
      rw [shape]
      refine gather_of_not_publishes hidden rfl rfl fun other different => ?_
      exact List.getElem?_set_ne (Ne.symm different)
  · rfl

/-- Whoever does not publish a vector does not show changes of its metrics. -/
theorem gather_changes_of_not_publishes (address : Nat) (change : Change) :
    (depot.perform (.changes number address change)).gather exporter =
      depot.gather exporter := by
  refine gather_of_not_publishes hidden rfl rfl fun other different => ?_
  exact List.getElem?_modify_ne _ _ (Ne.symm different)

end Hidden

theorem accumulates
    {depot : Depot}
    {number : Nat}
    {form : Form}
    (isThere : depot.forms[number]? = some form) :
    depot.Accumulates number form where
  kept := form_after isThere
  given := fun _ fits => child?_of_fits isThere fits
  unfit := fun _ unfit => child?_of_not_fits isThere unfit
  moved := fun _ _ more before => reading?_after isThere before more
  summed := fun _ _ _ _ before grows => reading?_after_of_grows isThere before grows
  shown := fun shows _ _ _ published reads =>
    exists_row_of_publishes shows published isThere reads
  hidden := fun _ hidden =>
    ⟨gather_asks_of_not_publishes hidden, gather_changes_of_not_publishes hidden⟩

end Metric.Depot

namespace Session

open NavState.Metric (Action Kind Definition RegistrationError Registered)

/-- How a registry hands out the metrics of a catalogue. -/
structure World.HandsOut
    (catalogue registry : Nat)
    (world : World) :
    Prop where
  /-- A registration that fails is reported, and nothing has changed. -/
  refuses :
    ∀ kind definition values error,
      world.depot.register catalogue kind definition = .error error →
      (performMetric (.register registry kind definition values)).reply world =
        (.fault (.registration error), world)
  /-- One that succeeds gives a handle of the metric for its values. -/
  gives :
    ∀ kind definition values registered address depot,
      world.depot.register catalogue kind definition = .ok registered →
      registered.depot.child? registered.vector values = some (address, depot) →
      ∃ later,
        (performMetric (.register registry kind definition values)).reply world =
            (.number (metersOf kind world).length, later) ∧
          later.depot = depot ∧
          metersOf kind later =
            metersOf kind world ++ [.stored registered.vector address]
  /-- A clone of the registry hands out the metrics of the same catalogue. -/
  clones :
    (performMetric (.create (.clone registry))).reply world =
      (.number world.registries.length,
        { world with registries := world.registries ++ [.exporting catalogue] })

theorem handsOut
    {world : World}
    {catalogue registry : Nat}
    (found : world.registries[registry]? = some (.exporting catalogue)) :
    world.HandsOut catalogue registry where
  refuses := fun _ _ values _ fails =>
    reply_performMetric_register_of_error found fails values
  gives := fun _ _ _ _ _ _ succeeds asked =>
    reply_performMetric_register found succeeds asked
  clones := by
    rw [performMetric, createRegistry, reply_registryOf_bind found]
    rfl

end Session

namespace Metric.Depot

open NavState.Session (World performMetric MetricCommand)

/--
Whatever is done with a depot over any library of metrics, a catalogue keeps each
name bound to the vector that was first registered under it, and refuses what does
not agree with it without a trace.  The metrics of each vector move by their own
changes.  If the library shows what it collects, they are shown where the vector
was published when it was made, if it was, and they are shown nowhere else.

All of this is done by commands through registries of the catalogue and their
clones.
-/
theorem names_keep_their_first_vectors
    {library : Library}
    {catalogue exporter : Nat}
    {earlier : List Action}
    (blank : ((opened library).after earlier).Blank catalogue exporter)
    (actions : List Action) :
    (((opened library).after earlier).after actions).Catalogued catalogue exporter
        actions ∧
      (∀ number form,
        (((opened library).after earlier).after actions).forms[number]? = some form →
        (((opened library).after earlier).after actions).Accumulates number form) ∧
      ∀ world : World,
        (∀ registry,
          world.registries[registry]? = some (.exporting catalogue) →
          world.HandsOut catalogue registry) ∧
        ∀ command : MetricCommand,
          ((performMetric command).reply world).2.depot =
            world.depot.after (command.actions world) := by
  refine ⟨blank.catalogued ((sound_opened library).after earlier) actions, ?_, ?_⟩
  · intro number form isThere
    exact accumulates isThere
  · intro world
    exact ⟨fun registry found => Session.handsOut found,
      fun command => Session.depot_performMetric command world⟩

/--
An exporter that shows metrics of somebody else, one of them with a constant
label, already gets another catalogue.
-/
def occupied : List Action := [
  .publishes 0
    { descriptors := [
        ⟨⟨"taken", "Somebody else's.", []⟩, []⟩,
        ⟨⟨"zones", "Somebody else's.", ["page"]⟩, [("zone", "north")]⟩]
      families := [⟨"taken", "Somebody else's.", .gauge, [⟨[], .ofInt (-7)⟩]⟩] },
  .addsCatalogue 0]

/--
The first registration of a name is invalid, the next one counts, and of the
later ones one asks for the other kind.  What somebody else published reads
otherwise meanwhile.  The exporter refuses another name.
-/
def registrations : List Action :=
  let home := Library.standard.address ⟨"requests", "Requests.", ["page"]⟩ ["home"]
  let only := Library.standard.address ⟨"taken", "Ours.", []⟩ []
  [.registers 1 .counter ⟨"requests", "", ["page"]⟩,
    .registers 1 .counter ⟨"requests", "Requests.", ["page"]⟩,
    .asks 0 ["home"],
    .changes 0 home (.increase 2),
    .renews 0 0 [⟨"taken", "Somebody else's.", .gauge, [⟨[], .ofInt 4⟩]⟩],
    .registers 1 .gauge ⟨"requests", "Requests.", ["page"]⟩,
    .registers 1 .counter ⟨"requests", "Something else.", []⟩,
    .asks 0 ["home"],
    .changes 0 home (.increase 3),
    .registers 1 .gauge ⟨"taken", "Ours.", []⟩,
    .asks 1 [],
    .changes 1 only (.decrease 1)]

theorem names_keep_their_first_vectors_of_refused :
    let depot := ((opened .standard).after occupied).after registrations
    let requests : Definition := ⟨"requests", "Requests.", ["page"]⟩
    let taken : Definition := ⟨"taken", "Ours.", []⟩
    let world : World :=
      { tracing := true, registries := [.exporting 0, .exporting 1], depot := depot }
    ((opened .standard).after occupied).Blank 1 0 ∧
      depot.Catalogued 1 0 registrations ∧
      depot.boundForm? 1 "requests" = some (.counter, requests) ∧
      depot.boundForm? 1 "taken" = some (.gauge, taken) ∧
      depot.Accumulates 1 (.gauge, taken) ∧
      (∃ family ∈ depot.gather 0,
        family.name = "requests" ∧ ∃ row ∈ family.rows, row.reading = .ofInt 5) ∧
      depot.reading? 1 (Library.standard.address taken []) = some (-1) ∧
      ¬depot.Publishes 0 1 ∧
      (performMetric (.register 1 .gauge requests ["home"])).reply world =
        (.fault (.registration (.otherKind "requests" .counter)), world) := by
  intro depot requests taken world
  have blank : ((opened .standard).after occupied).Blank 1 0 :=
    ⟨by decide +kernel, by decide +kernel⟩
  obtain ⟨catalogued, accumulates, sessions⟩ :=
    names_keep_their_first_vectors blank registrations
  have isFirst :
      Action.first? .standard 1 "requests" registrations =
        some (.counter, requests) := by
    decide +kernel
  have first :
      Action.first? depot.library 1 "requests" registrations =
        some (.counter, requests) := by
    rw [library_after, library_after]
    exact isFirst
  have bound : depot.boundForm? 1 "requests" = some (.counter, requests) :=
    (catalogued.forms "requests").trans first
  have refused :
      depot.register 1 .gauge requests =
        .error (.otherKind "requests" .counter) := by
    have answer := catalogued.answers .gauge requests
    rw [first] at answer
    exact answer
  have shows : depot.library.Shows := by
    rw [library_after, library_after]
    exact Library.shows_standard
  refine ⟨blank, catalogued, bound, by decide +kernel,
    accumulates 1 _ (by decide +kernel), ?_, by decide +kernel, by decide +kernel,
    ((sessions world).1 1 rfl).refuses _ _ _ _ refused⟩
  have ours : depot.Accumulates 0 (.counter, requests) :=
    accumulates 0 _ (by decide +kernel)
  exact ours.shown shows 0 (Library.standard.address requests ["home"]) 5
    (by decide +kernel) (by decide +kernel)

end Metric.Depot

end NavState
