import NavState.Proofs.Conversations
import NavState.Proofs.Sessions

namespace NavState.Session

/-!
# What sessions announce

In a session the departures of a cache go to the log under the number of its
listener, and the listener may run a script before the next one goes there.
This is a conversation: the log of a session tells, for each cache with a
listener, exactly what has been announced in some conversation with the cache.
-/

/-- The departures that a log announces to a listener. -/
def announcedTo (number : Nat) (log : List LogEntry) : List (Departure PageId) :=
  log.filterMap fun entry =>
    match entry with
    | .departed departure cache =>
        if cache = number then
          some departure
        else
          none
    | _ => none

/-- A conversation with a cache of a session. -/
abbrev Transcript := Conversation PageId String String

/-- The conversation can be had with a cache that is new at its beginning. -/
def Transcript.Possible (transcript : Transcript) : Prop :=
  ∃ capacity page fresh moments,
    Cache.empty? capacity page = some fresh ∧
      (Conversation.start fresh).after? moments = some transcript

theorem Transcript.Possible.step?
    {transcript next : Transcript}
    (possible : transcript.Possible)
    {moment : Moment PageId String String}
    (stepped : Conversation.step? moment transcript = some next) :
    next.Possible := by
  obtain ⟨capacity, page, fresh, moments, built, happened⟩ := possible
  refine ⟨capacity, page, fresh, moments ++ [moment], built, ?_⟩
  rw [Conversation.after?_append, happened]
  simp [Conversation.after?, stepped]

theorem announcedTo_append
    (number : Nat)
    (earlier later : List LogEntry) :
    announcedTo number (earlier ++ later) =
      announcedTo number earlier ++ announcedTo number later :=
  List.filterMap_append

namespace World

/--
Every cell with a listener has its conversation, of which the log, together with
the part of it that is past, tells what has been announced.
-/
structure Represents
    (past : List LogEntry)
    (transcripts : Nat → Transcript)
    (world : World) :
    Prop where
  /-- The number of a listener leads to its cell. -/
  numbered :
    ∀ (index : Nat) (cell : Cell) (listener : Listener),
      world.cells[index]? = some cell →
      cell.listener = some listener →
      world.caches[listener.cache]? = some index
  /-- Nothing is announced under a number that is not given yet. -/
  unheard :
    ∀ number,
      world.caches.length ≤ number →
      announcedTo number (past ++ world.log) = []
  absent :
    ∀ index,
      world.cells[index]? = none →
      (transcripts index).due = []
  possible :
    ∀ (index : Nat) (cell : Cell) (listener : Listener),
      world.cells[index]? = some cell →
      cell.listener = some listener →
      (transcripts index).Possible ∧
        (transcripts index).cache = cell.cache ∧
        (transcripts index).departures =
          announcedTo listener.cache (past ++ world.log)

/--
Conversations go on while the world becomes another one, and every call that is
taken up meanwhile returns.
-/
structure Converses (before ended : World) : Prop where
  listeners :
    ∀ (index : Nat) (cell : Cell),
      before.cells[index]? = some cell →
      ∃ later : Cell,
        ended.cells[index]? = some later ∧ later.listener = cell.listener
  transcribed :
    ∀ past transcripts,
      before.Represents past transcripts →
      ∃ later,
        ended.Represents past later ∧
          ∀ index, (later index).due = (transcripts index).due

theorem Converses.trans
    {before between ended : World}
    (first : before.Converses between)
    (second : between.Converses ended) :
    before.Converses ended where
  listeners := by
    intro index cell found
    obtain ⟨reached, foundBetween, same⟩ := first.listeners index cell found
    obtain ⟨later, foundLater, sameLater⟩ :=
      second.listeners index reached foundBetween
    exact ⟨later, foundLater, sameLater.trans same⟩
  transcribed := by
    intro past transcripts represents
    obtain ⟨reached, representsBetween, sameDue⟩ :=
      first.transcribed past transcripts represents
    obtain ⟨later, representsLater, sameLater⟩ :=
      second.transcribed past reached representsBetween
    exact ⟨later, representsLater,
      fun index => (sameLater index).trans (sameDue index)⟩

/-- What nobody notices announces nothing. -/
theorem Apart.announcedTo_eq
    {before ended : World}
    (apart : before.Apart ended)
    (number : Nat)
    (past : List LogEntry) :
    announcedTo number (past ++ ended.log) =
      announcedTo number (past ++ before.log) := by
  obtain ⟨news, log, unnoticed⟩ := apart.log
  have nothing : announcedTo number news = [] := by
    rw [announcedTo, List.filterMap_eq_nil_iff]
    intro entry member
    cases entry with
    | departed departure cache => exact absurd member (unnoticed _ _)
    | _ => rfl
  rw [log, ← List.append_assoc, announcedTo_append, nothing, List.append_nil]

theorem Represents.apart
    {past : List LogEntry}
    {transcripts : Nat → Transcript}
    {before ended : World}
    (represents : before.Represents past transcripts)
    (apart : before.Apart ended) :
    ended.Represents past transcripts where
  numbered := by
    rw [apart.cells]
    intro index cell listener found listens
    obtain ⟨more, caches⟩ := apart.caches
    have numbered := represents.numbered index cell listener found listens
    rw [← caches, List.getElem?_append_left
      (List.getElem?_eq_some_iff.mp numbered).1]
    exact numbered
  unheard := by
    intro number notGiven
    rw [apart.announcedTo_eq]
    exact represents.unheard number
      (apart.caches.length_le.trans notGiven)
  absent := by
    rw [apart.cells]
    exact represents.absent
  possible := by
    rw [apart.cells]
    intro index cell listener found listens
    rw [apart.announcedTo_eq]
    exact represents.possible index cell listener found listens

theorem Apart.converses
    {before ended : World}
    (apart : before.Apart ended) :
    before.Converses ended where
  listeners := by
    intro index cell found
    refine ⟨cell, ?_, rfl⟩
    rw [apart.cells]
    exact found
  transcribed := fun _ transcripts represents =>
    ⟨transcripts, represents.apart apart, fun _ => rfl⟩

/-- The conversation of one cell goes on, and no other is touched. -/
theorem Represents.step?
    {past : List LogEntry}
    {transcripts : Nat → Transcript}
    {before ended : World}
    (represents : before.Represents past transcripts)
    {index : Nat}
    {cell later : Cell}
    {listener : Listener}
    (found : before.cells[index]? = some cell)
    (listens : cell.listener = some listener)
    (foundLater : ended.cells[index]? = some later)
    (listensLater : later.listener = some listener)
    (others :
      ∀ other,
        other ≠ index →
        ended.cells[other]? = before.cells[other]?)
    (caches : ended.caches = before.caches)
    (unheard :
      ∀ number,
        number ≠ listener.cache →
        announcedTo number (past ++ ended.log) =
          announcedTo number (past ++ before.log))
    {moment : Moment PageId String String}
    {next : Transcript}
    (stepped : (transcripts index).step? moment = some next)
    (cache : next.cache = later.cache)
    (heard :
      next.departures = announcedTo listener.cache (past ++ ended.log)) :
    ended.Represents past (Function.update transcripts index next) := by
  have number := represents.numbered index cell listener found listens
  exact {
    numbered := by
      intro other otherCell otherListener foundOther listensOther
      rw [caches]
      by_cases same : other = index
      · subst same
        rw [foundLater] at foundOther
        cases foundOther
        rw [listensLater] at listensOther
        cases listensOther
        exact number
      · rw [others other same] at foundOther
        exact represents.numbered other otherCell otherListener foundOther
          listensOther
    unheard := by
      intro other notGiven
      rw [caches] at notGiven
      have given : listener.cache < before.caches.length :=
        (List.getElem?_eq_some_iff.mp number).1
      rw [unheard other (by omega)]
      exact represents.unheard other notGiven
    absent := by
      intro other missing
      have different : other ≠ index := by
        rintro rfl
        rw [foundLater] at missing
        cases missing
      rw [others other different] at missing
      rw [Function.update_of_ne different]
      exact represents.absent other missing
    possible := by
      intro other otherCell otherListener foundOther listensOther
      by_cases same : other = index
      · subst same
        rw [foundLater] at foundOther
        cases foundOther
        rw [listensLater] at listensOther
        cases listensOther
        rw [Function.update_self]
        have possible :=
          (represents.possible other cell listener found listens).1
        exact ⟨possible.step? stepped, cache, heard⟩
      · rw [others other same] at foundOther
        have otherNumber :=
          represents.numbered other otherCell otherListener foundOther
            listensOther
        have different : otherListener.cache ≠ listener.cache := by
          intro sameNumber
          rw [sameNumber, number] at otherNumber
          exact same (Option.some.inj otherNumber).symm
        rw [Function.update_of_ne same, unheard _ different]
        exact represents.possible other otherCell otherListener foundOther
          listensOther
  }

/-! ## Deliveries -/

theorem announcedTo_record_self
    (past : List LogEntry)
    (departure : Departure PageId)
    (number : Nat)
    (world : World) :
    announcedTo number
        (past ++ (world.record (.departed departure number)).log) =
      announcedTo number (past ++ world.log) ++ [departure] := by
  rw [record, ← List.append_assoc, announcedTo_append]
  simp [announcedTo]

theorem announcedTo_record_of_ne
    {number other : Nat}
    (different : other ≠ number)
    (past : List LogEntry)
    (departure : Departure PageId)
    (world : World) :
    announcedTo other
        (past ++ (world.record (.departed departure number)).log) =
      announcedTo other (past ++ world.log) := by
  rw [record, ← List.append_assoc, announcedTo_append]
  simp [announcedTo, Ne.symm different]

/-- What is due is announced by an entry of the log. -/
theorem Represents.announce
    {past : List LogEntry}
    {transcripts : Nat → Transcript}
    {world : World}
    (represents : world.Represents past transcripts)
    {index : Nat}
    {cell : Cell}
    {listener : Listener}
    (found : world.cells[index]? = some cell)
    (listens : cell.listener = some listener)
    {notice : Notice PageId String String}
    {rest : List (Notice PageId String String)}
    {outer : List (List (Notice PageId String String))}
    (due : (transcripts index).due = (notice :: rest) :: outer) :
    (world.record
        (.departed notice.departure listener.cache)).Represents past
      (Function.update transcripts index
        { transcripts index with
          due := rest :: outer
          announced := (transcripts index).announced ++ [notice] }) := by
  obtain ⟨_, cache, heard⟩ :=
    represents.possible index cell listener found listens
  have announced :
      (transcripts index).step? .announces =
        some
          { transcripts index with
            due := rest :: outer
            announced := (transcripts index).announced ++ [notice] } := by
    simp [Conversation.step?, due]
  have foundTold :
      (world.record
          (.departed notice.departure listener.cache)).cells[index]? =
        some cell :=
    found
  refine represents.step? found listens foundTold listens (fun _ _ => rfl) rfl
    (fun number different =>
      announcedTo_record_of_ne different past notice.departure world)
    announced cache ?_
  rw [announcedTo_record_self, ← heard]
  simp [Conversation.departures]

/-- When everything is announced, the call returns. -/
theorem Represents.return
    {past : List LogEntry}
    {transcripts : Nat → Transcript}
    {world : World}
    (represents : world.Represents past transcripts)
    {index : Nat}
    {cell : Cell}
    {listener : Listener}
    (found : world.cells[index]? = some cell)
    (listens : cell.listener = some listener)
    {outer : List (List (Notice PageId String String))}
    (due : (transcripts index).due = [] :: outer) :
    world.Represents past
      (Function.update transcripts index
        { transcripts index with due := outer }) := by
  obtain ⟨_, cache, heard⟩ :=
    represents.possible index cell listener found listens
  have returned :
      (transcripts index).step? .returns =
        some { transcripts index with due := outer } := by
    simp [Conversation.step?, due]
  exact represents.step? found listens found listens (fun _ _ => rfl) rfl
    (fun _ _ => rfl) returned cache heard

/--
A call announces what it has to, while the listener takes up calls in between,
and then it returns.
-/
theorem Represents.deliver
    {client : Client}
    (continues : ∀ script world, Converses world (client script world))
    {past : List LogEntry}
    {calling : Cell}
    {listener : Listener}
    (calls : calling.listener = some listener)
    {index : Nat}
    {outer : List (List (Notice PageId String String))}
    (notices : List (Notice PageId String String))
    {transcripts : Nat → Transcript}
    {world : World}
    (represents : world.Represents past transcripts)
    {cell : Cell}
    (found : world.cells[index]? = some cell)
    (listens : cell.listener = some listener)
    (due : (transcripts index).due = notices :: outer) :
    ∃ later,
      (world.deliver client calling
          (notices.map Notice.departure)).Represents past later ∧
        (later index).due = outer ∧
        ∀ other, other ≠ index → (later other).due = (transcripts other).due := by
  induction notices generalizing transcripts world cell with
  | nil =>
      refine ⟨_, represents.return found listens due, ?_, ?_⟩
      · rw [Function.update_self]
      · intro other different
        rw [Function.update_of_ne different]
  | cons notice rest inductionHypothesis =>
      obtain ⟨counted, quiet, shape⟩ :=
        deliverOne_eq client calling world notice.departure
      rw [calls] at shape
      dsimp only at shape
      have representsCounted := represents.apart quiet.toApart
      have foundCounted : counted.cells[index]? = some cell := by
        rw [quiet.cells]
        exact found
      let told := counted.record (.departed notice.departure listener.cache)
      have representsTold := representsCounted.announce foundCounted listens due
      have answered :=
        continues (listener.scripts.on notice.departure.reason) told
      obtain ⟨reached, representsReached, sameDue⟩ :=
        answered.transcribed past _ representsTold
      obtain ⟨cellReached, foundReached, sameListener⟩ :=
        answered.listeners index cell foundCounted
      have dueReached : (reached index).due = rest :: outer := by
        rw [sameDue, Function.update_self]
      obtain ⟨later, representsLater, dueLater, dueOthers⟩ :=
        inductionHypothesis representsReached foundReached
          (sameListener.trans listens) dueReached
      refine ⟨later, ?_, dueLater, ?_⟩
      · rw [List.map_cons, World.deliver, List.foldl_cons, shape]
        exact representsLater
      · intro other different
        rw [dueOthers other different, sameDue,
          Function.update_of_ne different]

/-- Nothing is told of a cache without a listener. -/
theorem Represents.putCache
    {past : List LogEntry}
    {transcripts : Nat → Transcript}
    {world : World}
    (represents : world.Represents past transcripts)
    {index : Nat}
    {cell : Cell}
    (found : world.cells[index]? = some cell)
    (silent : cell.listener = none)
    (cache : Cache PageId String String) :
    (world.putCache index cache).Represents past transcripts := by
  have unchanged :
      ∀ (other : Nat) (otherCell : Cell) (listener : Listener),
        (world.putCache index cache).cells[other]? = some otherCell →
        otherCell.listener = some listener →
        world.cells[other]? = some otherCell := by
    intro other otherCell listener foundOther listens
    by_cases same : index = other
    · subst same
      have isPut : { cell with cache := cache } = otherCell := by
        simpa [World.putCache, found] using foundOther
      rw [← isPut, silent] at listens
      cases listens
    · simpa [World.putCache, same] using foundOther
  exact {
    numbered := fun other otherCell listener foundOther listens =>
      represents.numbered other otherCell listener
        (unchanged other otherCell listener foundOther listens) listens
    unheard := represents.unheard
    absent := by
      intro other missing
      apply represents.absent other
      simpa [World.putCache, List.getElem?_modify] using missing
    possible := fun other otherCell listener foundOther listens =>
      represents.possible other otherCell listener
        (unchanged other otherCell listener foundOther listens) listens
  }

/-- A turn is a call in the conversation of its cell. -/
theorem Represents.call
    {past : List LogEntry}
    {transcripts : Nat → Transcript}
    {world : World}
    (represents : world.Represents past transcripts)
    {index : Nat}
    {cell : Cell}
    {listener : Listener}
    (found : world.cells[index]? = some cell)
    (listens : cell.listener = some listener)
    (operation : Operation PageId String String) :
    (world.putCache index
        (cell.cache.perform operation).cache).Represents past
      (Function.update transcripts index
        ((transcripts index).call operation)) := by
  obtain ⟨_, cache, heard⟩ :=
    represents.possible index cell listener found listens
  have foundLater :
      (world.putCache index
          (cell.cache.perform operation).cache).cells[index]? =
        some { cell with cache := (cell.cache.perform operation).cache } := by
    simp [World.putCache, found]
  have called :
      (transcripts index).step? (.calls operation) =
        some ((transcripts index).call operation) :=
    rfl
  refine represents.step? found listens foundLater listens ?_ rfl
    (fun _ _ => rfl) called ?_ heard
  · intro other different
    simp [World.putCache, Ne.symm different]
  · simp only [Conversation.call, Conversation.nextCall, Call.turn, cache]

/-- A turn leaves every cell with its listener. -/
theorem listeners_enact
    {world : World}
    {index : Nat}
    {cell : Cell}
    (found : world.cells[index]? = some cell)
    {ρ : Type}
    (turn : Turn PageId String String ρ)
    {other : Nat}
    {otherCell : Cell}
    (foundOther : world.cells[other]? = some otherCell) :
    ∃ later : Cell,
      (world.enact index cell turn).cells[other]? = some later ∧
        later.listener = otherCell.listener := by
  rw [(quiet_enact index cell turn world).cells]
  by_cases same : index = other
  · subst same
    rw [found] at foundOther
    cases foundOther
    exact ⟨{ cell with cache := turn.cache }, by simp [putCache, found], rfl⟩
  · exact ⟨otherCell, by simp [putCache, same, foundOther], rfl⟩

/-- Deliveries leave every cell with its listener. -/
theorem listeners_deliver
    {client : Client}
    (continues : ∀ script world, Converses world (client script world))
    (calling : Cell)
    (departures : List (Departure PageId))
    (world : World)
    {index : Nat}
    {cell : Cell}
    (found : world.cells[index]? = some cell) :
    ∃ later : Cell,
      (world.deliver client calling departures).cells[index]? = some later ∧
        later.listener = cell.listener := by
  induction departures generalizing world cell with
  | nil =>
      exact ⟨cell, found, rfl⟩
  | cons departure rest inductionHypothesis =>
      obtain ⟨counted, quiet, shape⟩ :=
        deliverOne_eq client calling world departure
      have foundCounted : counted.cells[index]? = some cell := by
        rw [quiet.cells]
        exact found
      have delivered :
          ∃ reached : Cell,
            (world.deliverOne client calling departure).cells[index]? =
                some reached ∧
              reached.listener = cell.listener := by
        rw [shape]
        split
        · exact ⟨cell, foundCounted, rfl⟩
        · next listener _ =>
            let told := counted.record (.departed departure listener.cache)
            exact (continues (listener.scripts.on departure.reason)
              told).listeners index cell foundCounted
      obtain ⟨reached, foundReached, same⟩ := delivered
      obtain ⟨later, foundLater, sameLater⟩ :=
        inductionHypothesis _ foundReached
      exact ⟨later, foundLater, sameLater.trans same⟩

theorem apart_deliver_of_silent
    {client : Client}
    {calling : Cell}
    (silent : calling.listener = none)
    (departures : List (Departure PageId))
    (world : World) :
    world.Apart (world.deliver client calling departures) := by
  induction departures generalizing world with
  | nil =>
      exact apart_of_eq rfl
  | cons departure rest inductionHypothesis =>
      obtain ⟨counted, quiet, shape⟩ :=
        deliverOne_eq client calling world departure
      rw [silent] at shape
      rw [deliver, List.foldl_cons, shape]
      exact quiet.toApart.trans (inductionHypothesis counted)

theorem converses_takeTurn
    {client : Client}
    (continues : ∀ script world, Converses world (client script world))
    {world : World}
    {index : Nat}
    {cell : Cell}
    (found : world.cells[index]? = some cell)
    {ρ : Type}
    {turn : Turn PageId String String ρ}
    (operation : Operation PageId String String)
    (performs : turn.cache = (cell.cache.perform operation).cache)
    (leaves : turn.departures = (cell.cache.perform operation).departures) :
    Converses world (world.takeTurn client index cell turn) where
  listeners := by
    intro other otherCell foundOther
    obtain ⟨reached, foundReached, sameReached⟩ :=
      listeners_enact found turn foundOther
    obtain ⟨later, foundLater, sameLater⟩ :=
      listeners_deliver continues cell turn.departures _ foundReached
    exact ⟨later, foundLater, sameLater.trans sameReached⟩
  transcribed := by
    intro past transcripts represents
    have apart := (quiet_enact index cell turn world).toApart
    cases listens : cell.listener with
    | none =>
        have enacted :=
          (represents.putCache found listens turn.cache).apart apart
        exact ⟨transcripts,
          enacted.apart (apart_deliver_of_silent listens turn.departures _),
          fun _ => rfl⟩
    | some listener =>
        have foundEnacted :
            (world.enact index cell turn).cells[index]? =
              some { cell with cache := turn.cache } := by
          rw [apart.cells]
          simp [World.putCache, found]
        rw [performs] at apart
        have enacted :=
          (represents.call found listens operation).apart apart
        let call := (transcripts index).nextCall operation
        let notices : List (Notice PageId String String) :=
          call.turn.departures.map fun departure => ⟨departure, call⟩
        have due :
            (Function.update transcripts index
                ((transcripts index).call operation) index).due =
              notices :: (transcripts index).due := by
          rw [Function.update_self]
          rfl
        obtain ⟨later, representsLater, dueLater, dueOthers⟩ :=
          enacted.deliver continues listens notices foundEnacted listens due
        have cache : (transcripts index).cache = cell.cache :=
          (represents.possible index cell listener found listens).2.1
        have departures :
            notices.map Notice.departure = turn.departures := by
          rw [leaves, ← cache]
          simp [notices, call, Call.turn, Conversation.nextCall,
            Function.comp_def]
        rw [departures] at representsLater
        refine ⟨later, representsLater, fun other => ?_⟩
        by_cases same : other = index
        · rw [same, dueLater]
        · rw [dueOthers other same, Function.update_of_ne same]

/-- A log becomes part of what is past. -/
theorem Represents.shift
    {past : List LogEntry}
    {transcripts : Nat → Transcript}
    {world : World}
    (represents : world.Represents past transcripts) :
    { world with log := [] }.Represents (past ++ world.log) transcripts where
  numbered := represents.numbered
  unheard := by
    rw [List.append_nil]
    exact represents.unheard
  absent := represents.absent
  possible := by
    rw [List.append_nil]
    exact represents.possible

/-- The conversation with a new cache begins when the cache is added. -/
theorem Represents.addCell
    {past : List LogEntry}
    {transcripts : Nat → Transcript}
    {world : World}
    (represents : world.Represents past transcripts)
    {cell : Cell}
    {capacity : Nat}
    {page : PageId}
    (built : Cache.empty? capacity page = some cell.cache)
    (numbered :
      ∀ listener,
        cell.listener = some listener →
        listener.cache = world.caches.length) :
    { world with
      cells := world.cells ++ [cell]
      caches := world.caches ++ [world.cells.length] }.Represents past
      (Function.update transcripts world.cells.length
        (Conversation.start cell.cache)) := by
  have place :
      ∀ (index : Nat) (other : Cell),
        (world.cells ++ [cell])[index]? = some other →
        world.cells[index]? = some other ∧ index ≠ world.cells.length ∨
          index = world.cells.length ∧ other = cell := by
    intro index other found
    rcases lt_trichotomy index world.cells.length with inside | atEnd | beyond
    · rw [List.getElem?_append_left inside] at found
      exact .inl ⟨found, Nat.ne_of_lt inside⟩
    · subst atEnd
      rw [List.getElem?_concat_length] at found
      exact .inr ⟨rfl, (Option.some.inj found).symm⟩
    · have outside : (world.cells ++ [cell])[index]? = none := by
        rw [List.getElem?_eq_none_iff, List.length_append,
          List.length_singleton]
        omega
      rw [outside] at found
      cases found
  exact {
    numbered := by
      intro index other listener found listens
      dsimp only
      rcases place index other found with ⟨earlier, _⟩ | ⟨rfl, rfl⟩
      · have number := represents.numbered index other listener earlier listens
        rw [List.getElem?_append_left (List.getElem?_eq_some_iff.mp number).1]
        exact number
      · rw [numbered listener listens, List.getElem?_concat_length]
    unheard := by
      intro number notGiven
      rw [List.length_append] at notGiven
      exact represents.unheard number (by omega)
    absent := by
      intro index missing
      have beyond := List.getElem?_eq_none_iff.mp missing
      rw [List.length_append, List.length_singleton] at beyond
      rw [Function.update_of_ne (by omega)]
      exact represents.absent index (List.getElem?_eq_none (by omega))
    possible := by
      intro index other listener found listens
      rcases place index other found with ⟨earlier, different⟩ | ⟨rfl, rfl⟩
      · rw [Function.update_of_ne different]
        exact represents.possible index other listener earlier listens
      · rw [Function.update_self]
        refine ⟨⟨capacity, page, other.cache, [], built, rfl⟩, rfl, ?_⟩
        rw [numbered listener listens]
        exact (represents.unheard _ (Nat.le_refl _)).symm
  }

theorem tracks_converses : Tracks Converses where
  trans := Converses.trans
  apart := Apart.converses
  turn := fun continues _ _ _ found _ _ operation takes =>
    converses_takeTurn continues found operation takes.cache takes.departures
  cell := by
    intro world cell capacity page built numbered
    refine ⟨?_, ?_⟩
    · intro index other found
      refine ⟨other, ?_, rfl⟩
      rw [List.getElem?_append_left (List.getElem?_eq_some_iff.mp found).1]
      exact found
    · intro past transcripts represents
      refine ⟨_, represents.addCell built numbered, fun index => ?_⟩
      by_cases same : index = world.cells.length
      · subst same
        rw [Function.update_self,
          represents.absent _ (List.getElem?_eq_none (Nat.le_refl _))]
        rfl
      · rw [Function.update_of_ne same]

end World

/-! ## Whole sessions -/

/-- Everything that the commands of a session log. -/
def logAfter
    (depth : Nat)
    (commands : List Command)
    (world : World) :
    List LogEntry :=
  match commands with
  | [] => []
  | command :: rest =>
      let after := (performTop depth command { world with log := [] }).2
      after.log ++ logAfter depth rest after

theorem represents_worldAfter
    (depth : Nat)
    (commands : List Command)
    (world : World)
    {past : List LogEntry}
    {transcripts : Nat → Transcript}
    (represents : { world with log := [] }.Represents past transcripts) :
    ∃ later,
      { worldAfter depth commands world with log := [] }.Represents
          (past ++ logAfter depth commands world) later ∧
        ∀ index, (later index).due = (transcripts index).due := by
  induction commands generalizing past transcripts world with
  | nil =>
      refine ⟨transcripts, ?_, fun _ => rfl⟩
      simpa [logAfter, worldAfter] using represents
  | cons command rest inductionHypothesis =>
      have performed :=
        tracked_performTop World.tracks_converses.attempts.tasks depth command
          { world with log := [] }
      obtain ⟨reached, representsReached, sameDue⟩ :=
        performed.transcribed past transcripts represents
      obtain ⟨later, representsLater, sameLater⟩ :=
        inductionHypothesis _ representsReached.shift
      refine ⟨later, ?_, fun index => (sameLater index).trans (sameDue index)⟩
      rw [List.append_assoc] at representsLater
      exact representsLater

/-- The answers of a session give its log, command by command. -/
theorem flatMap_log_answers
    (depth : Nat)
    (watched : List Watched)
    (world : World)
    (last : Assoc Nat Status) :
    (answers depth world last watched).flatMap Answer.log =
      logAfter depth (watched.map Watched.command) world := by
  induction watched generalizing world last with
  | nil =>
      rfl
  | cons first rest inductionHypothesis =>
      simp only [answers, List.flatMap_cons, List.map_cons, logAfter,
        inductionHypothesis]

/--
What a session announces to the listener of a cache is what is announced in a
conversation that leads to the cache and in which every call has returned.
-/
theorem transcript_of_session
    (depth : Nat)
    (tracing : Bool)
    (watched : List Watched)
    {index : Nat}
    {cell : Cell}
    {listener : Listener}
    (found :
      (worldAfter depth (watched.map Watched.command)
          { tracing := tracing }).cells[index]? =
        some cell)
    (listens : cell.listener = some listener) :
    ∃ transcript : Transcript,
      transcript.Possible ∧
        transcript.due = [] ∧
        transcript.cache = cell.cache ∧
        transcript.departures =
          announcedTo listener.cache
            ((run depth tracing watched).flatMap Answer.log) := by
  let nothing : Transcript :=
    .start ⟨⟨[], 1, Nat.one_pos⟩, .number 0, none, 0, []⟩
  have represents :
      ({ tracing := tracing } : World).Represents [] fun _ => nothing := {
    numbered := by
      intro other otherCell otherListener foundOther
      cases foundOther
    unheard := fun _ _ => rfl
    absent := fun _ _ => rfl
    possible := by
      intro other otherCell otherListener foundOther
      cases foundOther
  }
  obtain ⟨later, representsLater, sameDue⟩ :=
    represents_worldAfter depth (watched.map Watched.command)
      { tracing := tracing } represents
  obtain ⟨possible, cache, heard⟩ :=
    representsLater.possible index cell listener found listens
  refine ⟨later index, possible, sameDue index, cache, ?_⟩
  rw [run, flatMap_log_answers]
  simpa using heard

end NavState.Session

namespace NavState.Conversation

variable {ι κ ν : Type} [DecidableEq ι] [DecidableEq κ]

/--
Every store leaves through one announcement.  Whenever no call is open in a
conversation, the stores that were committed or created for a page are those
announced to have left for it and the one that is retained, if it is.  The
accepted transitions are those that were committed, those whose pending store
was announced to be discarded, and the one in flight, if there is one.  A
discarded store is announced for the page that was the current one when the
call dropped it.  The calls of a conversation are a run of its cache.

And what sessions announce to listeners, whatever the listeners call meanwhile,
is announced in such conversations.
-/
theorem every_store_leaves_through_one_announcement
    {capacity : Nat}
    {page : ι}
    {fresh : Cache ι κ ν}
    (built : Cache.empty? capacity page = some fresh)
    {moments : List (Moment ι κ ν)}
    {conversation : Conversation ι κ ν}
    (happened : (start fresh).after? moments = some conversation)
    (quiet : conversation.due = []) :
    ((∀ page,
        conversation.commits.count page + conversation.creations.count page =
          conversation.departures.countP (Departure.leaves page) +
            (conversation.cache.retains page).toNat) ∧
      conversation.acceptances =
        conversation.commits.length +
          conversation.departures.countP Departure.discards +
          conversation.cache.isTransitioning.toNat ∧
      ∀ notice ∈ conversation.announced,
        notice.departure.discards = true →
        notice.call ∈ conversation.calls ∧
          notice.call.Drops ∧
          notice.departure.page = notice.call.found.current) ∧
    (conversation.cache =
        fresh.after (conversation.calls.map Call.operation) ∧
      ∀ earlier call later,
        conversation.calls = earlier ++ call :: later →
        call.found = fresh.after (earlier.map Call.operation)) ∧
    ∀ (depth : Nat)
        (tracing : Bool)
        (watched : List Session.Watched)
        (index : Nat)
        (cell : Session.Cell)
        (listener : Session.Listener),
      (Session.worldAfter depth (watched.map Session.Watched.command)
          { tracing := tracing }).cells[index]? =
        some cell →
      cell.listener = some listener →
      ∃ transcript : Session.Transcript,
        transcript.Possible ∧
          transcript.due = [] ∧
          transcript.cache = cell.cache ∧
          transcript.departures =
            Session.announcedTo listener.cache
              ((Session.run depth tracing watched).flatMap Session.Answer.log) := by
  have freshSound := Cache.sound_of_empty? built
  have sound := sound_of_after? built happened
  refine ⟨⟨sound.stores_of_quiet freshSound quiet,
    sound.flights_of_quiet quiet, ?_⟩, ⟨sound.run, sound.found⟩, ?_⟩
  · intro notice announced discards
    exact sound.discards freshSound (List.mem_append_left _ announced) discards
  · intro depth tracing watched index cell listener found listens
    exact Session.transcript_of_session depth tracing watched found listens

/--
While the first page is announced to be evicted, the listener starts a
transition and clears the cache, which announces two more departures before the
commit that evicted the page returns.
-/
theorem every_store_leaves_through_one_announcement_of_nested :
    let fresh : Cache Nat Nat Nat := ⟨⟨[], 1, by decide⟩, 1, none, 0, []⟩
    ∃ conversation,
      (Cache.empty? 1 1 = some fresh ∧
        (start fresh).after?
            [.calls (.access (.set 0 5)), .returns,
              .calls (.announce 7 2), .returns,
              .calls (.settle 1 .succeeded 2), .announces,
              .calls (.announce 8 2), .returns,
              .calls (.clear 3), .announces, .announces, .returns,
              .returns] =
          some conversation ∧
        conversation.due = []) ∧
      conversation.departures =
        [⟨.evict, 1⟩, ⟨.clear, 2⟩, ⟨.discard, 2⟩] ∧
      (∀ page,
        conversation.commits.count page + conversation.creations.count page =
          conversation.departures.countP (Departure.leaves page) +
            (conversation.cache.retains page).toNat) ∧
      conversation.acceptances =
        conversation.commits.length +
          conversation.departures.countP Departure.discards +
          conversation.cache.isTransitioning.toNat := by
  intro fresh
  have built : Cache.empty? 1 1 = some fresh := rfl
  obtain ⟨conversation, happened, quiet, departures⟩ :
      ∃ conversation,
        (start fresh).after?
            [.calls (.access (.set 0 5)), .returns,
              .calls (.announce 7 2), .returns,
              .calls (.settle 1 .succeeded 2), .announces,
              .calls (.announce 8 2), .returns,
              .calls (.clear 3), .announces, .announces, .returns,
              .returns] =
            some conversation ∧
          conversation.due = [] ∧
          conversation.departures =
            [⟨.evict, 1⟩, ⟨.clear, 2⟩, ⟨.discard, 2⟩] :=
    ⟨_, rfl, rfl, rfl⟩
  have law :=
    (every_store_leaves_through_one_announcement built happened quiet).1
  exact ⟨conversation, ⟨built, happened, quiet⟩, departures, law.1, law.2.1⟩

end NavState.Conversation
