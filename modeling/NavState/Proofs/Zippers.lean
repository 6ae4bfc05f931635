import NavState.Proofs.Histories
import NavState.Session.Hosts

namespace NavState

/-!
# Histories as zippers

A history is a list with a cursor on it.  Seen from its cursor it is a zipper:
the entries behind the current one, the current one, and the entries ahead.  Every
run of moves does to a history what it does to that zipper, where it takes no
arithmetic to say where a move leads.  The numbers of new entries are greater than
all that were ever there, so a number that is gone does not come back.

The moves are also taken on a stack of machine words whose cursor nothing keeps
inside of the entries.  Until the words run out no move fails on it.
-/

/-- The entries behind and ahead of the current one, the nearest first. -/
@[ext]
structure Zipper where
  behind : List Nat
  shown : Nat
  ahead : List Nat
  deriving Repr, DecidableEq

namespace Zipper

/-- Leave the current entry behind for a new one, and drop all that is ahead. -/
def push (entry : Nat) (zipper : Zipper) : Zipper where
  behind := zipper.shown :: zipper.behind
  shown := entry
  ahead := []

/-- Put a new entry in the place of the current one. -/
def replace (entry : Nat) (zipper : Zipper) : Zipper :=
  { zipper with shown := entry }

/-- Step onto the nearest entry behind. -/
def back? (zipper : Zipper) : Option Zipper :=
  match zipper.behind with
  | [] => none
  | entry :: behind => some ⟨behind, entry, zipper.shown :: zipper.ahead⟩

/-- Step onto the nearest entry ahead. -/
def forward? (zipper : Zipper) : Option Zipper :=
  match zipper.ahead with
  | [] => none
  | entry :: ahead => some ⟨zipper.shown :: zipper.behind, entry, ahead⟩

/-- Take a number of steps in one direction, all of them or none. -/
def steps?
    (step? : Zipper → Option Zipper)
    (distance : Nat)
    (zipper : Zipper) :
    Option Zipper :=
  match distance with
  | 0 => some zipper
  | distance + 1 => (step? zipper).bind (steps? step? distance)

/-- Go a distance ahead, or behind if it is negative. -/
def go? (delta : Int) (zipper : Zipper) : Option Zipper :=
  match delta with
  | .ofNat distance => zipper.steps? forward? distance
  | .negSucc distance => zipper.steps? back? (distance + 1)

/-- Make a move, on which a new entry gets the number `fresh`. -/
def moved
    (fresh : Nat)
    (zipper : Zipper)
    (move : History.Move) :
    Zipper :=
  match move with
  | .push => zipper.push fresh
  | .replace => zipper.replace fresh
  | .back => zipper.back?.getD zipper
  | .forward => zipper.forward?.getD zipper
  | .go delta => (zipper.go? delta).getD zipper

/-- The entry that a move reveals; nothing where there are not as many entries. -/
def revealed?
    (fresh : Nat)
    (zipper : Zipper)
    (move : History.Move) :
    Option Nat :=
  match move with
  | .push => some fresh
  | .replace => some fresh
  | .back => zipper.back?.map shown
  | .forward => zipper.forward?.map shown
  | .go delta => (zipper.go? delta).map shown

/-- All entries from the one that is farthest behind. -/
def entries (zipper : Zipper) : List Nat :=
  zipper.behind.reverse ++ zipper.shown :: zipper.ahead

end Zipper

namespace History

/-- Whether a move makes a new entry. -/
def Move.allocates (move : Move) : Bool :=
  match move with
  | .push => true
  | .replace => true
  | .back => false
  | .forward => false
  | .go _ => false

/-- The command by which a host is asked for a move. -/
def Move.command (move : Move) : Session.HostCommand :=
  match move with
  | .push => .push
  | .replace => .replace
  | .back => .back
  | .forward => .forward
  | .go delta => .go delta

/-- How many new entries some moves make. -/
def allocations (moves : List Move) : Nat :=
  moves.countP Move.allocates

/-- The entry that a move reveals; nothing where it would lead past an end. -/
def revealed? (history : History) (move : Move) : Option Nat :=
  match move with
  | .push => some history.push.current
  | .replace => some history.replace.current
  | .back => history.back?.map current
  | .forward => history.forward?.map current
  | .go delta => (history.go? delta).map current

/-- What the moves of a run reveal, one after the other. -/
def revelations (moves : List Move) (history : History) : List (Option Nat) :=
  match moves with
  | [] => []
  | move :: rest =>
      history.revealed? move :: (history.moved move).revelations rest

/-- Every entry that a history holds at some moment of a run. -/
def held (moves : List Move) (history : History) : List Nat :=
  match moves with
  | [] => history.entries
  | move :: rest => history.entries ++ (history.moved move).held rest

/-- A history as seen from its cursor. -/
def zipper (history : History) : Zipper where
  behind := (history.entries.take history.cursor).reverse
  shown := history.current
  ahead := history.entries.drop (history.cursor + 1)

end History

namespace Zipper

/-- The zipper after a run, where numbers are given out from `fresh` on. -/
def after
    (fresh : Nat)
    (moves : List History.Move)
    (zipper : Zipper) :
    Zipper :=
  match moves with
  | [] => zipper
  | move :: rest =>
      (zipper.moved fresh move).after (fresh + move.allocates.toNat) rest

/-- What the moves of a run reveal, where numbers are given out from `fresh` on. -/
def revelations
    (fresh : Nat)
    (moves : List History.Move)
    (zipper : Zipper) :
    List (Option Nat) :=
  match moves with
  | [] => []
  | move :: rest =>
      zipper.revealed? fresh move ::
        (zipper.moved fresh move).revelations (fresh + move.allocates.toNat) rest

end Zipper

namespace History

/-! ## One move -/

/-- The current entry and those ahead are what the cursor leaves of the entries. -/
theorem current_cons_ahead (history : History) :
    history.current :: history.zipper.ahead =
      history.entries.drop history.cursor :=
  (List.drop_eq_getElem_cons history.cursor_lt).symm

/-- The current entry and those behind are what comes up to the cursor. -/
theorem current_cons_behind (history : History) :
    history.current :: history.zipper.behind =
      (history.entries.take (history.cursor + 1)).reverse := by
  rw [List.take_succ_eq_append_getElem history.cursor_lt, List.reverse_append]
  rfl

/-- Nothing of a history is lost in its zipper. -/
theorem entries_zipper (history : History) :
    history.zipper.entries = history.entries := by
  have parts := List.take_append_drop history.cursor history.entries
  rw [← current_cons_ahead] at parts
  simp only [Zipper.entries, zipper, List.reverse_reverse]
  exact parts

theorem zipper_push (history : History) :
    history.push.zipper = history.zipper.push history.next := by
  have front :
      (history.entries.take (history.cursor + 1)).length =
        history.cursor + 1 := by
    rw [List.length_take]
    exact Nat.min_eq_left history.cursor_lt
  have behind :
      history.push.zipper.behind = history.current :: history.zipper.behind := by
    rw [current_cons_behind]
    simp only [zipper, push]
    rw [List.take_append_of_le_length (Nat.le_of_eq front.symm), List.take_take,
      Nat.min_self]
  have ahead : history.push.zipper.ahead = [] := by
    simp only [zipper, push, List.drop_eq_nil_iff, List.length_append, front]
    exact Nat.le_refl _
  have shown : history.push.zipper.shown = history.next := current_push history
  exact Zipper.ext behind shown ahead

theorem zipper_replace (history : History) :
    history.replace.zipper = history.zipper.replace history.next := by
  have behind : history.replace.zipper.behind = history.zipper.behind := by
    simp [zipper, replace, List.take_set_of_le]
  have shown : history.replace.zipper.shown = history.next :=
    current_replace history
  have ahead : history.replace.zipper.ahead = history.zipper.ahead := by
    simp [zipper, replace, List.drop_set_of_lt]
  exact Zipper.ext behind shown ahead

/-- Going succeeds exactly if the cursor stays inside of the entries. -/
theorem isSome_go?_iff (delta : Int) (history : History) :
    (history.go? delta).isSome ↔
      0 ≤ history.cursor + delta ∧
        history.cursor + delta < history.entries.length := by
  simp only [go?]
  split
  · next inside =>
      simp only [Option.isSome_some, true_iff]
      omega
  · next outside =>
      simp only [Option.isSome_none, Bool.false_eq_true, false_iff]
      omega

/-- Two distances that are gone one after the other make one distance. -/
theorem go?_add
    {history between : History}
    {first : Int}
    (went : history.go? first = some between)
    (second : Int) :
    between.go? second = history.go? (first + second) := by
  obtain ⟨entries, cursor, next⟩ := go?_eq_some went
  obtain ⟨_, reached, _, _⟩ := between
  cases entries
  cases next
  have same : (reached : Int) + second = history.cursor + (first + second) := by
    simp only at cursor
    omega
  simp only [go?, same]

/-- Going one entry ahead is the step ahead of the zipper. -/
theorem zipper_forward? (history : History) :
    history.forward?.map zipper = history.zipper.forward? := by
  rw [forward?]
  cases went : history.go? 1 with
  | none =>
      have last : history.entries.length ≤ history.cursor + 1 := by
        have outside := (isSome_go?_iff 1 history).not
        rw [went] at outside
        simp only [Option.isSome_none, Bool.false_eq_true, not_false_eq_true,
          true_iff] at outside
        omega
      have ahead : history.zipper.ahead = [] := List.drop_eq_nil_of_le last
      simp [Zipper.forward?, ahead]
  | some moved =>
      obtain ⟨entries, cursor, _⟩ := go?_eq_some went
      have next : moved.cursor = history.cursor + 1 := by omega
      have ahead :
          history.zipper.ahead = moved.current :: moved.zipper.ahead := by
        rw [current_cons_ahead, entries, next]
        rfl
      have behind :
          moved.zipper.behind = history.current :: history.zipper.behind := by
        rw [current_cons_behind, zipper, entries, next]
      simp only [Zipper.forward?, ahead, Option.map_some, Option.some.injEq]
      change _ = Zipper.mk (history.current :: history.zipper.behind) _ _
      rw [← behind]
      rfl

/-- Going one entry back is the step back of the zipper. -/
theorem zipper_back? (history : History) :
    history.back?.map zipper = history.zipper.back? := by
  rw [back?]
  cases went : history.go? (-1) with
  | none =>
      have first : history.cursor = 0 := by
        have outside := (isSome_go?_iff (-1) history).not
        have inside := history.cursor_lt
        rw [went] at outside
        simp only [Option.isSome_none, Bool.false_eq_true, not_false_eq_true,
          true_iff] at outside
        omega
      have behind : history.zipper.behind = [] := by simp [zipper, first]
      simp [Zipper.back?, behind]
  | some moved =>
      obtain ⟨entries, cursor, _⟩ := go?_eq_some went
      have next : history.cursor = moved.cursor + 1 := by omega
      have behind :
          history.zipper.behind = moved.current :: moved.zipper.behind := by
        rw [current_cons_behind, entries, ← next]
        rfl
      have ahead :
          moved.zipper.ahead = history.current :: history.zipper.ahead := by
        rw [current_cons_ahead, zipper, entries, next]
      simp only [Zipper.back?, behind, Option.map_some, Option.some.injEq]
      change _ = Zipper.mk _ _ (history.current :: history.zipper.ahead)
      rw [← ahead]
      rfl

/--
If single steps agree, so do many of them: where the first one leads past the end,
all of them together do.
-/
theorem zipper_go?_mul
    {unit : Int}
    {step? : Zipper → Option Zipper}
    (single :
      ∀ history : History,
        (history.go? unit).map zipper = step? history.zipper)
    (ends :
      ∀ (history : History) (distance : Nat),
        history.go? unit = none →
        history.go? (unit + unit * distance) = none)
    (distance : Nat)
    (history : History) :
    (history.go? (unit * distance)).map zipper =
      history.zipper.steps? step? distance := by
  induction distance generalizing history with
  | zero =>
      have stays : history.go? 0 = some history := by
        simp [go?, history.cursor_lt]
      simp [stays, Zipper.steps?]
  | succ distance inductionHypothesis =>
      have first :
          unit * ((distance + 1 : Nat) : Int) = unit + unit * distance := by
        rw [Int.natCast_succ, Int.mul_add, Int.mul_one, Int.add_comm]
      rw [first, Zipper.steps?, ← single]
      cases went : history.go? unit with
      | none =>
          rw [ends history distance went]
          rfl
      | some between =>
          rw [← go?_add went]
          exact inductionHypothesis between

/-- Going is done entry by entry. -/
theorem zipper_go? (delta : Int) (history : History) :
    (history.go? delta).map zipper = history.zipper.go? delta := by
  cases delta with
  | ofNat distance =>
      have ahead :=
        zipper_go?_mul zipper_forward?
          (by
            intro history distance last
            rw [← Option.not_isSome_iff_eq_none, isSome_go?_iff] at last ⊢
            omega)
          distance history
      rw [Int.one_mul] at ahead
      exact ahead
  | negSucc distance =>
      have behind :=
        zipper_go?_mul zipper_back?
          (by
            intro history distance first
            have inside := history.cursor_lt
            rw [← Option.not_isSome_iff_eq_none, isSome_go?_iff] at first ⊢
            omega)
          (distance + 1) history
      rw [Int.neg_mul, Int.one_mul] at behind
      exact behind

theorem zipper_moved (history : History) (move : Move) :
    (history.moved move).zipper = history.zipper.moved history.next move := by
  cases move with
  | push =>
      exact zipper_push history
  | replace =>
      exact zipper_replace history
  | back =>
      rw [Zipper.moved, ← zipper_back?, Option.getD_map]
      rfl
  | forward =>
      rw [Zipper.moved, ← zipper_forward?, Option.getD_map]
      rfl
  | go delta =>
      rw [Zipper.moved, ← zipper_go?, Option.getD_map]
      rfl

theorem revealed?_zipper (history : History) (move : Move) :
    history.revealed? move = history.zipper.revealed? history.next move := by
  cases move with
  | push =>
      rw [revealed?, current_push]
      rfl
  | replace =>
      rw [revealed?, current_replace]
      rfl
  | back =>
      rw [Zipper.revealed?, ← zipper_back?, Option.map_map]
      rfl
  | forward =>
      rw [Zipper.revealed?, ← zipper_forward?, Option.map_map]
      rfl
  | go delta =>
      rw [Zipper.revealed?, ← zipper_go?, Option.map_map]
      rfl

/-- A move gives out one number or none. -/
theorem next_moved (history : History) (move : Move) :
    (history.moved move).next = history.next + move.allocates.toNat := by
  have goes (delta : Int) : (history.moved (.go delta)).next = history.next := by
    cases went : history.go? delta with
    | none =>
        simp [moved, went]
    | some reached =>
        simp [moved, went, (go?_eq_some went).2.2]
  cases move with
  | push =>
      rfl
  | replace =>
      rfl
  | back =>
      exact goes (-1)
  | forward =>
      exact goes 1
  | go delta =>
      exact goes delta

/-! ## Runs -/

/-- A run does to a history what it does to its zipper, and reveals the same. -/
theorem zipper_foldl_moved (moves : List Move) (history : History) :
    (moves.foldl moved history).zipper =
        history.zipper.after history.next moves ∧
      history.revelations moves =
        history.zipper.revelations history.next moves := by
  induction moves generalizing history with
  | nil =>
      exact ⟨rfl, rfl⟩
  | cons move rest inductionHypothesis =>
      obtain ⟨zippers, revealed⟩ := inductionHypothesis (history.moved move)
      rw [zipper_moved, next_moved] at zippers revealed
      refine ⟨zippers, ?_⟩
      rw [revelations, revealed, revealed?_zipper]
      rfl

theorem entries_subset_moved (history : History) (move : Move) :
    (history.moved move).entries ⊆ history.next :: history.entries := by
  intro entry member
  have goes
      (delta : Int)
      (member : entry ∈ (history.moved (.go delta)).entries) :
      entry ∈ history.next :: history.entries := by
    cases went : history.go? delta with
    | none =>
        simp only [moved, went, Option.getD_none] at member
        exact List.mem_cons_of_mem _ member
    | some reached =>
        simp only [moved, went, Option.getD_some, (go?_eq_some went).1] at member
        exact List.mem_cons_of_mem _ member
  cases move with
  | push =>
      rcases List.mem_append.mp member with kept | isNew
      · exact List.mem_cons_of_mem _ (List.mem_of_mem_take kept)
      · rw [List.mem_singleton.mp isNew]
        exact List.mem_cons_self
  | replace =>
      rcases List.mem_or_eq_of_mem_set member with kept | isNew
      · exact List.mem_cons_of_mem _ kept
      · rw [isNew]
        exact List.mem_cons_self
  | back =>
      exact goes (-1) member
  | forward =>
      exact goes 1 member
  | go delta =>
      exact goes delta member

/-- Whatever was there during a run has a number given out before its end. -/
theorem Sound.held_lt_next
    {history : History}
    (sound : history.Sound)
    (moves : List Move) :
    ∀ entry ∈ history.held moves,
      entry < (moves.foldl History.moved history).next := by
  have grows (moves : List Move) (history : History) :
      history.next ≤ (moves.foldl History.moved history).next := by
    induction moves generalizing history with
    | nil =>
        exact Nat.le_refl _
    | cons move rest inductionHypothesis =>
        have step := inductionHypothesis (history.moved move)
        rw [next_moved] at step
        exact Nat.le_trans (Nat.le_add_right _ _) step
  induction moves generalizing history with
  | nil =>
      exact sound.allocated
  | cons move rest inductionHypothesis =>
      intro entry member
      rcases List.mem_append.mp member with here | later
      · exact Nat.lt_of_lt_of_le (sound.allocated entry here)
          (grows (move :: rest) history)
      · exact inductionHypothesis (sound.moved move) entry later

/-- A number that was given out and is gone does not come back. -/
theorem not_mem_held_of_gone
    {history : History}
    {entry : Nat}
    (old : entry < history.next)
    (gone : entry ∉ history.entries)
    (moves : List Move) :
    entry ∉ history.held moves := by
  induction moves generalizing history with
  | nil =>
      exact gone
  | cons move rest inductionHypothesis =>
      intro member
      have stillOld : entry < (history.moved move).next := by
        rw [next_moved]
        exact Nat.lt_of_lt_of_le old (Nat.le_add_right _ _)
      have stillGone : entry ∉ (history.moved move).entries := by
        intro back
        rcases List.mem_cons.mp (entries_subset_moved history move back) with
            isNew | kept
        · exact Nat.lt_irrefl _ (isNew ▸ old)
        · exact gone kept
      rcases List.mem_append.mp member with here | later
      · exact gone here
      · exact inductionHypothesis stillOld stillGone later

/-! ## Moves in machine words -/

/--
The stack behind a history, where nothing keeps the cursor inside of the entries,
and where positions and numbers have to fit into a word.
-/
structure Stack where
  entries : List Nat
  cursor : Nat
  next : Nat
  deriving Repr, DecidableEq

namespace Stack

/-- Read the entry under the cursor, which may be out of range. -/
def current? (stack : Stack) : Option Nat :=
  stack.entries[stack.cursor]?

/-- Give out the next number, unless the one after it does not fit. -/
def allocate? (stack : Stack) : Option (Nat × Stack) :=
  if stack.next + 1 < UInt64.size then
    some (stack.next, { stack with next := stack.next + 1 })
  else
    none

/-- Cut the entries behind the cursor, add a new one and step onto it. -/
def push? (stack : Stack) : Option (Option Nat × Stack) := do
  let (entry, stack) ← stack.allocate?
  if stack.cursor + 1 < UInt64.size then
    return (some entry,
      { stack with
        entries := stack.entries.take (stack.cursor + 1) ++ [entry]
        cursor := stack.cursor + 1 })
  else
    none

/-- Write a new entry under the cursor, which may be out of range. -/
def replace? (stack : Stack) : Option (Option Nat × Stack) := do
  let (entry, stack) ← stack.allocate?
  if stack.cursor < stack.entries.length then
    return (some entry, { stack with entries := stack.entries.set stack.cursor entry })
  else
    none

/-- Add to the cursor, unless the sum is no word or there is no entry then. -/
def go (delta : Int) (stack : Stack) : Option Nat × Stack :=
  let target := (stack.cursor : Int) + delta
  if 0 ≤ target ∧ target < UInt64.size then
    match stack.entries[target.toNat]? with
    | none => (none, stack)
    | some entry => (some entry, { stack with cursor := target.toNat })
  else
    (none, stack)

/-- Make a move: what it reveals, and the stack after it; nothing if it fails. -/
def make? (move : Move) (stack : Stack) : Option (Option Nat × Stack) :=
  match move with
  | .push => stack.push?
  | .replace => stack.replace?
  | .back => some (stack.go (-1))
  | .forward => some (stack.go 1)
  | .go delta => some (stack.go delta)

/-- Make the moves of a run one after the other. -/
def run?
    (moves : List Move)
    (stack : Stack) :
    Option (List (Option Nat) × Stack) :=
  match moves with
  | [] => some ([], stack)
  | move :: rest => do
      let (revealed, stack) ← stack.make? move
      let (revelations, stack) ← stack.run? rest
      return (revealed :: revelations, stack)

end Stack

/-- The stack behind a history. -/
def stack (history : History) : Stack where
  entries := history.entries
  cursor := history.cursor
  next := history.next

/-- There are fewer entries than numbers that were given out. -/
theorem length_lt_next_moved
    {history : History}
    (fewer : history.entries.length < history.next)
    (move : Move) :
    (history.moved move).entries.length < (history.moved move).next := by
  have goes (delta : Int) :
      (history.moved (.go delta)).entries.length <
        (history.moved (.go delta)).next := by
    cases went : history.go? delta with
    | none =>
        simp only [moved, went, Option.getD_none]
        exact fewer
    | some reached =>
        obtain ⟨entries, _, next⟩ := go?_eq_some went
        simp only [moved, went, Option.getD_some, entries, next]
        exact fewer
  cases move with
  | push =>
      simp only [moved, push, List.length_append, List.length_take,
        List.length_singleton]
      omega
  | replace =>
      simp only [moved, replace, List.length_set]
      omega
  | back =>
      exact goes (-1)
  | forward =>
      exact goes 1
  | go delta =>
      exact goes delta

/-- The checked sum of cursor and distance leads to where the history goes. -/
theorem go_stack
    {history : History}
    (fewer : history.entries.length < history.next)
    (fits : history.next < UInt64.size)
    (delta : Int) :
    history.stack.go delta =
      ((history.go? delta).map current, (history.moved (.go delta)).stack) := by
  have sameCursor : (history.stack.cursor : Int) = history.cursor := rfl
  cases went : history.go? delta with
  | some reached =>
      obtain ⟨entries, cursor, next⟩ := go?_eq_some went
      have inside := reached.cursor_lt
      rw [entries] at inside
      have word :
          0 ≤ (history.stack.cursor : Int) + delta ∧
            (history.stack.cursor : Int) + delta < UInt64.size := by
        omega
      have position :
          ((history.stack.cursor : Int) + delta).toNat = reached.cursor := by
        omega
      have found : history.stack.entries[reached.cursor]? = some reached.current := by
        change history.entries[reached.cursor]? = _
        rw [← entries]
        exact List.getElem?_eq_getElem reached.cursor_lt
      simp only [Stack.go, if_pos word, position, found]
      simp [moved, went, stack, entries, next]
  | none =>
      have outside := (isSome_go?_iff delta history).not
      rw [went] at outside
      simp only [Option.isSome_none, Bool.false_eq_true, not_false_eq_true,
        true_iff] at outside
      simp only [Stack.go, moved, went, Option.map_none, Option.getD_none]
      split
      · next word =>
          have beyond :
              history.stack.entries.length ≤
                ((history.stack.cursor : Int) + delta).toNat := by
            change history.entries.length ≤ _
            omega
          rw [List.getElem?_eq_none beyond]
      · rfl

/-- While numbers fit into a word, a move does not fail on the stack. -/
theorem make?_stack
    {history : History}
    {move : Move}
    (fewer : history.entries.length < history.next)
    (fits : history.next + move.allocates.toNat < UInt64.size) :
    history.stack.make? move =
      some (history.revealed? move, (history.moved move).stack) := by
  have inside := history.cursor_lt
  cases move with
  | push =>
      have nextFits : history.next + 1 < UInt64.size := fits
      have cursorFits : history.cursor + 1 < UInt64.size := by omega
      simp only [revealed?, current_push]
      simp [Stack.make?, Stack.push?, Stack.allocate?, stack, nextFits,
        cursorFits, moved, push]
  | replace =>
      have nextFits : history.next + 1 < UInt64.size := fits
      simp only [revealed?, current_replace]
      simp [Stack.make?, Stack.replace?, Stack.allocate?, stack, nextFits, inside,
        moved, replace]
  | back =>
      exact congrArg some (go_stack fewer fits (-1))
  | forward =>
      exact congrArg some (go_stack fewer fits 1)
  | go delta =>
      exact congrArg some (go_stack fewer fits delta)

/-- While numbers fit into words, a whole run does not fail on the stack. -/
theorem run?_stack
    {history : History}
    {moves : List Move}
    (fewer : history.entries.length < history.next)
    (fits : history.next + allocations moves < UInt64.size) :
    history.stack.run? moves =
      some (history.revelations moves, (moves.foldl moved history).stack) := by
  induction moves generalizing history with
  | nil =>
      rfl
  | cons move rest inductionHypothesis =>
      have parts :
          allocations (move :: rest) =
            allocations rest + move.allocates.toNat := by
        cases allocates : move.allocates <;>
          simp [allocations, allocates]
      have first :
          history.stack.make? move =
            some (history.revealed? move, (history.moved move).stack) :=
        make?_stack fewer (by omega)
      have later :=
        inductionHypothesis (length_lt_next_moved fewer move)
          (by rw [next_moved]; omega)
      simp [Stack.run?, first, later, revelations]

/--
A history moves like a zipper.  After every run of moves it is, seen from its
cursor, what the same moves make of a zipper, and they reveal the same entries.
Going over a distance succeeds exactly if there are as many entries on that side,
and over one entry it is a single step.  This is what a host answers that browses
the history.

All entries are distinct, and a new entry gets a number greater than all entries
that the history ever held, so that an entry that is gone does not come back.

On a stack of machine words the run fails nowhere and reads the same entry in the
end, as long as fewer numbers were given out than there are words but one, that of
the first entry included.
-/
theorem moves_like_zipper (moves : List Move) :
    let history := moves.foldl moved initial
    let zipper := history.zipper
    (zipper = Zipper.after 2 moves ⟨[], 1, []⟩ ∧
      zipper.entries = history.entries ∧
      initial.revelations moves =
        Zipper.revelations 2 moves ⟨[], 1, []⟩) ∧
    (∀ delta,
      (history.go? delta).map History.zipper = zipper.go? delta ∧
        ((history.go? delta).isSome ↔
          -zipper.behind.length ≤ delta ∧ delta ≤ zipper.ahead.length)) ∧
    (zipper.go? (-1) = zipper.back? ∧ zipper.go? 1 = zipper.forward?) ∧
    (∀ move : Move,
      move.command.browse history =
        .ok ((history.revealed? move).elim .nothing .number,
          history.moved move)) ∧
    history.entries.Nodup ∧
    (∀ move : Move,
      move.allocates →
      ∃ entry,
        history.revealed? move = some entry ∧
          ∀ old ∈ initial.held moves, old < entry) ∧
    (∀ entry ∈ initial.held moves,
      entry ∉ history.entries →
      ∀ later, entry ∉ history.held later) ∧
    (1 + allocations moves < UInt64.size - 1 →
      initial.stack.run? moves =
          some (initial.revelations moves, history.stack) ∧
        history.stack.current? = some history.current) := by
  intro history zipper
  have sound : history.Sound := sound_initial.foldl_moved moves
  obtain ⟨zippers, revealed⟩ := zipper_foldl_moved moves initial
  have old := sound_initial.held_lt_next moves
  refine ⟨⟨zippers, entries_zipper history, revealed⟩, ?_, ?_, ?_,
    sound.distinct, ?_, ?_, ?_⟩
  · intro delta
    refine ⟨zipper_go? delta history, ?_⟩
    have inside := history.cursor_lt
    rw [isSome_go?_iff]
    simp only [zipper, History.zipper, List.length_reverse, List.length_take,
      List.length_drop]
    omega
  · exact ⟨(zipper_go? (-1) history).symm.trans (zipper_back? history),
      (zipper_go? 1 history).symm.trans (zipper_forward? history)⟩
  · intro move
    have reveals (reached? : Option History) :
        Session.reveal history reached? =
          ((reached?.map current).elim .nothing .number,
            reached?.getD history) := by
      cases reached? <;> rfl
    cases move with
    | push =>
        rfl
    | replace =>
        rfl
    | back =>
        exact congrArg Except.ok (reveals history.back?)
    | forward =>
        exact congrArg Except.ok (reveals history.forward?)
    | go delta =>
        exact congrArg Except.ok (reveals (history.go? delta))
  · intro move allocates
    refine ⟨history.next, ?_, old⟩
    cases move with
    | push =>
        exact congrArg some (current_push history)
    | replace =>
        exact congrArg some (current_replace history)
    | back =>
        cases allocates
    | forward =>
        cases allocates
    | go delta =>
        cases allocates
  · intro entry member gone later
    exact not_mem_held_of_gone (old entry member) gone later
  · intro few
    have fits : initial.next + allocations moves < UInt64.size := by
      have next : initial.next = 2 := rfl
      omega
    exact ⟨run?_stack (by decide) fits,
      List.getElem?_eq_getElem history.cursor_lt⟩

/--
Two entries are pushed, the first is gone back to past one that refuses, a push
drops both, and the entry before is replaced.  The farthest distance back reveals
nothing, and none of the entries that are gone comes back.
-/
theorem moves_like_zipper_of_dropped :
    let moves : List Move :=
      [.push, .push, .forward, .go (-2), .push, .back, .replace,
        .go (-9223372036854775808)]
    let history := moves.foldl moved initial
    (1 + allocations moves < UInt64.size - 1 ∧
        Move.push.allocates = true ∧
        3 ∈ initial.held moves ∧
        3 ∉ history.entries) ∧
      history.zipper = ⟨[], 5, [4]⟩ ∧
      initial.revelations moves =
        [some 2, some 3, none, some 1, some 4, some 1, some 5, none] ∧
      (∃ entry,
        history.revealed? .push = some entry ∧
          ∀ old ∈ initial.held moves, old < entry) ∧
      (∀ later, 3 ∉ history.held later) ∧
      initial.stack.run? moves =
        some (initial.revelations moves, ⟨[5, 4], 0, 6⟩) := by
  intro moves history
  obtain ⟨⟨zippers, _, revealed⟩, _, _, _, _, fresh, gone, words⟩ :=
    moves_like_zipper moves
  have few : 1 + allocations moves < UInt64.size - 1 := by decide
  have held : 3 ∈ initial.held moves := by decide
  have dropped : 3 ∉ history.entries := by decide
  exact ⟨⟨few, rfl, held, dropped⟩, zippers, revealed, fresh .push rfl,
    gone 3 held dropped, (words few).1⟩

end History

end NavState
