import Mathlib.Data.List.Nodup
import NavState.History

namespace NavState.History

/-!
# Entries of a history

No number is given out twice, so a history holds no entry twice.  A move over a
distance other than zero therefore leads away from the entry it starts from, and
a push leads to an entry that was never there.
-/

/-- One move of a history. -/
inductive Move where
  | push
  | replace
  | back
  | forward
  | go (delta : Int)
  deriving Repr, DecidableEq

/-- Make a move; going past either end changes nothing. -/
def moved (history : History) (move : Move) : History :=
  match move with
  | .push => history.push
  | .replace => history.replace
  | .back => history.back?.getD history
  | .forward => history.forward?.getD history
  | .go delta => (history.go? delta).getD history

/-- A history that some moves of a new tab lead to. -/
def Reachable (history : History) : Prop :=
  ∃ moves : List Move, moves.foldl moved initial = history

/-- Every entry is there once and has a number given out before. -/
structure Sound (history : History) : Prop where
  distinct : history.entries.Nodup
  allocated : ∀ entry, entry ∈ history.entries → entry < history.next

theorem sound_initial : initial.Sound where
  distinct := by simp [initial]
  allocated := by simp [initial]

theorem current_mem (history : History) :
    history.current ∈ history.entries :=
  List.get_mem _ _

theorem Sound.push
    {history : History}
    (sound : history.Sound) :
    history.push.Sound where
  distinct := by
    have unused : history.next ∉ history.entries.take (history.cursor + 1) := by
      intro member
      have before := sound.allocated _ (List.mem_of_mem_take member)
      exact Nat.lt_irrefl _ before
    have front : (history.entries.take (history.cursor + 1)).Nodup :=
      sound.distinct.sublist (List.take_sublist _ _)
    exact List.nodup_append_comm.mp (List.nodup_cons.mpr ⟨unused, front⟩)
  allocated := by
    intro entry member
    rcases List.mem_append.mp member with kept | isNew
    · have before := sound.allocated entry (List.mem_of_mem_take kept)
      exact Nat.lt_succ_of_lt before
    · rw [List.mem_singleton.mp isNew]
      exact Nat.lt_succ_self _

theorem Sound.replace
    {history : History}
    (sound : history.Sound) :
    history.replace.Sound where
  distinct := by
    apply sound.distinct.set
    intro member
    exact Nat.lt_irrefl _ (sound.allocated _ member)
  allocated := by
    intro entry member
    rcases List.mem_or_eq_of_mem_set member with kept | isNew
    · exact Nat.lt_succ_of_lt (sound.allocated entry kept)
    · rw [isNew]
      exact Nat.lt_succ_self _

theorem Sound.go?
    {delta : Int}
    {history moved : History}
    (sound : history.Sound)
    (went : history.go? delta = some moved) :
    moved.Sound := by
  obtain ⟨entries, _, next⟩ := go?_eq_some went
  refine ⟨?_, ?_⟩
  · rw [entries]
    exact sound.distinct
  · rw [entries, next]
    exact sound.allocated

theorem Sound.moved
    {history : History}
    (sound : history.Sound)
    (move : Move) :
    (history.moved move).Sound := by
  have goes (delta : Int) : (history.moved (.go delta)).Sound := by
    cases went : history.go? delta with
    | none =>
        simp only [History.moved, went, Option.getD_none]
        exact sound
    | some shifted =>
        simp only [History.moved, went, Option.getD_some]
        exact sound.go? went
  cases move with
  | push =>
      exact sound.push
  | replace =>
      exact sound.replace
  | back =>
      exact goes (-1)
  | forward =>
      exact goes 1
  | go delta =>
      exact goes delta

theorem Sound.foldl_moved
    {history : History}
    (sound : history.Sound)
    (moves : List Move) :
    (moves.foldl History.moved history).Sound := by
  induction moves generalizing history with
  | nil =>
      exact sound
  | cons move rest inductionHypothesis =>
      exact inductionHypothesis (sound.moved move)

theorem Reachable.sound
    {history : History}
    (reachable : history.Reachable) :
    history.Sound := by
  obtain ⟨moves, rfl⟩ := reachable
  exact sound_initial.foldl_moved moves

/-- A push shows an entry that was not there. -/
theorem Sound.current_push_not_mem
    {history : History}
    (sound : history.Sound) :
    history.push.current ∉ history.entries := by
  rw [current_push]
  intro member
  exact Nat.lt_irrefl _ (sound.allocated _ member)

/-- Going over a distance other than zero shows another entry. -/
theorem Sound.current_ne_of_go?
    {delta : Int}
    {history moved : History}
    (sound : history.Sound)
    (away : delta ≠ 0)
    (went : history.go? delta = some moved) :
    moved.current ≠ history.current := by
  obtain ⟨entries, cursor, _⟩ := go?_eq_some went
  obtain ⟨movedEntries, movedCursor, next, inside⟩ := moved
  cases entries
  intro same
  have sameCursor : movedCursor = history.cursor := by
    have position := sound.distinct.get_inj_iff.mp same
    exact congrArg Fin.val position
  simp only [sameCursor] at cursor
  omega

end NavState.History
