import NavState.Text.Record

namespace NavState

/-!
# Session histories

A history is the stack of entries behind one tab: a list of entry numbers and a
cursor on the current one.  Pushing drops the entries ahead of the cursor,
replacing renames the current entry, and going moves the cursor.  Numbers are
allocated in ascending order and never given out twice.
-/

/-- A stack of entries with a cursor inside it and the next number to allocate. -/
structure History where
  entries : List Nat
  cursor : Nat
  next : Nat
  cursor_lt : cursor < entries.length
  deriving DecidableEq

namespace History

/-- The history of a new tab: one entry, numbered one. -/
def initial : History where
  entries := [1]
  cursor := 0
  next := 2
  cursor_lt := by decide

/-- The entry under the cursor. -/
def current (history : History) : Nat :=
  history.entries.get ⟨history.cursor, history.cursor_lt⟩

/-- Number of entries in the stack. -/
def size (history : History) : Nat :=
  history.entries.length

/-- Drop the entries ahead and step onto a new one. -/
def push (history : History) : History where
  entries := history.entries.take (history.cursor + 1) ++ [history.next]
  cursor := history.cursor + 1
  next := history.next + 1
  cursor_lt := by
    have inside := history.cursor_lt
    simp only [List.length_append, List.length_take, List.length_singleton]
    omega

/-- Put a new entry in the place of the current one. -/
def replace (history : History) : History where
  entries := history.entries.set history.cursor history.next
  cursor := history.cursor
  next := history.next + 1
  cursor_lt := by
    simpa using history.cursor_lt

/-- Move the cursor by `delta` entries, if that many stand on that side. -/
def go? (delta : Int) (history : History) : Option History :=
  let target := (history.cursor : Int) + delta
  if inside : 0 ≤ target ∧ target.toNat < history.entries.length then
    some { history with cursor := target.toNat, cursor_lt := inside.2 }
  else
    none

/-- Move the cursor by one entry towards the first. -/
def back? (history : History) : Option History :=
  history.go? (-1)

/-- Move the cursor by one entry towards the last. -/
def forward? (history : History) : Option History :=
  history.go? 1

/-- Pushing shows the number allocated for the new entry. -/
@[simp] theorem current_push (history : History) :
    history.push.current = history.next := by
  have inside := history.cursor_lt
  have front : (history.entries.take (history.cursor + 1)).length =
      history.cursor + 1 := by
    rw [List.length_take]
    omega
  simp [current, push, List.getElem_append_right, front]

/-- Replacing shows the number allocated for the new entry. -/
@[simp] theorem current_replace (history : History) :
    history.replace.current = history.next := by
  simp [current, replace]

/-- Going leaves the entries as they are and moves the cursor by the distance. -/
theorem go?_eq_some
    {delta : Int}
    {history moved : History}
    (went : history.go? delta = some moved) :
    moved.entries = history.entries ∧
      (moved.cursor : Int) = history.cursor + delta ∧
      moved.next = history.next := by
  simp only [go?] at went
  split at went
  · next inside =>
      simp only [Option.some.injEq] at went
      subst went
      exact ⟨rfl, Int.toNat_of_nonneg inside.1, rfl⟩
  · simp at went

/-- The diagnostic text of a history. -/
def describe (history : History) : String :=
  let stack :=
    Text.record "Stack" [
      ("entries", Text.sequence (history.entries.map toString)),
      ("index", toString history.cursor),
      ("next", toString history.next)]
  Text.record "InMemoryHistory" [
    ("stack", Text.record "RwLock" [("data", stack)])]

end History

end NavState
