namespace NavState

/-!
# Keyed lists

A keyed list holds one value per key, in the order in which its keys were last
bound.  The same list serves as the bindings of one page and as the recency
order of all retained pages: binding a key again moves it to the end, and
adjusting a value in place moves nothing.
-/

/-- Pairs of a key and its value, the key bound last standing last. -/
abbrev Assoc (α β : Type) := List (α × β)

namespace Assoc

variable {α β : Type}

/-- The keys in list order. -/
def keys (entries : Assoc α β) : List α :=
  entries.map Prod.fst

variable [DecidableEq α]

/-- The value bound to `key`, if any. -/
def find? (key : α) : Assoc α β → Option β
  | [] => none
  | (other, value) :: rest =>
      if other = key then
        some value
      else
        find? key rest

/-- Whether `key` is bound. -/
def contains (key : α) (entries : Assoc α β) : Bool :=
  (find? key entries).isSome

/-- Remove the binding of `key`. -/
def erase (key : α) (entries : Assoc α β) : Assoc α β :=
  entries.filter fun entry => entry.1 ≠ key

/-- Bind `key` to `value` at the end of the list. -/
def bind (key : α) (value : β) (entries : Assoc α β) : Assoc α β :=
  erase key entries ++ [(key, value)]

/-- Change the value of `key` where it stands. -/
def adjust
    (key : α)
    (change : β → β)
    (entries : Assoc α β) :
    Assoc α β :=
  entries.map fun entry =>
    if entry.1 = key then
      (entry.1, change entry.2)
    else
      entry

/-- Removing a key removes it from the keys and leaves their order. -/
theorem keys_erase (key : α) (entries : Assoc α β) :
    keys (erase key entries) = (keys entries).filter (· ≠ key) := by
  simp [keys, erase, List.filter_map, Function.comp_def]

/-- The key bound last stands last, and stands nowhere else. -/
theorem keys_bind (key : α) (value : β) (entries : Assoc α β) :
    keys (bind key value entries) =
      (keys entries).filter (· ≠ key) ++ [key] := by
  rw [← keys_erase]
  simp [keys, bind]

/-- Adjusting a value moves no key. -/
@[simp] theorem keys_adjust
    (key : α)
    (change : β → β)
    (entries : Assoc α β) :
    keys (adjust key change entries) = keys entries := by
  induction entries with
  | nil =>
      rfl
  | cons entry rest inductionHypothesis =>
      by_cases same : entry.1 = key
      · simpa [keys, adjust, same] using inductionHypothesis
      · simpa [keys, adjust, same] using inductionHypothesis

/-- A key is bound exactly if it is among the keys. -/
theorem contains_iff_mem_keys (key : α) (entries : Assoc α β) :
    contains key entries = true ↔ key ∈ keys entries := by
  induction entries with
  | nil =>
      simp [contains, find?, keys]
  | cons entry rest inductionHypothesis =>
      by_cases same : entry.1 = key
      · simp [contains, find?, keys, same]
      · simpa [contains, find?, keys, same, Ne.symm same]
          using inductionHypothesis

/-- Binding keeps the keys distinct. -/
theorem nodup_keys_bind
    {entries : Assoc α β}
    (distinct : (keys entries).Nodup)
    (key : α)
    (value : β) :
    (keys (bind key value entries)).Nodup := by
  rw [keys_bind, List.nodup_append]
  refine ⟨distinct.filter _, by simp, ?_⟩
  intro member inFront last isLast same
  have isKey : last = key := by simpa using isLast
  subst isKey
  subst same
  simp at inFront

/-- A key that was removed is not found. -/
@[simp] theorem find?_erase_self (key : α) (entries : Assoc α β) :
    find? key (erase key entries) = none := by
  induction entries with
  | nil =>
      rfl
  | cons entry rest inductionHypothesis =>
      by_cases same : entry.1 = key
      · simpa [erase, find?, same] using inductionHypothesis
      · simpa [erase, find?, same] using inductionHypothesis

/-- Removing one key leaves the others as they were. -/
theorem find?_erase_of_ne
    {key other : α}
    (different : other ≠ key)
    (entries : Assoc α β) :
    find? other (erase key entries) = find? other entries := by
  induction entries with
  | nil =>
      rfl
  | cons entry rest inductionHypothesis =>
      by_cases same : entry.1 = key
      · have entryOther : entry.1 ≠ other := by
          rw [same]
          exact Ne.symm different
        simpa [erase, find?, same, entryOther, Ne.symm different]
          using inductionHypothesis
      · by_cases found : entry.1 = other
        · simp [erase, find?, found, different]
        · simpa [erase, find?, same, found] using inductionHypothesis

/-- Adjusting changes the value of the key, if it is bound. -/
@[simp] theorem find?_adjust_self
    (key : α)
    (change : β → β)
    (entries : Assoc α β) :
    find? key (adjust key change entries) =
      (find? key entries).map change := by
  induction entries with
  | nil =>
      rfl
  | cons entry rest inductionHypothesis =>
      by_cases same : entry.1 = key
      · simp [adjust, find?, same]
      · simpa [adjust, find?, same] using inductionHypothesis

/-- Adjusting one key leaves the others as they were. -/
theorem find?_adjust_of_ne
    {key other : α}
    (different : other ≠ key)
    (change : β → β)
    (entries : Assoc α β) :
    find? other (adjust key change entries) = find? other entries := by
  induction entries with
  | nil =>
      rfl
  | cons entry rest inductionHypothesis =>
      by_cases same : entry.1 = key
      · simpa [adjust, find?, same, Ne.symm different]
          using inductionHypothesis
      · by_cases found : entry.1 = other
        · simp [adjust, find?, found, different]
        · simpa [adjust, find?, same, found] using inductionHypothesis

/-- A key is found with the value it was bound to last. -/
@[simp] theorem find?_bind_self
    (key : α)
    (value : β)
    (entries : Assoc α β) :
    find? key (bind key value entries) = some value := by
  induction entries with
  | nil =>
      simp [bind, erase, find?]
  | cons entry rest inductionHypothesis =>
      by_cases same : entry.1 = key
      · simpa [bind, erase, find?, same] using inductionHypothesis
      · simpa [bind, erase, find?, same] using inductionHypothesis

/-- Binding one key leaves the others as they were. -/
theorem find?_bind_of_ne
    {key other : α}
    (different : other ≠ key)
    (value : β)
    (entries : Assoc α β) :
    find? other (bind key value entries) = find? other entries := by
  induction entries with
  | nil =>
      simp [bind, erase, find?, Ne.symm different]
  | cons entry rest inductionHypothesis =>
      by_cases same : entry.1 = key
      · have entryOther : entry.1 ≠ other := by
          rw [same]
          exact Ne.symm different
        simpa [bind, erase, find?, same, entryOther, Ne.symm different]
          using inductionHypothesis
      · by_cases found : entry.1 = other
        · simp [bind, erase, find?, found, different]
        · simpa [bind, erase, find?, same, found] using inductionHypothesis

end Assoc

end NavState
