import NavState.Assoc

namespace NavState

/-!
# Page stores

A store is the state of one page: its bindings, and beside them a flag that
says whether the page was reached by a back or forward traversal.  The flag is
no binding, so no key can collide with it.
-/

/-- The bindings of one page and how the page was reached. -/
structure Store (κ ν : Type) where
  bindings : Assoc κ ν := []
  historic : Bool := false
  deriving Repr, DecidableEq

namespace Store

variable {κ ν : Type}

/-- Number of bindings. -/
def size (store : Store κ ν) : Nat :=
  store.bindings.length

/-- Whether nothing is bound. -/
def isEmpty (store : Store κ ν) : Bool :=
  store.bindings.isEmpty

/-- The same bindings under another flag. -/
def markHistoric (historic : Bool) (store : Store κ ν) : Store κ ν :=
  { store with historic := historic }

variable [DecidableEq κ]

/-- The value bound to `key`, if any. -/
def get? (key : κ) (store : Store κ ν) : Option ν :=
  Assoc.find? key store.bindings

/-- Whether `key` is bound. -/
def contains (key : κ) (store : Store κ ν) : Bool :=
  (store.get? key).isSome

/-- Bind `key` to `value`, whatever it was bound to before. -/
def insert (key : κ) (value : ν) (store : Store κ ν) : Store κ ν :=
  { store with bindings := Assoc.bind key value store.bindings }

/-- Remove the binding of `key`. -/
def erase (key : κ) (store : Store κ ν) : Store κ ν :=
  { store with bindings := Assoc.erase key store.bindings }

/-- A key reads as the value it was bound to last. -/
@[simp] theorem get?_insert_self
    (key : κ)
    (value : ν)
    (store : Store κ ν) :
    (store.insert key value).get? key = some value :=
  Assoc.find?_bind_self key value store.bindings

/-- Binding one key leaves the others as they were. -/
theorem get?_insert_of_ne
    {key other : κ}
    (different : other ≠ key)
    (value : ν)
    (store : Store κ ν) :
    (store.insert key value).get? other = store.get? other :=
  Assoc.find?_bind_of_ne different value store.bindings

/-- A removed key reads as nothing. -/
@[simp] theorem get?_erase_self (key : κ) (store : Store κ ν) :
    (store.erase key).get? key = none :=
  Assoc.find?_erase_self key store.bindings

/-- Removing one key leaves the others as they were. -/
theorem get?_erase_of_ne
    {key other : κ}
    (different : other ≠ key)
    (store : Store κ ν) :
    (store.erase key).get? other = store.get? other :=
  Assoc.find?_erase_of_ne different store.bindings

/-- The flag has no part in what is bound. -/
@[simp] theorem get?_markHistoric
    (key : κ)
    (historic : Bool)
    (store : Store κ ν) :
    (store.markHistoric historic).get? key = store.get? key :=
  rfl

/-- Binding a key leaves the flag as it was. -/
@[simp] theorem historic_insert
    (key : κ)
    (value : ν)
    (store : Store κ ν) :
    (store.insert key value).historic = store.historic :=
  rfl

/-- Removing a key leaves the flag as it was. -/
@[simp] theorem historic_erase (key : κ) (store : Store κ ν) :
    (store.erase key).historic = store.historic :=
  rfl

end Store

end NavState
