import NavState.Cache.Describe

namespace NavState.Bench

/-!
# Stores on the bench

A bench of stores holds stores in numbered slots, the first of them empty from
the start, and works on one slot at a time.
-/

/-- Work on the slots of stores. -/
inductive StoreCommand where
  /-- Work that cannot be made out. -/
  | unreadable
  /-- A new slot with an empty store. -/
  | add
  /-- A new slot with a copy of a store. -/
  | copy (slot : Nat)
  | insert (slot : Nat) (key value : String)
  | get (slot : Nat) (key : String)
  | remove (slot : Nat) (key : String)
  | contains (slot : Nat) (key : String)
  | all (slot : Nat)
  | describe (slot : Nat)
  deriving Repr, DecidableEq

/-- What work on a store came to. -/
inductive StoreReply where
  | inapplicable
  | slot (index : Nat)
  | value (value : Option String)
  | flag (value : Bool)
  | store (store : Store String String)
  | text (value : String)
  deriving Repr, DecidableEq

/-- The stores in their slots. -/
abbrev StoreBench := List (Store String String)

namespace StoreBench

/-- The bench before any work. -/
def initial : StoreBench :=
  [{}]

/-- Work on the store in a slot, if there is one. -/
def withStore
    (slot : Nat)
    (bench : StoreBench)
    (work : Store String String → StoreReply × Store String String) :
    StoreReply × StoreBench :=
  match bench[slot]? with
  | none => (.inapplicable, bench)
  | some store =>
      let (reply, store) := work store
      (reply, bench.set slot store)

/-- Do one piece of work. -/
def perform
    (bench : StoreBench)
    (command : StoreCommand) :
    StoreReply × StoreBench :=
  match command with
  | .unreadable => (.inapplicable, bench)
  | .add => (.slot bench.length, bench ++ [{}])
  | .copy slot =>
      match bench[slot]? with
      | none => (.inapplicable, bench)
      | some store => (.slot bench.length, bench ++ [store])
  | .insert slot key value =>
      withStore slot bench fun store =>
        (.value (some value), store.insert key value)
  | .get slot key =>
      withStore slot bench fun store => (.value (store.get? key), store)
  | .remove slot key =>
      withStore slot bench fun store =>
        (.value (store.get? key), store.erase key)
  | .contains slot key =>
      withStore slot bench fun store => (.flag (store.contains key), store)
  | .all slot =>
      withStore slot bench fun store => (.store store, store)
  | .describe slot =>
      withStore slot bench fun store =>
        if store.size ≤ 1 then
          (.text store.describe, store)
        else
          (.inapplicable, store)

/-- Do pieces of work in order, giving their replies and the bench after them. -/
def run (bench : StoreBench) : List StoreCommand → List StoreReply × StoreBench
  | [] => ([], bench)
  | command :: rest =>
      let (reply, bench) := perform bench command
      let (replies, bench) := run bench rest
      (reply :: replies, bench)

end StoreBench

end NavState.Bench
