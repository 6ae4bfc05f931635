import NavState.PageId
import NavState.Table

namespace NavState.Bench

/-!
# Tables on the bench

A bench of tables works on one table of committed stores and shows, after every
piece of work, the departures it caused and the pages that are left.
-/

/-- An edit of a store: insertions in order, then removals in order. -/
structure Edit where
  insertions : List (String × String)
  removals : List String
  deriving Repr, DecidableEq

/-- What the parts of an edit came to, and the store after it. -/
structure Edited where
  values : List (Option String)
  store : Store String String
  deriving Repr, DecidableEq

namespace Edit

/-- The store after an edit. -/
def apply (edit : Edit) (store : Store String String) : Store String String :=
  let inserted :=
    edit.insertions.foldl
      (fun store binding => store.insert binding.1 binding.2) store
  edit.removals.foldl (fun store key => store.erase key) inserted

/-- The values that removals find, one after the other. -/
def removed (store : Store String String) : List String → List (Option String)
  | [] => []
  | key :: rest => store.get? key :: removed (store.erase key) rest

/-- Edit a store, keeping what each part came to. -/
def edited (edit : Edit) (store : Store String String) : Edited where
  values :=
    edit.insertions.map (fun binding => some binding.2) ++
      removed ((Edit.mk edit.insertions []).apply store) edit.removals
  store := edit.apply store

end Edit

/-- Work on a table. -/
inductive TableCommand where
  /-- Work that cannot be made out. -/
  | unreadable
  | commit (page : PageId) (bindings : List (String × String))
  | get (page : PageId)
  /-- Edit a store where it stands. -/
  | adjust (page : PageId) (edit : Edit)
  /-- Edit a store, creating it if need be. -/
  | ensure (page : PageId) (edit : Edit)
  | contains (page : PageId)
  | clear
  | isEmpty
  | capacity
  deriving Repr, DecidableEq

/-- What work on a table came to. -/
inductive TableReply where
  | inapplicable
  | nothing
  | flag (value : Bool)
  | number (value : Nat)
  | store (store : Store String String)
  | edited (edited : Edited)
  deriving Repr, DecidableEq

/-- The reply to one piece of work, and what can be seen of the table then. -/
structure TableAnswer where
  reply : TableReply
  departures : List (Departure PageId)
  pages : List PageId
  deriving Repr, DecidableEq

/-- The table that is worked on. -/
abbrev TableBench := Table PageId String String

namespace TableBench

/-- Edit the store of a page that is retained. -/
def editPage
    (page : PageId)
    (edit : Edit)
    (table : TableBench) :
    TableReply × TableBench :=
  match table.get? page with
  | none => (.nothing, table)
  | some store => (.edited (edit.edited store), table.adjust page edit.apply)

/-- Do one piece of work. -/
def perform
    (table : TableBench)
    (command : TableCommand) :
    TableReply × TableBench × List (Departure PageId) :=
  match command with
  | .unreadable => (.inapplicable, table, [])
  | .commit page bindings =>
      (.nothing, table.commit page ((Edit.mk bindings []).apply {}))
  | .get page =>
      match table.get? page with
      | none => (.nothing, table, [])
      | some store => (.store store, table, [])
  | .adjust page edit =>
      let (reply, table) := editPage page edit table
      (reply, table, [])
  | .ensure page edit =>
      let (ensured, departures) := table.ensure page
      let (reply, table) := editPage page edit ensured
      (reply, table, departures)
  | .contains page => (.flag (table.contains page), table, [])
  | .clear => (.nothing, table.clear)
  | .isEmpty => (.flag (table.size = 0), table, [])
  | .capacity => (.number table.capacity, table, [])

/-- Do pieces of work in order. -/
def run (table : TableBench) : List TableCommand → List TableAnswer
  | [] => []
  | command :: rest =>
      let (reply, table, departures) := perform table command
      ⟨reply, departures, table.pages⟩ :: run table rest

end TableBench

end NavState.Bench
