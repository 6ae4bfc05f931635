import NavState.Store
import NavState.Departure

namespace NavState

/-!
# The table of committed stores

The table keeps the committed store of a bounded number of pages.  Its entries
stand in recency order, the least recently touched page first.  Committing a
page or creating its store touches the page; reading a store or editing it in
place does not.  Whatever exceeds the capacity leaves from the front.
-/

/-- Committed stores in recency order, bounded by a positive capacity. -/
structure Table (ι κ ν : Type) where
  entries : Assoc ι (Store κ ν)
  capacity : Nat
  capacity_pos : 0 < capacity
  deriving DecidableEq

namespace Table

variable {ι κ ν : Type}

/-- A table without entries; there is none for the capacity zero. -/
def empty? (capacity : Nat) : Option (Table ι κ ν) :=
  if positive : 0 < capacity then
    some ⟨[], capacity, positive⟩
  else
    none

/-- What is said when a table of capacity zero is asked for. -/
def zeroCapacityMessage : String :=
  "durable table capacity must be positive"

/-- Retained pages, from the least to the most recently touched. -/
def pages (table : Table ι κ ν) : List ι :=
  Assoc.keys table.entries

/-- Number of retained pages. -/
def size (table : Table ι κ ν) : Nat :=
  table.entries.length

/-- Drop the least recently touched entries that exceed the capacity. -/
def trim (table : Table ι κ ν) : Table ι κ ν × List (Departure ι) :=
  let excess := table.entries.length - table.capacity
  ({ table with entries := table.entries.drop excess },
    (Assoc.keys (table.entries.take excess)).map (Departure.mk .evict))

/-- Drop every entry. -/
def clear (table : Table ι κ ν) : Table ι κ ν × List (Departure ι) :=
  ({ table with entries := [] }, table.pages.map (Departure.mk .clear))

variable [DecidableEq ι]

/-- The committed store of `page`, if retained. -/
def get? (page : ι) (table : Table ι κ ν) : Option (Store κ ν) :=
  Assoc.find? page table.entries

/-- Whether a store of `page` is retained. -/
def contains (page : ι) (table : Table ι κ ν) : Bool :=
  (table.get? page).isSome

/-- Edit the store of `page` without touching the page. -/
def adjust
    (page : ι)
    (change : Store κ ν → Store κ ν)
    (table : Table ι κ ν) :
    Table ι κ ν :=
  { table with entries := Assoc.adjust page change table.entries }

/-- Create an empty store for `page` unless one is retained. -/
def ensure
    (page : ι)
    (table : Table ι κ ν) :
    Table ι κ ν × List (Departure ι) :=
  if table.contains page then
    (table, [])
  else
    trim { table with entries := Assoc.bind page {} table.entries }

/-- Make `store` the committed store of `page`, touching the page. -/
def commit
    (page : ι)
    (store : Store κ ν)
    (table : Table ι κ ν) :
    Table ι κ ν × List (Departure ι) :=
  let replaced :=
    if table.contains page then
      [Departure.mk .replace page]
    else
      []
  let (committed, evicted) :=
    trim { table with entries := Assoc.bind page store table.entries }
  (committed, replaced ++ evicted)

omit [DecidableEq ι] in
/-- What is trimmed and what stays make up the table, in recency order. -/
theorem pages_trim (table : Table ι κ ν) :
    table.trim.2.map Departure.page ++ table.trim.1.pages = table.pages := by
  simp [trim, pages, Assoc.keys, Function.comp_def]

omit [DecidableEq ι] in
/-- A trimmed table keeps within its capacity. -/
theorem size_trim_le (table : Table ι κ ν) :
    table.trim.1.size ≤ table.capacity := by
  simp only [trim, size, List.length_drop]
  omega

omit [DecidableEq ι] in
/-- A table within its capacity is not trimmed. -/
theorem trim_of_size_le
    {table : Table ι κ ν}
    (within : table.size ≤ table.capacity) :
    table.trim = (table, []) := by
  have none_excess : table.entries.length - table.capacity = 0 :=
    Nat.sub_eq_zero_of_le within
  simp [trim, none_excess, Assoc.keys]

/-- Editing in place moves no page. -/
@[simp] theorem pages_adjust
    (page : ι)
    (change : Store κ ν → Store κ ν)
    (table : Table ι κ ν) :
    (table.adjust page change).pages = table.pages :=
  Assoc.keys_adjust page change table.entries

/-- A page is retained exactly if it is among the pages. -/
theorem contains_iff_mem_pages (page : ι) (table : Table ι κ ν) :
    table.contains page = true ↔ page ∈ table.pages :=
  Assoc.contains_iff_mem_keys page table.entries

end Table

end NavState
