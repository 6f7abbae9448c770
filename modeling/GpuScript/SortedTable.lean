/-!
# Tables sorted by name

A table is a sequence of entries whose names increase strictly, and an entry is found by halving
the part of the table that may hold it. `SortedTable.scan?` states the meaning of a look-up: the
first entry with that name, from the front.

Names are ordered by the code points of their characters.
-/

namespace GpuScript

/-- Every name of a list is less than the next one. -/
def increasing : List String → Bool
  | first :: second :: rest => decide (first < second) && increasing (second :: rest)
  | _ => true

/-- A table whose entries have strictly increasing names. -/
structure SortedTable (α : Type) where
  /-- The name of an entry. -/
  key : α → String
  /-- The entries in the order of their names. -/
  entries : Array α
  /-- The names increase from each entry to the next. -/
  sorted : increasing (entries.toList.map key) = true

namespace SortedTable

variable {α : Type}

/-- The entry with a name among those from one place up to another: the middle entry decides which
half may hold it. -/
def search? (table : SortedTable α) (name : String) (low high : Nat)
    (bound : high ≤ table.entries.size) : Option α :=
  if h : low < high then
    let middle := (low + high) / 2
    let entry := table.entries[middle]
    if table.key entry = name then some entry
    else if table.key entry < name then table.search? name (middle + 1) high bound
    else table.search? name low middle (by omega)
  else
    none
  termination_by high - low

/-- The entry with a name. -/
def find? (table : SortedTable α) (name : String) : Option α :=
  table.search? name 0 table.entries.size (Nat.le_refl _)

/-- The first entry with a name, found by looking at every entry from the front. -/
def scan? (table : SortedTable α) (name : String) : Option α :=
  table.entries.toList.find? fun entry => table.key entry == name

end SortedTable

end GpuScript
