import GpuScript.SortedTable

/-!
# Looking up names

What a look-up in a sorted table finds is an entry with the name that was looked for, and an entry
of the table is found by its name: halving never leaves the part of the table that the entry is in.
So a look-up gives what reading the table from the front gives (`SortedTable.find?_eq_scan?`).
-/

namespace GpuScript.SortedTable

variable {α : Type} {table : SortedTable α}

/-- What is found in a part of a table has the name. -/
theorem key_of_search? {name : String} {low high : Nat} {bound : high ≤ table.entries.size}
    {entry : α} (found : table.search? name low high bound = some entry) :
    table.key entry = name := by
  fun_induction search? table name low high bound with
  | case1 low high bound inside middle own same =>
    obtain rfl := Option.some.inj found
    exact same
  | case2 low high bound inside middle own other less ih => exact ih found
  | case3 low high bound inside middle own other greater ih => exact ih found
  | case4 => cases found

/-- What is found in a table has the name. -/
theorem key_of_find? {name : String} {entry : α} (found : table.find? name = some entry) :
    table.key entry = name :=
  key_of_search? found

/-- What is found in a part of a table is an entry of the table. -/
theorem mem_of_search? {name : String} {low high : Nat} {bound : high ≤ table.entries.size}
    {entry : α} (found : table.search? name low high bound = some entry) :
    entry ∈ table.entries := by
  fun_induction search? table name low high bound with
  | case1 low high bound inside middle own same =>
    rw [← Option.some.inj found]
    exact Array.getElem_mem _
  | case2 low high bound inside middle own other less ih => exact ih found
  | case3 low high bound inside middle own other greater ih => exact ih found
  | case4 => cases found

/-- What is found in a table is an entry of the table. -/
theorem mem_of_find? {name : String} {entry : α} (found : table.find? name = some entry) :
    entry ∈ table.entries :=
  mem_of_search? found

/-- Names that increase from each to the next increase throughout. -/
theorem pairwise_of_increasing {names : List String} (sorted : increasing names = true) :
    names.Pairwise (· < ·) := by
  induction names with
  | nil => exact .nil
  | cons first rest ih =>
    cases rest with
    | nil => exact List.pairwise_singleton _ _
    | cons second rest =>
      simp only [increasing, Bool.and_eq_true, decide_eq_true_eq] at sorted
      have later := ih sorted.2
      refine List.pairwise_cons.mpr ⟨fun name listed => ?_, later⟩
      rcases List.mem_cons.mp listed with rfl | beyond
      · exact sorted.1
      · exact String.lt_trans sorted.1 ((List.pairwise_cons.mp later).1 name beyond)

/-- The name of an entry is less than that of every later one. -/
theorem key_lt_key (table : SortedTable α) {first second : Nat} (order : first < second)
    (inside : second < table.entries.size) :
    table.key table.entries[first] < table.key table.entries[second] := by
  have all := List.pairwise_iff_getElem.mp (pairwise_of_increasing table.sorted) first second
    (by simp; omega) (by simpa using inside) order
  simpa using all

/-- The names in a table are different. -/
theorem nodup_names (table : SortedTable α) : (table.entries.toList.map table.key).Nodup := by
  refine (pairwise_of_increasing table.sorted).imp ?_
  rintro first _ less rfl
  exact String.lt_irrefl first less

/-- An entry in a part of a table is found there by its name. -/
theorem search?_key {place : Nat} (listed : place < table.entries.size) {low high : Nat}
    {bound : high ≤ table.entries.size} (least : low ≤ place) (most : place < high) :
    table.search? (table.key table.entries[place]) low high bound =
      some table.entries[place] := by
  fun_induction search? table (table.key table.entries[place]) low high bound with
  | case1 low high bound inside middle own same =>
    have here : middle = place := by
      rcases Nat.lt_trichotomy middle place with before | here | after
      · exact absurd (same ▸ table.key_lt_key before listed) (String.lt_irrefl _)
      · exact here
      · exact absurd (same ▸ table.key_lt_key after (by omega)) (String.lt_irrefl _)
    exact congrArg some (getElem_congr_idx here)
  | case2 low high bound inside middle own other less ih =>
    have beyond : middle < place := by
      refine Nat.lt_of_not_le fun before => ?_
      rcases Nat.lt_or_eq_of_le before with before | rfl
      · exact String.lt_asymm less (table.key_lt_key before (by omega))
      · exact other rfl
    exact ih beyond most
  | case3 low high bound inside middle own other greater ih =>
    have short : place < middle := by
      refine Nat.lt_of_not_le fun after => ?_
      rcases Nat.lt_or_eq_of_le after with after | same
      · exact greater (table.key_lt_key after listed)
      · exact other (congrArg table.key (getElem_congr_idx same))
    exact ih least short
  | case4 low high bound outside => omega

/-- An entry of a table is found by its name. -/
theorem find?_key {entry : α} (listed : entry ∈ table.entries) :
    table.find? (table.key entry) = some entry := by
  obtain ⟨place, inside, rfl⟩ := Array.mem_iff_getElem.mp listed
  exact search?_key inside (Nat.zero_le place) inside

/-- What is found by a name is the entry with that name. -/
theorem find?_eq_some_iff {name : String} {entry : α} :
    table.find? name = some entry ↔ entry ∈ table.entries ∧ table.key entry = name := by
  constructor
  · intro found
    exact ⟨mem_of_find? found, key_of_find? found⟩
  · rintro ⟨listed, rfl⟩
    exact find?_key listed

/-- Halving finds what is found by looking at every entry from the front. -/
theorem find?_eq_scan? (table : SortedTable α) (name : String) :
    table.find? name = table.scan? name := by
  cases scanned : table.scan? name with
  | some entry =>
    rw [scan?] at scanned
    have listed : entry ∈ table.entries :=
      Array.mem_toList_iff.mp (List.mem_of_find?_eq_some scanned)
    have own : table.key entry = name := by simpa using List.find?_some scanned
    exact find?_eq_some_iff.mpr ⟨listed, own⟩
  | none =>
    rw [scan?, List.find?_eq_none] at scanned
    refine Option.eq_none_iff_forall_ne_some.mpr fun entry found => ?_
    exact scanned entry (Array.mem_toList_iff.mpr (mem_of_find? found))
      (beq_iff_eq.mpr (key_of_find? found))

end GpuScript.SortedTable
