import GpuScript.Proofs.Operation.BufferTypes
import GpuScript.Proofs.SortedTable

/-!
# Tables at indices

A look-up in a sorted table finds the index of an entry, and the entry is then taken from the table.
A format keeps its parts in a fixed number of slots and says how many of them it uses. Every index
that is found is one of the table (`lookUp?_eq`), and no format uses more slots than there are
(`length_parts_le`), so formats and types of buffer data are found without an index that is none.
-/

namespace GpuScript.Checked

variable {α : Type}

/-- The index of the entry with a name among those from one place up to another. -/
def searchIndex? (table : SortedTable α) (name : String) (low high : Nat)
    (bound : high < table.entries.size + 1) : Option Nat :=
  if inside : low < high then
    let middle := (low + high) / 2
    let entry := table.entries[middle]
    if table.key entry = name then some middle
    else if table.key entry < name then searchIndex? table name (middle + 1) high bound
    else searchIndex? table name low middle (by omega)
  else
    none
  termination_by high - low

/-- The entry with a name, taken from the table at its index. -/
def lookUp? (table : SortedTable α) (name : String) : Option (Option α) :=
  match searchIndex? table name 0 table.entries.size (Nat.lt_succ_self _) with
  | none => some none
  | some index => do
    let entry ← table.entries[index]?
    some (some entry)

/-- Some of so many slots, from one index up to another; nothing if the indices are not in order or
beyond the slots. -/
def slots? (count start stop : Nat) : Option Unit :=
  if start ≤ stop ∧ stop ≤ count then some () else none

/-- The number of slots that a format has for its parts. -/
def slotCount : Nat := 4

/-- The parts of a format, taken from its slots. -/
def parts? (format : Format) : Option (List Part) := do
  let () ← slots? slotCount 0 format.parts.length
  some format.parts

/-- Parts from an index on have a size and a mode and are the components of a vector. -/
def isVectorFrom? (bits : Nat) (mode : Mode) : Nat → List Part → Option Bool
  | _, [] => some true
  | index, part :: rest =>
    if part.bits ≠ bits then
      some false
    else do
      let component ← Format.vectorOrder[index]?
      if part.component = component ∧ part.mode = mode then isVectorFrom? bits mode (index + 1) rest
      else some false

/-- The format keeps a vector of the given shape. -/
def isVector? (bits : Nat) (mode : Mode) (count : Nat) (format : Format) : Option Bool :=
  if format.parts.length ≠ count ∨ format.packedBits.isSome then
    some false
  else do
    let parts ← parts? format
    isVectorFrom? bits mode 0 parts

/-- The first of some formats that keeps a vector of the given shape. -/
def firstVector? (bits : Nat) (mode : Mode) (count : Nat) : List Format → Option (Option Format)
  | [] => some none
  | format :: rest => do
    let found ← isVector? bits mode count format
    if found then some (some format) else firstVector? bits mode count rest

/-- The number of bytes whose multiples a cell may start at. -/
def alignment? (format : Format) : Option Nat :=
  match format.packedBits with
  | some bits => some (bits / 8)
  | none => do
    let parts ← parts? format
    some ((parts.foldl (fun widest part => max widest part.bits) 0) / 8)

/-- The number of bytes of a pixel or cell. -/
def size? (format : Format) : Option Nat :=
  match format.packedBits with
  | some bits => some (bits / 8)
  | none => do
    let parts ← parts? format
    some (parts.foldr (fun part total => part.bits + total) 0 / 8)

/-- The type of the cells of a format. -/
def typeOfFormat? (format : Format) : Option (Option DatumType) :=
  match format.packedBits with
  | some _ => some (DatumType.ofFormat? format)
  | none => do
    let _ ← parts? format
    some (DatumType.ofFormat? format)

/-- The type of buffer data with a name. -/
def typeOfName? (name : String) : Option (Option DatumType) := do
  let shaderType ← lookUp? DatumType.shaderTable name
  match shaderType with
  | some type => some (some type)
  | none => do
    let format ← lookUp? Format.table name
    match format with
    | some format => typeOfFormat? format
    | none => some none

/-- The index that is found is that of the entry. -/
theorem search?_eq (table : SortedTable α) (name : String) (low high : Nat)
    (bound : high < table.entries.size + 1) :
    table.search? name low high (Nat.le_of_lt_succ bound) =
      (searchIndex? table name low high bound).bind (table.entries[·]?) := by
  fun_induction searchIndex? table name low high bound with
  | case1 low high bound inside middle entry same =>
    have listed : middle < table.entries.size := by omega
    rw [SortedTable.search?, dif_pos inside, if_pos same]
    exact (Array.getElem?_eq_getElem listed).symm
  | case2 low high bound inside middle entry other less ih =>
    rw [SortedTable.search?, dif_pos inside, if_neg other, if_pos less]
    exact ih
  | case3 low high bound inside middle entry other greater ih =>
    rw [SortedTable.search?, dif_pos inside, if_neg other, if_neg greater]
    exact ih
  | case4 low high bound outside =>
    rw [SortedTable.search?, dif_neg outside]
    rfl

/-- An index that is found is one of the table. -/
theorem lt_size_of_searchIndex? {table : SortedTable α} {name : String} {low high index : Nat}
    {bound : high < table.entries.size + 1}
    (found : searchIndex? table name low high bound = some index) : index < table.entries.size := by
  fun_induction searchIndex? table name low high bound with
  | case1 low high bound inside middle entry same =>
    obtain rfl := Option.some.inj found
    omega
  | case2 low high bound inside middle entry other less ih => exact ih found
  | case3 low high bound inside middle entry other greater ih => exact ih found
  | case4 => cases found

/-- Whatever the name, the index that is found is one of the table. -/
theorem lookUp?_eq (table : SortedTable α) (name : String) :
    lookUp? table name = some (table.find? name) := by
  rw [lookUp?, SortedTable.find?, search?_eq table name 0 _ (Nat.lt_succ_self _)]
  cases found : searchIndex? table name 0 table.entries.size (Nat.lt_succ_self _) with
  | none => rfl
  | some index =>
    have inside := lt_size_of_searchIndex? found
    simp only [Option.bind_some, Array.getElem?_eq_getElem inside, Option.bind_eq_bind]

/-- No format uses more slots than there are. -/
theorem length_parts_le : ∀ format ∈ Format.table.entries, format.parts.length ≤ slotCount := by
  decide +kernel

variable {format : Format}

/-- The parts of a format in the table are in its slots. -/
theorem parts?_eq (listed : format ∈ Format.table.entries) :
    parts? format = some format.parts := by
  have short := length_parts_le format listed
  rw [parts?, slots?, if_pos ⟨Nat.zero_le _, short⟩]
  rfl

/-- The parts from an index on are compared with components that there are. -/
theorem isVectorFrom?_eq (bits : Nat) (mode : Mode) {index : Nat} {parts : List Part}
    (short : index + parts.length ≤ slotCount) :
    isVectorFrom? bits mode index parts =
      some ((parts.zip (Format.vectorOrder.drop index)).all fun (part, component) =>
        part.bits == bits && part.component == component && part.mode == mode) := by
  induction parts generalizing index with
  | nil => rfl
  | cons part rest ih =>
    have inside : index < Format.vectorOrder.length := by
      have four : Format.vectorOrder.length = slotCount := rfl
      rw [List.length_cons] at short
      omega
    have inner := @ih (index + 1) (by rw [List.length_cons] at short; omega)
    rw [isVectorFrom?, List.drop_eq_getElem_cons inside, List.zip_cons_cons, List.all_cons,
      List.getElem?_eq_getElem inside]
    by_cases size : part.bits = bits
    · by_cases same : part.component = Format.vectorOrder[index] ∧ part.mode = mode
      · simp [size, same, inner]
      · have fails :
            (part.component == Format.vectorOrder[index] && part.mode == mode) = false := by
          simpa [Bool.and_eq_false_iff, not_and_or] using same
        simp [size, same, fails]
    · simp [size]

/-- Whether a format of the table keeps a vector is found out by its slots. -/
theorem isVector?_eq (bits : Nat) (mode : Mode) (count : Nat)
    (listed : format ∈ Format.table.entries) :
    isVector? bits mode count format = some (format.isVector bits mode count) := by
  have short := length_parts_le format listed
  have inside : 0 + format.parts.length ≤ slotCount := by omega
  have all := isVectorFrom?_eq bits mode inside
  rw [isVector?, Format.isVector, parts?_eq listed]
  by_cases number : format.parts.length = count
  · cases packed : format.packedBits with
    | some word => simp
    | none =>
      rw [if_neg (by simp [number])]
      simpa [number] using all
  · rw [if_pos (Or.inl number)]
    simp [number]

/-- The first format that keeps a vector is found out by the slots of the formats. -/
theorem firstVector?_eq (bits : Nat) (mode : Mode) (count : Nat) {formats : List Format}
    (listed : ∀ format ∈ formats, format ∈ Format.table.entries) :
    firstVector? bits mode count formats =
      some (formats.find? (Format.isVector bits mode count)) := by
  induction formats with
  | nil => rfl
  | cons format rest ih =>
    obtain ⟨own, others⟩ := List.forall_mem_cons.mp listed
    rw [firstVector?, isVector?_eq bits mode count own, List.find?_cons]
    cases format.isVector bits mode count with
    | true => rfl
    | false => exact ih others

/-- The alignment of a format in the table is found out by its slots. -/
theorem alignment?_eq (listed : format ∈ Format.table.entries) :
    alignment? format = some format.alignment := by
  rw [alignment?, parts?_eq listed, Format.alignment]
  cases format.packedBits <;> rfl

/-- The size of a format in the table is found out by its slots. -/
theorem size?_eq (listed : format ∈ Format.table.entries) : size? format = some format.size := by
  rw [size?, parts?_eq listed, Format.size]
  cases format.packedBits <;> rfl

/-- Whatever the name, a type of buffer data is found without an index that is none. -/
theorem typeOfName?_eq (name : String) : typeOfName? name = some (DatumType.ofName? name) := by
  rw [typeOfName?, DatumType.ofName?, lookUp?_eq, lookUp?_eq, Format.ofName?]
  cases DatumType.shaderTable.find? name with
  | some type => rfl
  | none =>
    cases found : Format.table.find? name with
    | none => rfl
    | some format =>
      have listed := SortedTable.mem_of_find? found
      simp only [Option.bind_eq_bind, Option.bind_some, typeOfFormat?, parts?_eq listed]
      cases format.packedBits <;> rfl

end GpuScript.Checked
