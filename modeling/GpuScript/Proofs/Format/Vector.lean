import GpuScript.Format.Table

/-!
# Formats of vectors

A format stores a vector if it keeps each part by itself and its parts are the first components of
a vector, in order, all of one size and one mode (`Format.StoresVector`). Whether a format does is
found out part by part (`Format.isVector_iff`). If only one format of the table stores a vector of
some shape, then it is the one that is found for the shape (`Format.ofVector?_of_single`).
-/

namespace GpuScript.Format

/-- The format keeps each part by itself, and the parts are so many components of a vector, in
order, all of the given size and mode. -/
structure StoresVector (bits : Nat) (mode : Mode) (count : Nat) (format : Format) : Prop where
  /-- The parts share no word. -/
  unpacked : format.packedBits = none
  /-- The parts are components of a vector in order. -/
  parts : format.parts = (vectorOrder.take count).map fun component => ⟨bits, component, mode⟩

variable {bits count : Nat} {mode : Mode} {format : Format}

/-- A part is its size, its component and its mode. -/
theorem part_eq_iff {part : Part} {component : Component} :
    (part.bits == bits && part.component == component && part.mode == mode) = true ↔
      part = ⟨bits, component, mode⟩ := by
  obtain ⟨size, own, reading⟩ := part
  simp [and_assoc]

/-- Parts are compared with components in order, one by one. -/
theorem all_zip_iff {parts : List Part} {order : List Component}
    (short : parts.length ≤ order.length) :
    (parts.zip order).all (fun (part, component) =>
        part.bits == bits && part.component == component && part.mode == mode) = true ↔
      parts = (order.take parts.length).map fun component => ⟨bits, component, mode⟩ := by
  induction parts generalizing order with
  | nil => simp
  | cons part rest ih =>
    cases order with
    | nil => simp at short
    | cons component order =>
      have inner := ih (Nat.le_of_succ_le_succ short)
      rw [List.zip_cons_cons, List.all_cons, Bool.and_eq_true, part_eq_iff, inner,
        List.length_cons, List.take_succ_cons, List.map_cons, List.cons.injEq]

/-- A format keeps a vector of a shape if it stores one with as many components. -/
theorem isVector_iff (few : count ≤ vectorOrder.length) :
    format.isVector bits mode count = true ↔ format.StoresVector bits mode count := by
  rw [isVector, Bool.and_eq_true, Bool.and_eq_true, beq_iff_eq, Option.isNone_iff_eq_none]
  constructor
  · rintro ⟨⟨rfl, unpacked⟩, all⟩
    exact ⟨unpacked, (all_zip_iff few).mp all⟩
  · rintro ⟨unpacked, parts⟩
    have length : format.parts.length = count := by
      rw [parts, List.length_map, List.length_take, Nat.min_eq_left few]
    refine ⟨⟨length, unpacked⟩, (all_zip_iff (length ▸ few)).mpr ?_⟩
    rw [length]
    exact parts

/-- The only format of the table that stores a vector of a shape is found for the shape. -/
theorem ofVector?_of_single (few : count ≤ vectorOrder.length)
    (single : (all.toList.filter (isVector bits mode count)).length = 1) :
    ∃ format ∈ table.entries, ofVector? bits mode count = some format ∧
      ∀ other ∈ table.entries, other.StoresVector bits mode count ↔ other = format := by
  obtain ⟨format, only⟩ := List.length_eq_one_iff.mp single
  have kept (other : Format) :
      other = format ↔ other ∈ table.entries ∧ other.StoresVector bits mode count := by
    rw [← List.mem_singleton, ← only, List.mem_filter, isVector_iff few, Array.mem_toList_iff]
    rfl
  refine ⟨format, ((kept format).mp rfl).1, ?_, fun other listed => ?_⟩
  · rw [ofVector?, ← List.head?_filter, only]
    rfl
  · rw [kept other, and_iff_right listed]

end GpuScript.Format
