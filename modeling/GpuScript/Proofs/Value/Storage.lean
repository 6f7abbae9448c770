import GpuScript.Value
import Mathlib.Tactic.SplitIfs

/-!
# How values are stored

A token that is read under a kind of number and a number of bits gives a value of that kind, in the
smallest storage width that holds the bits (`Value.storedAs_of_ofToken?`).
-/

namespace GpuScript

/-- The numbers of bits in which numbers of a kind are stored. -/
def BaseType.storageWidths : BaseType → List Nat
  | float => [32, 64]
  | signed | unsigned => [8, 16, 32, 64]

/-- A value is stored as a number of a kind with a number of bits: in the smallest of the storage
widths of its kind that holds the bits. -/
structure Value.StoredAs (kind : BaseType) (bits : Nat) (value : Value) : Prop where
  /-- The value is of the kind. -/
  base : value.base = kind
  /-- It is stored in a width for the kind. -/
  width : value.bits ∈ kind.storageWidths
  /-- The width holds the bits. -/
  holds : bits ≤ value.bits
  /-- No smaller width holds them. -/
  least : ∀ width ∈ kind.storageWidths, bits ≤ width → value.bits ≤ width

/-- The width for a number of bits is the smallest storage width of integers that holds them. -/
theorem Width.least_of_ofBits? {bits : Nat} {width : Width} (found : ofBits? bits = some width) :
    width.bits ∈ [8, 16, 32, 64] ∧ bits ≤ width.bits ∧
      ∀ other ∈ [8, 16, 32, 64], bits ≤ other → width.bits ≤ other := by
  unfold ofBits? at found
  split_ifs at found
  all_goals
    obtain rfl := Option.some.inj found
    simp only [Width.bits]
    refine ⟨by simp, by omega, fun other listed fits => ?_⟩
    simp only [List.mem_cons, List.not_mem_nil, or_false] at listed
    omega

/-- The format for a number of bits is the smallest one that holds them. -/
theorem Precision.least_of_ofBits? {bits : Nat} {precision : Precision}
    (found : ofBits? bits = some precision) :
    precision.bits ∈ [32, 64] ∧ bits ≤ precision.bits ∧
      ∀ other ∈ [32, 64], bits ≤ other → precision.bits ≤ other := by
  unfold ofBits? at found
  split_ifs at found
  all_goals
    obtain rfl := Option.some.inj found
    simp only [Precision.bits]
    refine ⟨by simp, by omega, fun other listed fits => ?_⟩
    simp only [List.mem_cons, List.not_mem_nil, or_false] at listed
    omega

namespace Value

/-- A signed integer in the width for a number of bits. -/
theorem storedAs_signed {bits : Nat} {width : Width} (found : Width.ofBits? bits = some width)
    (stored : BitVec width.bits) : (signed width stored).StoredAs .signed bits := by
  have least := Width.least_of_ofBits? found
  exact ⟨rfl, least.1, least.2.1, least.2.2⟩

/-- An unsigned integer in the width for a number of bits. -/
theorem storedAs_unsigned {bits : Nat} {width : Width} (found : Width.ofBits? bits = some width)
    (stored : BitVec width.bits) : (unsigned width stored).StoredAs .unsigned bits := by
  have least := Width.least_of_ofBits? found
  exact ⟨rfl, least.1, least.2.1, least.2.2⟩

/-- A floating-point number in the format for a number of bits. -/
theorem storedAs_float {bits : Nat} {precision : Precision}
    (found : Precision.ofBits? bits = some precision) (number : Binary precision) :
    (float precision number).StoredAs .float bits := by
  have least := Precision.least_of_ofBits? found
  exact ⟨rfl, least.1, least.2.1, least.2.2⟩

/-- The value of a token is stored as its kind and its number of bits ask for. -/
theorem storedAs_of_ofToken? {kind : BaseType} {bits : Nat} {token : Token} {value : Value}
    (found : ofToken? kind bits token = some value) : value.StoredAs kind bits := by
  cases kind with
  | float =>
    simp only [ofToken?] at found
    split at found
    · rename_i width
      rw [← Option.some.inj found]
      exact storedAs_float width _
    · cases found
  | signed =>
    simp only [ofToken?] at found
    split at found
    · rename_i width
      rw [← Option.some.inj found]
      exact storedAs_signed width _
    · cases found
  | unsigned =>
    simp only [ofToken?] at found
    split at found
    · rename_i width
      rw [← Option.some.inj found]
      exact storedAs_unsigned width _
    · cases found

end Value

end GpuScript
