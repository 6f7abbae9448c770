import GpuScript.Text.Blank
import GpuScript.Text.Numeral

/-!
# Numerals read back

The decimal digits of a natural number are read as that number (`natural?_decimalDigits`), and so
is the text of an unsigned word.
-/

namespace GpuScript.Text

/-- A character is a decimal digit by its code. -/
theorem isDigit_iff (character : Char) :
    isDigit character = true ↔ 48 ≤ character.toNat ∧ character.toNat ≤ 57 := by
  unfold isDigit digitValue?
  simp only
  split
  · rename_i range
    simp [range]
    omega
  · rename_i range
    split
    · simp
      omega
    · split
      · simp
        omega
      · simp
        omega

/-- The value of a decimal digit is its distance from zero. -/
theorem digitValue?_of_isDigit {character : Char} (digit : isDigit character = true) :
    digitValue? 10 character = some (character.toNat - 48) := by
  have range := (isDigit_iff character).mp digit
  unfold digitValue?
  simp only [range, and_self, ↓reduceIte]
  exact if_pos (by omega)

/-- Reading stops at the first character that is no digit. -/
theorem continueNatural?_of_not_isDigit {text : List Char} {character : Char}
    (listed : character ∈ text) (other : isDigit character = false) (value : Nat) :
    continueNatural? 10 value text = none := by
  induction text generalizing value with
  | nil => cases listed
  | cons first rest ih =>
    rw [continueNatural?]
    rcases List.mem_cons.mp listed with rfl | later
    · rw [isDigit, Option.isSome_eq_false_iff, Option.isNone_iff_eq_none] at other
      rw [other]
    · split
      · exact ih later _
      · rfl

/-- A text with a character that is no digit writes no natural number. -/
theorem natural?_of_not_isDigit {text : List Char} {character : Char}
    (listed : character ∈ text) (other : isDigit character = false) :
    natural? 10 text = none := by
  rw [natural?]
  · exact continueNatural?_of_not_isDigit listed other 0
  · rintro rfl
    cases listed

/-- Digits continue a number as they do in positional notation. -/
theorem continueNatural?_eq_ofDigitChars {digits : List Char}
    (all : ∀ digit ∈ digits, isDigit digit = true) (value : Nat) :
    continueNatural? 10 value digits = some (Nat.ofDigitChars 10 digits value) := by
  induction digits generalizing value with
  | nil => rw [continueNatural?, Nat.ofDigitChars_nil]
  | cons first rest ih =>
    obtain ⟨digit, others⟩ := List.forall_mem_cons.mp all
    rw [continueNatural?, digitValue?_of_isDigit digit]
    simp only
    rw [ih others, Nat.ofDigitChars_cons, Nat.mul_comm]
    rfl

/-- Decimal digits are digits. -/
theorem isDigit_of_mem_decimalDigits {value : Nat} {digit : Char}
    (listed : digit ∈ decimalDigits value) : isDigit digit = true := by
  have decimal := Nat.isDigit_of_mem_toDigits (by decide) (by decide) listed
  rw [isDigit_iff]
  simpa [Char.isDigit, UInt32.le_iff_toNat_le] using decimal

/-- A natural number has at least one digit. -/
theorem exists_decimalDigits_cons (value : Nat) :
    ∃ first rest, decimalDigits value = first :: rest :=
  List.exists_cons_of_ne_nil Nat.toDigits_ne_nil

/-- The decimal digits of a number are read as that number. -/
theorem natural?_decimalDigits (value : Nat) :
    natural? 10 (decimalDigits value) = some value := by
  rw [natural?, continueNatural?_eq_ofDigitChars fun _ => isDigit_of_mem_decimalDigits]
  · exact congrArg some (Nat.ofDigitChars_toDigits (by decide) (by decide))
  · exact Nat.toDigits_ne_nil

/-- Digits open with no sign. -/
theorem ne_sign_of_isDigit {character : Char} (digit : isDigit character = true) :
    character ≠ '+' ∧ character ≠ '-' := by
  constructor
  · rintro rfl
    exact absurd digit (by decide)
  · rintro rfl
    exact absurd digit (by decide)

/-- The decimal digits of an unsigned word are read as that word. -/
theorem word32?_decimalDigits (value : UInt32) :
    word32? (decimalDigits value.toNat) = some value := by
  obtain ⟨first, rest, digits⟩ := exists_decimalDigits_cons value.toNat
  have listed : first ∈ decimalDigits value.toNat := digits ▸ List.mem_cons_self
  have digit := isDigit_of_mem_decimalDigits listed
  have whole := natural?_decimalDigits value.toNat
  rw [digits] at whole ⊢
  have below : value.toNat < UInt32.size := value.toNat_lt
  have plain : unsigned? 10 UInt32.size (first :: rest) = some value.toNat := by
    unfold unsigned?
    split
    · rename_i sign
      exact absurd (List.cons.inj sign).1 (ne_sign_of_isDigit digit).1
    · simp only [whole]
      exact if_pos (decide_eq_true below)
  rw [word32?, plain]
  simp

/-- No sign is split off digits. -/
theorem splitSign_of_isDigit {first : Char} (digit : isDigit first = true) (rest : List Char) :
    splitSign (first :: rest) = (false, first :: rest) := by
  have other := ne_sign_of_isDigit digit
  unfold splitSign
  split
  · rename_i sign
    exact absurd (List.cons.inj sign).1 other.2
  · rename_i sign
    exact absurd (List.cons.inj sign).1 other.1
  · rfl

end GpuScript.Text
