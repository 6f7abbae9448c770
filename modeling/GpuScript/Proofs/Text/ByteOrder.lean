import GpuScript.Proofs.Text.EndedLines
import Mathlib.Tactic.SplitIfs

/-!
# The order of texts is that of their bytes

Texts are ordered by the code points of their characters. In UTF-8 a character with a greater code
has bytes that come later: a longer code begins with a greater byte, and codes of the same length
hold the number in digits of six bits, the leading one first. No code is the beginning of another
one, so that the first different characters of two texts decide the order of their bytes too
(`lt_iff_encode_lt`).
-/

namespace GpuScript.Text

/-- Of two bytes in front the greater number comes later; what follows decides between equal
numbers. -/
theorem ofNat_cons_lt_ofNat_cons {first second : Nat} (small : first < 256)
    (little : second < 256) {before after : List UInt8} :
    UInt8.ofNat first :: before < UInt8.ofNat second :: after ↔
      first < second ∨ first = second ∧ before < after := by
  have same : UInt8.ofNat first = UInt8.ofNat second ↔ first = second := by
    rw [← UInt8.toNat_inj, UInt8.toNat_ofNat_of_lt' small, UInt8.toNat_ofNat_of_lt' little]
  rw [List.cons_lt_cons_iff, UInt8.ofNat_lt_iff_lt small little, same]

/-- The code point of a character is below the end of the code space. -/
theorem val_lt (character : Char) : character.val.toNat < 0x110000 := by
  rcases character.valid with low | ⟨_, high⟩
  · exact Nat.lt_trans low (by decide)
  · exact high

/-- The bytes of a lesser character come earlier, whatever follows either character. -/
theorem utf8EncodeChar_append_lt {first second : Char} (less : first < second)
    (before after : List UInt8) :
    String.utf8EncodeChar first ++ before < String.utf8EncodeChar second ++ after := by
  have numbers : first.val.toNat < second.val.toNat := less
  have most := val_lt second
  simp only [String.utf8EncodeChar]
  generalize first.val.toNat = first at *
  generalize second.val.toNat = second at *
  have leading (unit : Nat) : first / unit < second / unit ∨ first / unit = second / unit :=
    Nat.lt_or_eq_of_le (Nat.div_le_div_right (Nat.le_of_lt numbers))
  split_ifs
  all_goals
    simp (disch := omega) only [List.cons_append, List.nil_append, ofNat_cons_lt_ofNat_cons]
    -- The first of the digits that differ, if the codes are of the same length.
    rcases leading 0x40000 with ahead | same
    · omega
    rcases leading 0x1000 with ahead | same
    · omega
    rcases leading 0x40 with ahead | same
    · omega
    · omega

/-- The bytes of a lesser text come earlier. -/
theorem encode_lt_encode {first second : List Char} (less : first < second) :
    encode first < encode second := by
  induction less with
  | @nil character rest =>
    obtain ⟨byte, bytes, code⟩ :=
      List.exists_cons_of_ne_nil (String.utf8EncodeChar_ne_nil (c := character))
    rw [encode, encode, List.flatMap_nil, List.flatMap_cons, code]
    exact List.nil_lt_cons byte _
  | rel less => exact utf8EncodeChar_append_lt less _ _
  | cons _ ih => exact List.append_left_lt ih

/-- A text is less than another one if and only if its bytes come earlier. -/
theorem lt_iff_encode_lt {first second : String} :
    first < second ↔ encode first.toList < encode second.toList := by
  change first.toList < second.toList ↔ _
  refine ⟨encode_lt_encode, fun earlier => Classical.byContradiction fun least => ?_⟩
  rcases List.le_iff_lt_or_eq.mp (List.not_lt.mp least) with greater | same
  · exact List.lt_asymm earlier (encode_lt_encode greater)
  · rw [same] at earlier
    exact List.lt_irrefl _ earlier

end GpuScript.Text
