import GpuScript.Proofs.Value.Storage
import Mathlib.Data.Int.ModEq

/-!
# Integers modulo their width

A cast gives the one number that the target can hold and that is congruent to the given number
modulo two to the width of the target (`CastsTo`). Casts that only get narrower can be made at once
(`CastsTo.through_iff`), and what is left after a narrow cast and another one is the number modulo
the lesser width (`CastsTo.modEq_min`). So an integer literal of 64 bits, with a sign or without, is
stored as a cast of its number, whatever wider word it goes through on its way, and the casts of a
stored value follow (`Value.ofToken?_of_integer`).
-/

namespace GpuScript

/-- The integers that a number of bits can hold for a kind of number. -/
def BaseType.Holds (bits : Nat) (number : Int) : BaseType → Prop
  | signed => -2 ^ (bits - 1) ≤ number ∧ number < 2 ^ (bits - 1)
  | unsigned => 0 ≤ number ∧ number < 2 ^ bits
  | float => False

/-- A number is cast to an integer of a kind and a width: the target holds the result, which is
congruent to the number modulo two to the width. -/
structure CastsTo (kind : BaseType) (bits : Nat) (number result : Int) : Prop where
  /-- The target holds the result. -/
  holds : kind.Holds bits result
  /-- The result is the number modulo two to the width. -/
  modEq : result ≡ number [ZMOD 2 ^ bits]

namespace CastsTo

variable {kind other : BaseType} {bits narrow wide : Nat} {number middle result second : Int}

/-- Numbers of one window of the length of a modulus are equal if they are congruent. -/
theorem eq_of_modEq (least : Int) {modulus : Int} (congruent : result ≡ second [ZMOD modulus])
    (first : least ≤ result ∧ result < least + modulus)
    (last : least ≤ second ∧ second < least + modulus) : result = second := by
  have shifted : result - least ≡ second - least [ZMOD modulus] := congruent.sub_right least
  have low : (result - least) % modulus = result - least :=
    Int.emod_eq_of_lt (by omega) (by omega)
  have high : (second - least) % modulus = second - least :=
    Int.emod_eq_of_lt (by omega) (by omega)
  have same : result - least = second - least := by rw [← low, ← high, shifted]
  omega

/-- A number has one cast to a target. -/
theorem unique (positive : 0 < bits) (first : CastsTo kind bits number result)
    (last : CastsTo kind bits number second) : result = second := by
  have congruent : result ≡ second [ZMOD 2 ^ bits] := first.modEq.trans last.modEq.symm
  have double : (2 : Int) ^ bits = 2 ^ (bits - 1) + 2 ^ (bits - 1) := by
    rw [← Int.two_mul, ← Int.pow_succ', Nat.sub_add_cancel positive]
  cases kind with
  | signed =>
    have low := first.holds
    have high := last.holds
    simp only [BaseType.Holds] at low high
    apply eq_of_modEq (-2 ^ (bits - 1)) congruent <;> omega
  | unsigned =>
    have low := first.holds
    have high := last.holds
    simp only [BaseType.Holds] at low high
    apply eq_of_modEq 0 congruent <;> omega
  | float => exact first.holds.elim

/-- Congruence modulo a power of two is kept for a lesser power. -/
theorem modEq_of_le (below : narrow ≤ wide) (congruent : result ≡ number [ZMOD 2 ^ wide]) :
    result ≡ number [ZMOD 2 ^ narrow] :=
  congruent.of_dvd (pow_dvd_pow 2 below)

/-- A cast on the way to a target that is no wider changes nothing. -/
theorem through_iff (below : narrow ≤ wide) (first : CastsTo other wide number middle) :
    CastsTo kind narrow middle result ↔ CastsTo kind narrow number result := by
  have kept : middle ≡ number [ZMOD 2 ^ narrow] := modEq_of_le below first.modEq
  constructor
  · rintro ⟨holds, congruent⟩
    exact ⟨holds, congruent.trans kept⟩
  · rintro ⟨holds, congruent⟩
    exact ⟨holds, congruent.trans kept.symm⟩

/-- Two casts leave the number modulo two to the lesser width. -/
theorem modEq_min (first : CastsTo other wide number middle)
    (last : CastsTo kind narrow middle result) :
    result ≡ number [ZMOD 2 ^ min wide narrow] := by
  have kept : middle ≡ number [ZMOD 2 ^ min wide narrow] :=
    modEq_of_le (Nat.min_le_left _ _) first.modEq
  have left : result ≡ middle [ZMOD 2 ^ min wide narrow] :=
    modEq_of_le (Nat.min_le_right _ _) last.modEq
  exact left.trans kept

/-- A power of two as an integer. -/
theorem cast_two_pow (bits : Nat) : ((2 ^ bits : Nat) : Int) = 2 ^ bits :=
  Nat.cast_pow 2 bits

/-- The signed reading of a number's bits is its signed cast. -/
theorem ofInt_toInt (bits : Nat) (number : Int) :
    CastsTo .signed bits number (BitVec.ofInt bits number).toInt := by
  have low := BitVec.le_toInt (BitVec.ofInt bits number)
  have high := @BitVec.toInt_lt bits (BitVec.ofInt bits number)
  refine ⟨⟨low, high⟩, ?_⟩
  rw [BitVec.toInt_ofInt, Int.ModEq, ← cast_two_pow]
  exact Int.bmod_emod

/-- The unsigned reading of a number's bits is its unsigned cast. -/
theorem ofInt_toNat (bits : Nat) (number : Int) :
    CastsTo .unsigned bits number (BitVec.ofInt bits number).toNat := by
  have below := (BitVec.ofInt bits number).isLt
  have positive : (0 : Int) < 2 ^ bits := Int.pow_pos (by decide)
  have remainder : ((BitVec.ofInt bits number).toNat : Int) = number % 2 ^ bits := by
    rw [BitVec.toNat_ofInt, cast_two_pow]
    exact Int.toNat_of_nonneg (Int.emod_nonneg number (by omega))
  refine ⟨⟨by omega, ?_⟩, ?_⟩
  · rw [← cast_two_pow]
    exact_mod_cast below
  · rw [remainder]
    exact Int.mod_modEq number (2 ^ bits)

end CastsTo

namespace TokenKind

/-- The kind of a token is an integer literal of a number, in a signed word of 64 bits or in an
unsigned one. -/
inductive IsLiteralOf : TokenKind → Int → Prop where
  /-- A decimal literal. -/
  | decimal (word : Int64) : IsLiteralOf (.integer word) word.toInt
  /-- A hexadecimal literal. -/
  | hexadecimal (word : UInt64) : IsLiteralOf (.hex word) word.toNat

/-- An integer literal has its number as its value. -/
theorem IsLiteralOf.integerValue? {kind : TokenKind} {number : Int}
    (literal : kind.IsLiteralOf number) : kind.integerValue? = some number := by
  cases literal <;> rfl

end TokenKind

/-- There is a storage width for one to 64 bits. -/
theorem Width.exists_ofBits? {bits : Nat} (positive : 1 ≤ bits) (fits : bits ≤ 64) :
    ∃ width, ofBits? bits = some width := by
  unfold ofBits?
  split_ifs
  · omega
  all_goals exact ⟨_, rfl⟩

namespace Value

/-- The integer that a value is; none if the value is a floating-point number. -/
def integer? : Value → Option Int
  | signed _ bits => some bits.toInt
  | unsigned _ bits => some bits.toNat
  | float _ _ => none

variable {value : Value} {stored : Int}

/-- The signed casts of a value that is an integer are casts of the integer. -/
theorem castsTo_toSigned (own : value.integer? = some stored) (target : Width) :
    CastsTo .signed target.bits stored (value.toSigned target) := by
  cases value with
  | float precision number => cases own
  | signed width bits | unsigned width bits =>
    obtain rfl := Option.some.inj own
    exact CastsTo.ofInt_toInt target.bits _

/-- The unsigned casts of a value that is an integer are casts of the integer. -/
theorem castsTo_toUnsigned (own : value.integer? = some stored) (target : Width) :
    CastsTo .unsigned target.bits stored (value.toUnsigned target) := by
  cases value with
  | float precision number => cases own
  | signed width bits | unsigned width bits =>
    obtain rfl := Option.some.inj own
    exact CastsTo.ofInt_toNat target.bits _

/-- A literal is stored as a cast of its number to the width for its number of bits. -/
theorem exists_ofToken?_castsTo {kind : BaseType} {bits : Nat} {token : Token} {number : Int}
    (integer : kind ≠ .float) (positive : 1 ≤ bits) (fits : bits ≤ 64)
    (literal : token.kind.IsLiteralOf number) :
    ∃ value stored, ofToken? kind bits token = some value ∧ value.integer? = some stored ∧
      CastsTo kind value.bits number stored := by
  obtain ⟨width, found⟩ := Width.exists_ofBits? positive fits
  cases kind with
  | float => exact absurd rfl integer
  | signed =>
    refine ⟨signed width (BitVec.ofInt width.bits number), _, ?_, rfl,
      CastsTo.ofInt_toInt width.bits number⟩
    rw [ofToken?, literal.integerValue?, found]
  | unsigned =>
    refine ⟨unsigned width (BitVec.ofInt width.bits number), _, ?_, rfl,
      CastsTo.ofInt_toNat width.bits number⟩
    rw [ofToken?, literal.integerValue?, found]

/-- An integer literal is read under every kind of integer and every number of bits from one to 64.
It is stored in the smallest storage width that holds the bits, as the one number that the width
holds and that is congruent to the literal modulo two to the width; whether the literal is made a
signed word of 64 bits before makes no difference. Every integer cast of the value is a cast of the
number stored, and congruent to the literal modulo two to the lesser of both widths. -/
theorem ofToken?_of_integer {kind : BaseType} {bits : Nat} {token : Token} {number : Int}
    (integer : kind ≠ .float) (positive : 1 ≤ bits) (fits : bits ≤ 64)
    (literal : token.kind.IsLiteralOf number) :
    ∃ value stored, ofToken? kind bits token = some value ∧ value.StoredAs kind bits ∧
      value.integer? = some stored ∧
      (∀ other, CastsTo kind value.bits number other ↔ other = stored) ∧
      (∀ word, CastsTo .signed 64 number word → CastsTo kind value.bits word stored) ∧
      ∀ target : Width,
        CastsTo .signed target.bits stored (value.toSigned target) ∧
        CastsTo .unsigned target.bits stored (value.toUnsigned target) ∧
        value.toSigned target ≡ number [ZMOD 2 ^ min value.bits target.bits] ∧
        value.toUnsigned target ≡ number [ZMOD 2 ^ min value.bits target.bits] := by
  obtain ⟨value, stored, read, own, cast⟩ :=
    exists_ofToken?_castsTo integer positive fits literal
  have storage := storedAs_of_ofToken? read
  have wide : bits ≤ value.bits := storage.holds
  have widest : 64 ∈ kind.storageWidths := by cases kind <;> decide
  have narrow : value.bits ≤ 64 := storage.least 64 widest fits
  refine ⟨value, stored, read, storage, own, ?_, ?_, ?_⟩
  · intro other
    constructor
    · intro another
      exact another.unique (by omega) cast
    · rintro rfl
      exact cast
  · intro word through
    exact (CastsTo.through_iff narrow through).mpr cast
  · intro target
    have signed := castsTo_toSigned own target
    have unsigned := castsTo_toUnsigned own target
    exact ⟨signed, unsigned, cast.modEq_min signed, cast.modEq_min unsigned⟩

/-- A hexadecimal literal of 33 bits for a signed component of 24 bits. -/
def overlongWord : Token :=
  ⟨.hex 0x180000085, "0x180000085", 1⟩

/-- The highest bit is lost in the storage of 32 bits, the sign is kept in a word of 64 bits, and a
word of 16 bits has the lowest digits alone. -/
theorem ofToken?_of_integer_overlongWord :
    overlongWord.kind.IsLiteralOf 0x180000085 ∧
    ∃ value, ofToken? .signed 24 overlongWord = some value ∧ value.StoredAs .signed 24 ∧
      CastsTo .signed value.bits 0x180000085 (-0x7fffff7b) ∧
      CastsTo .signed 16 (-0x7fffff7b) (value.toSigned .w16) ∧
      value.toSigned .w64 = -0x7fffff7b ∧ value.toUnsigned .w64 = 0xffffffff80000085 ∧
      value.toUnsigned .w16 = 0x85 := by
  have literal : overlongWord.kind.IsLiteralOf 0x180000085 :=
    TokenKind.IsLiteralOf.hexadecimal 0x180000085
  have made : ofToken? .signed 24 overlongWord = some (.signed .w32 0x80000085#32) := by decide
  obtain ⟨value, stored, read, storage, own, only, -, casts⟩ :=
    ofToken?_of_integer (by decide : BaseType.signed ≠ .float) (by decide : 1 ≤ 24) (by decide)
      literal
  obtain rfl := Option.some.inj (made.symm.trans read)
  obtain rfl := Option.some.inj own
  refine ⟨literal, _, read, storage, (only _).mpr (by decide), (casts .w16).1, ?_⟩
  decide

end Value

end GpuScript
