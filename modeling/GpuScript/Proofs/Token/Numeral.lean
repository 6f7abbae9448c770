import GpuScript.Decimal.Shortest
import GpuScript.Proofs.Text.Lines
import GpuScript.Proofs.Text.Numeral
import GpuScript.Token.Basic
import Mathlib.Algebra.Group.Nat.Defs
import Mathlib.Algebra.Ring.Int.Defs
import Mathlib.Data.List.TakeWhile
import Mathlib.Tactic.ByContra

/-!
# Numerals as tokens

Digits with a minus sign or without one, and with a point between them or without one, are read as
a decimal numeral. Positional notation is such a text, and stands for the digits times the power of
ten that was written (`Decimal.parse?_positional`). As a token it is an integer as long as it has
no point and fits 64 bits, but that makes no difference to the floating-point number it stands for
(`TokenKind.decimalDouble?_ofDecimalWord`).
-/

namespace GpuScript

open Text

/-- A word, with a minus sign in front of it for a negative number. -/
def signed (negative : Bool) (word : List Char) : List Char :=
  if negative then '-' :: word else word

namespace Text

/-- The sign is split off a word that opens with a digit. -/
theorem splitSign_signed {first : Char} (digit : isDigit first = true) (negative : Bool)
    (rest : List Char) :
    splitSign (signed negative (first :: rest)) = (negative, first :: rest) := by
  cases negative with
  | true => rfl
  | false => exact splitSign_of_isDigit digit rest

/-- Digits write the natural number of positional notation. -/
theorem natural?_eq_ofDigitChars {digits : List Char} (some_ : digits ≠ [])
    (all : ∀ digit ∈ digits, isDigit digit = true) :
    natural? 10 digits = some (Nat.ofDigitChars 10 digits 0) := by
  rw [natural?]
  · exact continueNatural?_eq_ofDigitChars all 0
  · exact some_

/-- A text that writes a natural number is made of digits. -/
theorem digits_of_natural? {text : List Char} {value : Nat}
    (written : natural? 10 text = some value) :
    text ≠ [] ∧ ∀ character ∈ text, isDigit character = true := by
  constructor
  · rintro rfl
    cases written
  · intro character listed
    by_contra other
    have refused := natural?_of_not_isDigit listed (Bool.eq_false_iff.mpr other)
    rw [refused] at written
    cases written

/-- A signed word of digits is an integer. -/
theorem integer?_signed {digits : List Char} {value : Nat}
    (written : natural? 10 digits = some value) (negative : Bool) :
    integer? (signed negative digits) =
      some (if negative then -(value : Int) else value) := by
  obtain ⟨nonempty, all⟩ := digits_of_natural? written
  obtain ⟨first, rest, rfl⟩ := List.exists_cons_of_ne_nil nonempty
  have digit := all first List.mem_cons_self
  simp only [integer?, splitSign_signed digit, written]
  rfl

end Text

namespace Decimal

/-- The parts of a numeral in front of what is no part of them. -/
theorem splitPoint_append {whole fraction mantissa rest : List Char}
    (digits : ∀ digit ∈ whole ++ fraction, isDigit digit = true)
    (shape : (mantissa = whole ∧ fraction = []) ∨ mantissa = whole ++ '.' :: fraction)
    (other : ∀ first ∈ rest.head?, isDigit first = false ∧ first ≠ '.') :
    splitPoint (mantissa ++ rest) = (whole, fraction, rest) := by
  obtain ⟨before, after⟩ := List.forall_mem_append.mp digits
  have stops : ∀ first ∈ rest.head?, isDigit first = false :=
    fun first opens => (other first opens).1
  rcases shape with ⟨rfl, rfl⟩ | rfl
  · obtain ⟨taken, left⟩ := span_append before stops
    rw [splitPoint, taken, left]
    cases rest with
    | nil => rfl
    | cons first rest =>
      have point : first ≠ '.' := (other first rfl).2
      split
      · rename_i same
        exact absurd (List.cons.inj same).1 point
      · rfl
  · have point : ∀ first ∈ ('.' :: (fraction ++ rest)).head?, isDigit first = false := by
      rintro _ ⟨⟩
      decide
    obtain ⟨taken, left⟩ := span_append before point
    obtain ⟨fractionTaken, fractionLeft⟩ := span_append after stops
    rw [List.append_assoc, List.cons_append, splitPoint, taken, left]
    simp only [fractionTaken, fractionLeft]

/-- Digits alone have no fraction. -/
theorem splitPoint_of_isDigit {digits : List Char}
    (all : ∀ digit ∈ digits, isDigit digit = true) : splitPoint digits = (digits, [], []) := by
  have alone : splitPoint (digits ++ []) = (digits, [], []) :=
    splitPoint_append (by rwa [List.append_nil]) (.inl ⟨rfl, rfl⟩) (by simp)
  rwa [List.append_nil] at alone

/-- A signed word of digits is a decimal numeral. -/
theorem parse?_signed {digits : List Char} {value : Nat}
    (written : natural? 10 digits = some value) (negative : Bool) :
    parse? (signed negative digits) = some ⟨negative, value, 0⟩ := by
  obtain ⟨nonempty, all⟩ := digits_of_natural? written
  obtain ⟨first, rest, rfl⟩ := List.exists_cons_of_ne_nil nonempty
  have digit := all first List.mem_cons_self
  simp only [parse?, splitSign_signed digit, splitPoint_of_isDigit all, List.append_nil, written]
  rfl

/-- A signed word of digits with a point after one of them is a decimal numeral. -/
theorem parse?_signed_point {whole fraction : List Char} (nonempty : whole ≠ [])
    (before : ∀ digit ∈ whole, isDigit digit = true)
    (after : ∀ digit ∈ fraction, isDigit digit = true) (negative : Bool) :
    parse? (signed negative (whole ++ '.' :: fraction)) =
      some ⟨negative, Nat.ofDigitChars 10 (whole ++ fraction) 0, -(fraction.length : Int)⟩ := by
  obtain ⟨first, rest, rfl⟩ := List.exists_cons_of_ne_nil nonempty
  have digit := before first List.mem_cons_self
  have digits := List.forall_mem_append.mpr ⟨before, after⟩
  have written :=
    natural?_eq_ofDigitChars (List.append_ne_nil_of_left_ne_nil nonempty fraction) digits
  have sign := splitSign_signed digit negative (rest ++ '.' :: fraction)
  have parts : splitPoint (first :: rest ++ '.' :: fraction ++ []) =
      (first :: rest, fraction, []) := splitPoint_append digits (.inr rfl) (by simp)
  rw [List.append_nil, List.cons_append] at parts
  rw [List.cons_append]
  simp only [parse?, sign, parts, written, exponentPart?]
  rw [Int.zero_sub]

/-- A word that is an integer is a decimal numeral without a fraction. -/
theorem parse?_of_integer? {word : List Char} {value : Int} (written : integer? word = some value) :
    ∃ (negative : Bool) (magnitude : Nat),
      value = (if negative then -(magnitude : Int) else magnitude) ∧
      parse? word = some ⟨negative, magnitude, 0⟩ := by
  rw [integer?] at written
  generalize parts : splitSign word = sign at written
  obtain ⟨negative, digits⟩ := sign
  cases natural : natural? 10 digits with
  | none =>
    simp only [natural] at written
    cases written
  | some magnitude =>
    simp only [natural] at written
    have all := (digits_of_natural? natural).2
    refine ⟨negative, magnitude, (Option.some.inj written).symm, ?_⟩
    simp only [parse?, parts, splitPoint_of_isDigit all, List.append_nil, natural]
    rfl

section Positional

variable (negative : Bool) (steps : Nat)

/-- Zeros are digits. -/
theorem isDigit_of_mem_zeros {count : Nat} {digit : Char}
    (listed : digit ∈ List.replicate count '0') : isDigit digit = true := by
  rw [(List.mem_replicate.mp listed).2]
  decide

/-- Digits with zeros behind them are read as a multiple of a power of ten. -/
theorem parse?_zeros (count : Nat) :
    parse? (signed negative (decimalDigits steps ++ List.replicate count '0')) =
      some ⟨negative, steps * 10 ^ count, 0⟩ := by
  have all : ∀ digit ∈ decimalDigits steps ++ List.replicate count '0', isDigit digit = true :=
    List.forall_mem_append.mpr
      ⟨fun _ => isDigit_of_mem_decimalDigits, fun _ => isDigit_of_mem_zeros⟩
  have some_ : decimalDigits steps ++ List.replicate count '0' ≠ [] :=
    List.append_ne_nil_of_left_ne_nil Nat.toDigits_ne_nil _
  have value : Nat.ofDigitChars 10 (decimalDigits steps) 0 = steps :=
    Nat.ofDigitChars_ten_toDigits
  refine parse?_signed ?_ negative
  rw [natural?_eq_ofDigitChars some_ all, Nat.ofDigitChars_append, value,
    Nat.ofDigitChars_replicate_zero, Nat.mul_comm]

/-- Digits with a point behind some of them are read as a multiple of a power of ten. -/
theorem parse?_inner_point {count : Nat} (some_ : 0 < count) :
    parse? (signed negative ((decimalDigits steps).take count ++
        '.' :: (decimalDigits steps).drop count)) =
      some ⟨negative, steps, -(((decimalDigits steps).drop count).length : Int)⟩ := by
  have digits : decimalDigits steps ≠ [] := Nat.toDigits_ne_nil
  have all : ∀ digit ∈ decimalDigits steps, isDigit digit = true :=
    fun _ => isDigit_of_mem_decimalDigits
  have nonempty : (decimalDigits steps).take count ≠ [] := by
    rw [ne_eq, List.take_eq_nil_iff, not_or]
    exact ⟨by omega, digits⟩
  have value : Nat.ofDigitChars 10 (decimalDigits steps) 0 = steps :=
    Nat.ofDigitChars_ten_toDigits
  rw [parse?_signed_point nonempty (fun _ listed => all _ (List.mem_of_mem_take listed))
    (fun _ listed => all _ (List.mem_of_mem_drop listed)), List.take_append_drop, value]

/-- Digits behind a point and zeros are read as a multiple of a power of ten. -/
theorem parse?_leading_point (count : Nat) :
    parse? (signed negative ('0' :: '.' :: (List.replicate count '0' ++ decimalDigits steps))) =
      some ⟨negative, steps,
        -((List.replicate count '0' ++ decimalDigits steps).length : Int)⟩ := by
  have all : ∀ digit ∈ List.replicate count '0' ++ decimalDigits steps, isDigit digit = true :=
    List.forall_mem_append.mpr
      ⟨fun _ => isDigit_of_mem_zeros, fun _ => isDigit_of_mem_decimalDigits⟩
  have value :
      Nat.ofDigitChars 10 (['0'] ++ (List.replicate count '0' ++ decimalDigits steps)) 0 =
        steps := by
    rw [Nat.ofDigitChars_append, Nat.ofDigitChars_append, Nat.ofDigitChars_replicate_zero]
    exact Nat.ofDigitChars_ten_toDigits
  have zero : ∀ digit ∈ ['0'], isDigit digit = true := List.forall_mem_singleton.mpr rfl
  have read := parse?_signed_point (List.cons_ne_nil _ _) zero all negative
  rw [value] at read
  exact read

/-- Positional notation is read as the digits times the power of ten. -/
theorem parse?_positional (place : Int) :
    parse? (signed negative (Binary.positional (decimalDigits steps) place)) =
      some (if 0 ≤ place then ⟨negative, steps * 10 ^ place.toNat, 0⟩
        else ⟨negative, steps, place⟩) := by
  by_cases whole : 0 ≤ place
  · rw [Binary.positional, if_pos whole, if_pos whole]
    exact parse?_zeros negative steps place.toNat
  · rw [Binary.positional, if_neg whole, if_neg whole]
    by_cases inner : (-place).toNat < (decimalDigits steps).length
    · have length : -(((decimalDigits steps).drop
          ((decimalDigits steps).length - (-place).toNat)).length : Int) = place := by
        rw [List.length_drop]
        omega
      simp only [if_pos inner]
      rw [parse?_inner_point negative steps (by omega), length]
    · have length : -((List.replicate ((-place).toNat - (decimalDigits steps).length) '0' ++
          decimalDigits steps).length : Int) = place := by
        rw [List.length_append, List.length_replicate]
        omega
      simp only [if_neg inner]
      rw [parse?_leading_point, length]

end Positional

end Decimal

namespace Binary

/-- Positional notation is written with the digits, zeros and a point. -/
theorem mem_positional {digits : List Char} {place : Int} {character : Char}
    (listed : character ∈ positional digits place) :
    character ∈ digits ∨ character = '0' ∨ character = '.' := by
  have zeros {count : Nat} (listed : character ∈ List.replicate count '0') : character = '0' :=
    (List.mem_replicate.mp listed).2
  unfold positional at listed
  simp only at listed
  split at listed
  · rcases List.mem_append.mp listed with own | added
    · exact .inl own
    · exact .inr (.inl (zeros added))
  · split at listed
    · rcases List.mem_append.mp listed with whole | listed
      · exact .inl (List.mem_of_mem_take whole)
      · rcases List.mem_cons.mp listed with point | fraction
        · exact .inr (.inr point)
        · exact .inl (List.mem_of_mem_drop fraction)
    · rcases List.mem_cons.mp listed with zero | listed
      · exact .inr (.inl zero)
      · rcases List.mem_cons.mp listed with point | listed
        · exact .inr (.inr point)
        · rcases List.mem_append.mp listed with added | own
          · exact .inr (.inl (zeros added))
          · exact .inl own

/-- Positional notation opens with a digit. -/
theorem exists_positional_cons {digits : List Char} (nonempty : digits ≠ [])
    (all : ∀ digit ∈ digits, isDigit digit = true) (place : Int) :
    ∃ first rest, positional digits place = first :: rest ∧ isDigit first = true := by
  obtain ⟨first, rest, rfl⟩ := List.exists_cons_of_ne_nil nonempty
  have digit := all first List.mem_cons_self
  by_cases whole : 0 ≤ place
  · exact ⟨first, _, if_pos whole, digit⟩
  · rw [positional, if_neg whole]
    by_cases inner : (-place).toNat < (first :: rest).length
    · obtain ⟨count, split⟩ : ∃ count, (first :: rest).length - (-place).toNat = count + 1 :=
        ⟨(first :: rest).length - (-place).toNat - 1, by omega⟩
      simp only [if_pos inner, split]
      exact ⟨first, _, rfl, digit⟩
    · simp only [if_neg inner]
      exact ⟨'0', _, rfl, by decide⟩

/-- The characters of the text of a finite number. -/
theorem toList_text {precision : Precision} (negative : Bool) (rank : Fin precision.finiteCount) :
    (finite negative rank).text.toList = signed negative (magnitudeDigits .up precision rank) := by
  rw [text, String.toList_append, String.toList_ofList]
  cases negative <;> rfl

/-- A number is written without the letter that `ortho` and `patch` have. -/
theorem not_mem_text {precision : Precision} (number : Binary precision) :
    'h' ∉ number.text.toList := by
  cases number with
  | infinite negative =>
    cases negative with
    | true => exact (by decide : 'h' ∉ "-inf".toList)
    | false => exact (by decide : 'h' ∉ "inf".toList)
  | nan => exact (by decide : 'h' ∉ "NaN".toList)
  | finite negative rank =>
    have digits : 'h' ∉ magnitudeDigits .up precision rank := by
      intro listed
      unfold magnitudeDigits at listed
      split at listed
      · exact absurd listed (by decide)
      · rcases mem_positional listed with own | zero | point
        · exact absurd (isDigit_of_mem_decimalDigits own) (by decide)
        · exact absurd zero (by decide)
        · exact absurd point (by decide)
    rw [toList_text]
    cases negative with
    | false => exact digits
    | true =>
      intro listed
      rcases List.mem_cons.mp listed with sign | own
      · exact absurd sign (by decide)
      · exact digits own

end Binary

/-- No mark of a hexadecimal number stands among digits. -/
theorem ne_mark_of_isDigit {character : Char} (digit : isDigit character = true) :
    character ≠ 'x' ∧ character ≠ 'X' := by
  constructor <;> rintro rfl <;> exact absurd digit (by decide)

namespace TokenKind

/-- A signed word that opens with a digit is read as a decimal word. -/
theorem ofWord_signed {first : Char} {rest : List Char} (digit : isDigit first = true)
    (mark : ∀ second after, rest = second :: after → second ≠ 'x' ∧ second ≠ 'X')
    (negative : Bool) :
    ofWord (signed negative (first :: rest)) = ofDecimalWord (signed negative (first :: rest)) := by
  have decimal : hexDigits? (signed negative (first :: rest)) = none := by
    cases negative with
    | true => rfl
    | false =>
      change hexDigits? (first :: rest) = none
      unfold hexDigits?
      split
      · rename_i second after same
        have other := mark second after (List.cons.inj same).2
        simp [other]
      · rfl
  have numeric : looksNumeric (signed negative (first :: rest)) = true := by
    cases negative with
    | true =>
      change looksNumeric ('-' :: first :: rest) = true
      have sign : isDigit '-' = false := by decide
      simp [looksNumeric, sign, digit]
    | false =>
      change looksNumeric (first :: rest) = true
      simp only [looksNumeric, digit, ↓reduceIte]
  rw [ofWord, decimal]
  exact if_pos numeric

/-- A word that opens with a digit is read as a decimal word. -/
theorem ofWord_of_isDigit {first : Char} {rest : List Char} (digit : isDigit first = true)
    (mark : ∀ second after, rest = second :: after → second ≠ 'x' ∧ second ≠ 'X') :
    ofWord (first :: rest) = ofDecimalWord (first :: rest) :=
  ofWord_signed digit mark false

/-- A signed word of digits is read as a decimal word. -/
theorem ofWord_signed_of_natural? {digits : List Char} {value : Nat}
    (written : natural? 10 digits = some value) (negative : Bool) :
    ofWord (signed negative digits) = ofDecimalWord (signed negative digits) := by
  obtain ⟨nonempty, all⟩ := digits_of_natural? written
  obtain ⟨first, rest, rfl⟩ := List.exists_cons_of_ne_nil nonempty
  obtain ⟨digit, others⟩ := List.forall_mem_cons.mp all
  refine ofWord_signed digit ?_ negative
  rintro second after rfl
  exact ne_mark_of_isDigit (others second List.mem_cons_self)

/-- A signed word of positional notation is read as a decimal word. -/
theorem ofWord_signed_positional (negative : Bool) (steps : Nat) (place : Int) :
    ofWord (signed negative (Binary.positional (decimalDigits steps) place)) =
      ofDecimalWord (signed negative (Binary.positional (decimalDigits steps) place)) := by
  have all : ∀ digit ∈ decimalDigits steps, isDigit digit = true :=
    fun _ => isDigit_of_mem_decimalDigits
  have some_ : decimalDigits steps ≠ [] := Nat.toDigits_ne_nil
  obtain ⟨first, rest, split, digit⟩ := Binary.exists_positional_cons some_ all place
  have plain : ∀ character ∈ rest, character ≠ 'x' ∧ character ≠ 'X' := by
    intro character listed
    have among : character ∈ Binary.positional (decimalDigits steps) place :=
      split ▸ List.mem_cons_of_mem first listed
    rcases Binary.mem_positional among with own | rfl | rfl
    · exact ne_mark_of_isDigit (all character own)
    · decide
    · decide
  rw [split]
  refine ofWord_signed digit ?_ negative
  rintro second after rfl
  exact plain second List.mem_cons_self

/-- An integer that fits 64 bits. -/
def Fits (value : Int) : Prop :=
  Int64.minValue.toInt ≤ value ∧ value ≤ Int64.maxValue.toInt

/-- An integer fits 64 bits by its bounds. -/
theorem fits_iff (value : Int) : Fits value ↔ -2 ^ 63 ≤ value ∧ value < 2 ^ 63 := by
  have least : Int64.minValue.toInt = -2 ^ 63 := by decide
  have most : Int64.maxValue.toInt = 2 ^ 63 - 1 := by decide
  rw [Fits, least, most]
  omega

/-- A word of an integer that fits is that integer. -/
theorem ofDecimalWord_of_fits {word : List Char} {value : Int}
    (written : integer? word = some value) (fits : Fits value) :
    ofDecimalWord word = .integer (Int64.ofInt value) := by
  have bounds : Int64.minValue.toInt ≤ value ∧ value ≤ Int64.maxValue.toInt := fits
  rw [ofDecimalWord, written, Option.filter, if_pos (decide_eq_true bounds)]

/-- A word of a decimal numeral that is no integer that fits is the nearest number. -/
theorem ofDecimalWord_of_not_fits {word : List Char} {decimal : Decimal}
    (beyond : ∀ value, integer? word = some value → ¬ Fits value)
    (parsed : Decimal.parse? word = some decimal) :
    ofDecimalWord word = .double (decimal.round .double) := by
  have none_ : (integer? word).filter (fun value =>
      Int64.minValue.toInt ≤ value ∧ value ≤ Int64.maxValue.toInt) = none := by
    cases written : integer? word with
    | none => rfl
    | some value =>
      have outside : ¬ (Int64.minValue.toInt ≤ value ∧ value ≤ Int64.maxValue.toInt) :=
        beyond value written
      rw [Option.filter, decide_eq_false outside]
      rfl
  rw [ofDecimalWord, none_, parsed]

/-- A word of an integer that fits has its value. -/
theorem integerValue?_ofDecimalWord {word : List Char} {value : Int}
    (written : integer? word = some value) (fits : Fits value) :
    (ofDecimalWord word).integerValue? = some value := by
  obtain ⟨low, high⟩ := (fits_iff value).mp fits
  rw [ofDecimalWord_of_fits written fits, integerValue?, Int64.toInt_ofInt_of_le low high]

/-- The text of an integer is a signed word of digits. -/
theorem toList_integerText (value : Int) :
    (integerText value).toList = signed (decide (value < 0)) (decimalDigits value.natAbs) := by
  by_cases negative : value < 0
  · rw [integerText, if_pos negative, decide_eq_true negative, String.toList_append, decimalText]
    exact congrArg (['-'] ++ ·) String.toList_ofList
  · rw [integerText, if_neg negative, decide_eq_false negative, decimalText, String.toList_ofList]
    rfl

/-- The text of an integer writes the integer. -/
theorem integer?_integerText (value : Int) : integer? (integerText value).toList = some value := by
  rw [toList_integerText, integer?_signed (natural?_decimalDigits value.natAbs)]
  by_cases negative : value < 0
  · rw [if_pos (decide_eq_true negative)]
    exact congrArg some (by omega)
  · rw [if_neg (by simpa using negative)]
    exact congrArg some (by omega)

/-- The text of an integer that fits is read as the integer, and that of any other one as no
integer. -/
theorem integerValue?_integerText (value : Int) :
    (Fits value → (ofWord (integerText value).toList).integerValue? = some value) ∧
      (¬ Fits value → (ofWord (integerText value).toList).integerValue? = none) := by
  have digits := natural?_decimalDigits value.natAbs
  have written := integer?_integerText value
  have word : ofWord (integerText value).toList = ofDecimalWord (integerText value).toList := by
    rw [toList_integerText]
    exact ofWord_signed_of_natural? digits _
  rw [word]
  constructor
  · exact integerValue?_ofDecimalWord written
  · intro beyond
    have parsed := Decimal.parse?_signed digits (decide (value < 0))
    rw [← toList_integerText] at parsed
    have other : ∀ found, integer? (integerText value).toList = some found → ¬ Fits found := by
      intro found same
      obtain rfl := Option.some.inj (written.symm.trans same)
      exact beyond
    rw [ofDecimalWord_of_not_fits other parsed]
    rfl

/-- An integer rounds to the same number as the decimal numeral without a fraction. -/
theorem round_eq_ofInt {value : Nat} (some_ : value ≠ 0) (short : value ≤ 2 ^ 63)
    (negative : Bool) :
    Decimal.round .double ⟨negative, value, 0⟩ =
      Binary.ofInt (if negative then -(value : Int) else value) := by
  have order : ¬ (value = 0 ∨
      (0 : Int) + ((decimalDigits value).length : Int) < -Decimal.exponentLimit) := by
    have limit : Decimal.exponentLimit = 400 := rfl
    omega
  have length : (decimalDigits value).length ≤ 20 :=
    (Nat.length_toDigits_le_iff (by decide) (by decide)).mpr (by omega)
  have inner : ¬ Decimal.exponentLimit < (0 : Int) + ((decimalDigits value).length : Int) := by
    have limit : Decimal.exponentLimit = 400 := rfl
    omega
  have sign : decide ((if negative then -(value : Int) else value) < 0) = negative := by
    cases negative with
    | true => simp; omega
    | false => simp
  have magnitude : (if negative then -(value : Int) else value).natAbs = value := by
    cases negative with
    | true => simp
    | false => simp
  rw [Decimal.round]
  simp only [if_neg order, if_neg inner]
  rw [if_pos (Int.le_refl 0), Binary.ofInt, sign, magnitude, Int.toNat_zero]
  change Binary.round .double negative (value * 1) 1 = _
  rw [Nat.mul_one]

/-- A decimal word stands for the number nearest to its decimal numeral, also if it is an
integer. -/
theorem decimalDouble?_ofDecimalWord {word : List Char} {decimal : Decimal}
    (parsed : Decimal.parse? word = some decimal) (some_ : decimal.coefficient ≠ 0) :
    (ofDecimalWord word).decimalDouble? = some (decimal.round .double) := by
  by_cases whole : ∃ value, integer? word = some value ∧ Fits value
  · obtain ⟨value, written, fits⟩ := whole
    obtain ⟨negative, magnitude, rfl, numeral⟩ := Decimal.parse?_of_integer? written
    obtain rfl := Option.some.inj (parsed.symm.trans numeral)
    obtain ⟨low, high⟩ := (fits_iff _).mp fits
    have short : magnitude ≤ 2 ^ 63 := by
      cases negative with
      | true => simp at low; omega
      | false => simp at high; omega
    rw [ofDecimalWord_of_fits written fits, decimalDouble?, Int64.toInt_ofInt_of_le low high]
    exact congrArg some (round_eq_ofInt some_ short negative).symm
  · have beyond : ∀ value, integer? word = some value → ¬ Fits value :=
      fun value written fits => whole ⟨value, written, fits⟩
    rw [ofDecimalWord_of_not_fits beyond parsed]
    rfl

end TokenKind

end GpuScript
