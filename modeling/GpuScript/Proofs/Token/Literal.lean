import GpuScript.Proofs.Result
import GpuScript.Proofs.Token.Numeral
import GpuScript.Proofs.Token.Words
import Mathlib.Data.Nat.Digits.Defs
import Mathlib.Tactic.Ring

/-!
# Literals

The grammars of the three kinds of numbers that a script can write, in the notation of the
documents: hexadecimal words, decimal integers, and decimal numbers with a point or an exponent. A
word is classified by the first of these grammars that it satisfies within the range of its kind,
and is no number otherwise (`Cursor.classified_of_mem_tokens`).

The classification first looks at no more than three characters of a word, so the point is that
nothing which the grammars allow is turned away there, and that what is let through is judged by
the grammars alone: the names of the infinities never are numbers.
-/

namespace GpuScript

open Text

/-- A character is a digit of a base and has a value: a decimal digit, or a letter in either case
for a value from ten on. -/
def IsDigitOf (base : Nat) (character : Char) (digit : Nat) : Prop :=
  digit < base ∧
    ((digit < 10 ∧ character.toNat = '0'.toNat + digit) ∨
      (10 ≤ digit ∧ digit < 16 ∧ character.toNat = 'a'.toNat + (digit - 10)) ∨
      (10 ≤ digit ∧ digit < 16 ∧ character.toNat = 'A'.toNat + (digit - 10)))

/-- One digit or more denote the number of positional notation. -/
structure Denotes (base : Nat) (text : List Char) (value : Nat) : Prop where
  /-- There is a digit. -/
  nonempty : text ≠ []
  /-- Every character is a digit, and the last one counts once. -/
  digits : ∃ digits, List.Forall₂ (IsDigitOf base) text digits ∧
    value = Nat.ofDigits base digits.reverse

/-- A sign or none; `true` stands for minus. -/
def IsSign (sign : List Char) (negative : Bool) : Prop :=
  (sign = [] ∧ negative = false) ∨ (sign = ['+'] ∧ negative = false) ∨
    (sign = ['-'] ∧ negative = true)

/-- A hexadecimal literal: `0x` or `0X` and one hexadecimal digit or more. -/
def IsHexLiteral (word : List Char) (value : Nat) : Prop :=
  ∃ mark digits, (mark = 'x' ∨ mark = 'X') ∧ word = '0' :: mark :: digits ∧
    Denotes 16 digits value

/-- An integer literal: a sign or none, and one decimal digit or more. -/
def IsIntegerLiteral (word : List Char) (value : Int) : Prop :=
  ∃ sign negative digits magnitude, IsSign sign negative ∧ word = sign ++ digits ∧
    Denotes 10 digits magnitude ∧ value = if negative then -(magnitude : Int) else magnitude

/-- Decimal digits with at most one point among or beside them, and at least one digit. -/
structure IsMantissa (text : List Char) : Prop where
  /-- There is nothing but digits and points. -/
  characters : ∀ character ∈ text, character.isDigit = true ∨ character = '.'
  /-- There is at most one point. -/
  point : text.count '.' ≤ 1
  /-- There is a digit. -/
  digit : ∃ character ∈ text, character.isDigit = true

/-- An exponent: `e` or `E`, a sign or none, and one decimal digit or more. -/
def IsExponent (text : List Char) : Prop :=
  ∃ mark rest value, (mark = 'e' ∨ mark = 'E') ∧ text = mark :: rest ∧ IsIntegerLiteral rest value

/-- A decimal literal: a sign or none, digits with at most one point, and an exponent or none. -/
def IsDecimalLiteral (word : List Char) : Prop :=
  ∃ sign negative mantissa exponent, IsSign sign negative ∧ IsMantissa mantissa ∧
    (exponent = [] ∨ IsExponent exponent) ∧ word = sign ++ (mantissa ++ exponent)

namespace Text

/-- The digits of a base are those with a value below it. -/
theorem digitValue?_eq_some_iff {base : Nat} {character : Char} {digit : Nat} :
    digitValue? base character = some digit ↔ IsDigitOf base character digit := by
  have zero : '0'.toNat = 48 := rfl
  have lower : 'a'.toNat = 97 := rfl
  have upper : 'A'.toNat = 65 := rfl
  unfold digitValue? IsDigitOf
  rw [zero, lower, upper]
  simp only
  split <;> [skip; split <;> [skip; split]] <;>
    · rw [Option.ite_none_right_eq_some]
      simp only [Option.some.injEq]
      omega

/-- Digits continue a number as they do in positional notation. -/
theorem continueNatural?_eq_some_iff {base : Nat} {text : List Char}
    {start value : Nat} :
    continueNatural? base start text = some value ↔
      ∃ digits, List.Forall₂ (IsDigitOf base) text digits ∧
        value = start * base ^ text.length + Nat.ofDigits base digits.reverse := by
  induction text generalizing start with
  | nil => simp [continueNatural?, @eq_comm _ value]
  | cons character rest ih =>
    rw [continueNatural?]
    constructor
    · intro read
      cases own : digitValue? base character with
      | none => simp [own] at read
      | some digit =>
        rw [own] at read
        obtain ⟨digits, each, rfl⟩ := ih.mp read
        refine ⟨digit :: digits, .cons (digitValue?_eq_some_iff.mp own) each, ?_⟩
        have length := each.length_eq
        rw [List.reverse_cons, Nat.ofDigits_append, Nat.ofDigits_singleton, List.length_reverse,
          List.length_cons, length]
        ring
    · rintro ⟨digits, each, rfl⟩
      cases each with
      | @cons _ digit _ digits own each =>
        have length := each.length_eq
        rw [digitValue?_eq_some_iff.mpr own]
        refine ih.mpr ⟨digits, each, ?_⟩
        rw [List.reverse_cons, Nat.ofDigits_append, Nat.ofDigits_singleton, List.length_reverse,
          List.length_cons, length]
        ring

/-- A run of digits writes the number that it denotes, and nothing else writes one. -/
theorem natural?_eq_some_iff {base : Nat} {text : List Char} {value : Nat} :
    natural? base text = some value ↔ Denotes base text value := by
  cases text with
  | nil =>
    constructor
    · intro read
      cases read
    · intro denotes
      exact absurd rfl denotes.nonempty
  | cons first rest =>
    rw [natural?, continueNatural?_eq_some_iff]
    · simp only [Nat.zero_mul, Nat.zero_add]
      exact ⟨fun digits => ⟨List.cons_ne_nil first rest, digits⟩, Denotes.digits⟩
    · exact List.cons_ne_nil first rest

/-- What a run of digits denotes consists of digits. -/
theorem isDigit_of_denotes {text : List Char} {value : Nat} (denotes : Denotes 10 text value) :
    ∀ character ∈ text, isDigit character = true := by
  obtain ⟨digits, each, _⟩ := denotes.digits
  intro character listed
  obtain ⟨digit, _, own⟩ := exists_of_mem_right each.flip listed
  rw [isDigit, digitValue?_eq_some_iff.mpr own]
  rfl

/-- A sign is split off a text that does not open with one. -/
theorem splitSign_eq {sign text : List Char} {negative : Bool} (signed : IsSign sign negative)
    (plain : ∀ first ∈ text.head?, first ≠ '+' ∧ first ≠ '-') :
    splitSign (sign ++ text) = (negative, text) := by
  rcases signed with ⟨rfl, rfl⟩ | ⟨rfl, rfl⟩ | ⟨rfl, rfl⟩
  · cases text with
    | nil => rfl
    | cons first rest =>
      obtain ⟨noPlus, noMinus⟩ := plain first rfl
      rw [List.nil_append, splitSign]
      · rintro after same
        exact noMinus (List.cons.inj same).1
      · rintro after same
        exact noPlus (List.cons.inj same).1
  · rfl
  · rfl

/-- What is split off in front of a text is a sign. -/
theorem exists_isSign (text : List Char) :
    ∃ sign, IsSign sign (splitSign text).1 ∧ text = sign ++ (splitSign text).2 := by
  unfold splitSign
  split
  · exact ⟨['-'], .inr (.inr ⟨rfl, rfl⟩), rfl⟩
  · exact ⟨['+'], .inr (.inl ⟨rfl, rfl⟩), rfl⟩
  · exact ⟨[], .inl ⟨rfl, rfl⟩, rfl⟩

/-- A word writes the integer of its literal, and nothing else writes one. -/
theorem integer?_eq_some_iff {word : List Char} {value : Int} :
    integer? word = some value ↔ IsIntegerLiteral word value := by
  constructor
  · intro read
    obtain ⟨sign, signed, split⟩ := exists_isSign word
    cases written : natural? 10 (splitSign word).2 with
    | none => simp [integer?, written] at read
    | some magnitude =>
      simp only [integer?, written] at read
      exact ⟨sign, _, _, magnitude, signed, split, natural?_eq_some_iff.mp written,
        (Option.some.inj read).symm⟩
  · rintro ⟨sign, negative, digits, magnitude, signed, rfl, denotes, rfl⟩
    have plain : ∀ first ∈ digits.head?, first ≠ '+' ∧ first ≠ '-' := fun first opens =>
      ne_sign_of_isDigit (isDigit_of_denotes denotes first (List.mem_of_mem_head? opens))
    simp only [integer?, splitSign_eq signed plain, natural?_eq_some_iff.mpr denotes]
    rfl

end Text

namespace Decimal

/-- An exponent is read where one is written, or nothing is. -/
theorem isSome_exponentPart? (text : List Char) :
    (exponentPart? text).isSome = true ↔ text = [] ∨ IsExponent text := by
  cases text with
  | nil => simp [exponentPart?]
  | cons mark rest =>
    rw [exponentPart?, Option.isSome_iff_exists]
    constructor
    · rintro ⟨value, read⟩
      obtain ⟨marks, read⟩ := Option.ite_none_right_eq_some.mp read
      exact .inr ⟨mark, rest, value, marks, rfl, integer?_eq_some_iff.mp read⟩
    · rintro (empty | ⟨_, _, value, marks, same, literal⟩)
      · cases empty
      · obtain ⟨rfl, rfl⟩ := List.cons.inj same
        exact ⟨value, Option.ite_none_right_eq_some.mpr
          ⟨marks, integer?_eq_some_iff.mpr literal⟩⟩

end Decimal

/-- The decimal digits of scripts are those of the standard library. -/
theorem isDigit_eq (character : Char) : character.isDigit = isDigit character := by
  have zero : '0'.val.toNat = 48 := rfl
  have nine : '9'.val.toNat = 57 := rfl
  rw [Bool.eq_iff_iff, isDigit_iff]
  simp only [Char.isDigit, Bool.and_eq_true, decide_eq_true_eq, ge_iff_le, UInt32.le_iff_toNat_le,
    zero, nine]
  rfl

/-- The characters around a point are those before it and those behind it. -/
theorem mem_around_point {character : Char} {whole fraction : List Char} :
    character ∈ whole ++ '.' :: fraction ↔ character = '.' ∨ character ∈ whole ++ fraction := by
  rw [List.mem_append, List.mem_cons, List.mem_append, or_left_comm]

/-- Without a point a mantissa is digits, and at least one. -/
theorem isMantissa_of_noPoint {text : List Char} (plain : '.' ∉ text) :
    IsMantissa text ↔ (∀ digit ∈ text, isDigit digit = true) ∧ text ≠ [] := by
  constructor
  · rintro ⟨characters, -, digit, listed, -⟩
    refine ⟨fun character inner => ?_, List.ne_nil_of_mem listed⟩
    have other : character ≠ '.' := fun same => plain (same ▸ inner)
    rw [← isDigit_eq]
    exact (characters character inner).resolve_right other
  · rintro ⟨digits, nonempty⟩
    obtain ⟨digit, listed⟩ := List.exists_mem_of_ne_nil text nonempty
    have points := List.count_eq_zero.mpr plain
    exact ⟨fun character inner => .inl (isDigit_eq _ ▸ digits character inner), by omega,
      digit, listed, isDigit_eq _ ▸ digits digit listed⟩

/-- A text with a point is a mantissa if what is around the point is digits, and at least one. -/
theorem isMantissa_pointed_iff {whole fraction : List Char} :
    IsMantissa (whole ++ '.' :: fraction) ↔
      (∀ digit ∈ whole ++ fraction, isDigit digit = true) ∧ whole ++ fraction ≠ [] := by
  have points : (whole ++ '.' :: fraction).count '.' = (whole ++ fraction).count '.' + 1 := by
    rw [List.count_append, List.count_cons_self, List.count_append, Nat.add_assoc]
  constructor
  · rintro ⟨characters, point, digit, listed, own⟩
    have plain : '.' ∉ whole ++ fraction := List.count_eq_zero.mp (by omega)
    have noPoint : digit ≠ '.' := by
      rintro rfl
      exact absurd own (by decide)
    have around := (mem_around_point.mp listed).resolve_left noPoint
    refine ⟨fun character inner => ?_, List.ne_nil_of_mem around⟩
    have other : character ≠ '.' := fun same => plain (same ▸ inner)
    rw [← isDigit_eq]
    exact (characters character (mem_around_point.mpr (.inr inner))).resolve_right other
  · rintro ⟨digits, nonempty⟩
    have plain : '.' ∉ whole ++ fraction := fun listed => absurd (digits _ listed) (by decide)
    have single := List.count_eq_zero.mpr plain
    obtain ⟨digit, listed⟩ := List.exists_mem_of_ne_nil _ nonempty
    refine ⟨fun character inner => ?_, by omega, digit, mem_around_point.mpr (.inr listed),
      isDigit_eq _ ▸ digits digit listed⟩
    rcases mem_around_point.mp inner with rfl | among
    · exact .inr rfl
    · exact .inl (isDigit_eq _ ▸ digits character among)

/-- Digits with a point behind some of them, or without one. -/
theorem isMantissa_iff {text : List Char} :
    IsMantissa text ↔ ∃ whole fraction, (∀ digit ∈ whole ++ fraction, isDigit digit = true) ∧
      whole ++ fraction ≠ [] ∧
      ((text = whole ∧ fraction = []) ∨ text = whole ++ '.' :: fraction) := by
  constructor
  · intro written
    by_cases pointed : '.' ∈ text
    · obtain ⟨whole, fraction, rfl⟩ := List.append_of_mem pointed
      obtain ⟨digits, nonempty⟩ := isMantissa_pointed_iff.mp written
      exact ⟨whole, fraction, digits, nonempty, .inr rfl⟩
    · obtain ⟨digits, nonempty⟩ := (isMantissa_of_noPoint pointed).mp written
      refine ⟨text, [], ?_, ?_, .inl ⟨rfl, rfl⟩⟩
      · rwa [List.append_nil]
      · rwa [List.append_nil]
  · rintro ⟨whole, fraction, digits, nonempty, ⟨rfl, rfl⟩ | rfl⟩
    · rw [List.append_nil] at digits nonempty
      have plain : '.' ∉ text := fun listed => absurd (digits _ listed) (by decide)
      exact (isMantissa_of_noPoint plain).mpr ⟨digits, nonempty⟩
    · exact isMantissa_pointed_iff.mpr ⟨digits, nonempty⟩

/-- Digits with at most one point open with a digit, or with a point and a digit. -/
theorem IsMantissa.exists_cons {mantissa : List Char} (written : IsMantissa mantissa) :
    ∃ first rest, mantissa = first :: rest ∧
      (isDigit first = true ∨ first = '.' ∧ ∃ second after, rest = second :: after ∧
        isDigit second = true) := by
  obtain ⟨whole, fraction, digits, nonempty, shape⟩ := isMantissa_iff.mp written
  obtain ⟨before, after⟩ := List.forall_mem_append.mp digits
  cases whole with
  | cons first rest =>
    have own : isDigit first = true := before first List.mem_cons_self
    rcases shape with ⟨rfl, _⟩ | rfl
    · exact ⟨first, rest, rfl, .inl own⟩
    · exact ⟨first, rest ++ '.' :: fraction, rfl, .inl own⟩
  | nil =>
    obtain ⟨second, others, rfl⟩ := List.exists_cons_of_ne_nil nonempty
    rcases shape with ⟨_, empty⟩ | rfl
    · cases empty
    · exact ⟨'.', second :: others, rfl, .inr ⟨rfl, second, others, rfl,
        after second List.mem_cons_self⟩⟩

/-- A mantissa opens with no sign. -/
theorem IsMantissa.ne_sign {mantissa : List Char} (written : IsMantissa mantissa) :
    ∀ first ∈ mantissa.head?, first ≠ '+' ∧ first ≠ '-' := by
  intro first opens
  rcases written.characters first (List.mem_of_mem_head? opens) with digit | rfl
  · exact ne_sign_of_isDigit (isDigit_eq first ▸ digit)
  · decide

/-- An exponent or nothing opens with neither a digit nor a point. -/
theorem not_isDigit_of_exponent {exponent : List Char}
    (written : exponent = [] ∨ IsExponent exponent) :
    ∀ first ∈ exponent.head?, isDigit first = false ∧ first ≠ '.' := by
  intro first opens
  rcases written with rfl | ⟨mark, rest, _, marks, rfl, _⟩
  · cases opens
  · obtain rfl := Option.some.inj opens
    rcases marks with rfl | rfl <;> decide

namespace Decimal

/-- The parts that a text is split into are digits with at most one point, and the rest. -/
theorem exists_splitPoint (text : List Char) :
    ∃ whole fraction mantissa rest, splitPoint text = (whole, fraction, rest) ∧
      text = mantissa ++ rest ∧ (∀ digit ∈ whole ++ fraction, isDigit digit = true) ∧
      ((mantissa = whole ∧ fraction = []) ∨ mantissa = whole ++ '.' :: fraction) := by
  have whole := List.takeWhile_append_dropWhile (p := isDigit) (l := text)
  have before : ∀ digit ∈ text.takeWhile isDigit, isDigit digit = true :=
    fun _ => List.all_eq_true.mp List.all_takeWhile _
  rw [splitPoint]
  split
  · rename_i rest pointed
    have inner := List.takeWhile_append_dropWhile (p := isDigit) (l := rest)
    have after : ∀ digit ∈ rest.takeWhile isDigit, isDigit digit = true :=
      fun _ => List.all_eq_true.mp List.all_takeWhile _
    refine ⟨_, _, _, _, rfl, ?_, List.forall_mem_append.mpr ⟨before, after⟩, .inr rfl⟩
    rw [List.append_assoc, List.cons_append, inner, ← pointed, whole]
  · refine ⟨_, _, _, _, rfl, whole.symm, ?_, .inl ⟨rfl, rfl⟩⟩
    rw [List.append_nil]
    exact before

/-- Digits write some number, and nothing else does. -/
theorem isSome_natural? {text : List Char} (digits : ∀ digit ∈ text, isDigit digit = true) :
    (natural? 10 text).isSome = true ↔ text ≠ [] := by
  constructor
  · rintro read rfl
    cases read
  · intro nonempty
    rw [natural?, continueNatural?_eq_ofDigitChars digits]
    · rfl
    · exact nonempty

/-- A decimal numeral is read where a decimal literal is written. -/
theorem isSome_parse? (word : List Char) :
    (parse? word).isSome = true ↔ IsDecimalLiteral word := by
  have parts (whole fraction rest : List Char) (negative : Bool)
      (split : splitSign word = (negative, (splitSign word).2))
      (pointed : splitPoint (splitSign word).2 = (whole, fraction, rest)) :
      (parse? word).isSome = true ↔
        (natural? 10 (whole ++ fraction)).isSome = true ∧ (exponentPart? rest).isSome = true := by
    rw [parse?, split]
    simp only [pointed]
    cases natural? 10 (whole ++ fraction) <;> cases exponentPart? rest <;> simp
  constructor
  · intro read
    obtain ⟨sign, signed, split⟩ := exists_isSign word
    obtain ⟨whole, fraction, mantissa, rest, pointed, text, digits, shape⟩ :=
      exists_splitPoint (splitSign word).2
    obtain ⟨natural, exponent⟩ := (parts whole fraction rest _ rfl pointed).mp read
    have nonempty := (isSome_natural? digits).mp natural
    have written : IsMantissa mantissa :=
      isMantissa_iff.mpr ⟨whole, fraction, digits, nonempty, shape⟩
    exact ⟨sign, _, mantissa, rest, signed, written, (isSome_exponentPart? rest).mp exponent,
      text ▸ split⟩
  · rintro ⟨sign, negative, mantissa, exponent, signed, written, ending, rfl⟩
    obtain ⟨first, rest, opens, _⟩ := written.exists_cons
    have plain : ∀ first ∈ (mantissa ++ exponent).head?, first ≠ '+' ∧ first ≠ '-' := by
      intro character found
      refine written.ne_sign character ?_
      rw [opens] at found ⊢
      exact found
    have split := splitSign_eq signed plain
    obtain ⟨whole, fraction, digits, nonempty, shape⟩ := isMantissa_iff.mp written
    have pointed := splitPoint_append digits shape (not_isDigit_of_exponent ending)
    refine (parts whole fraction exponent negative (by rw [split])
      (by rw [split]; exact pointed)).mpr
      ⟨(isSome_natural? digits).mpr nonempty, (isSome_exponentPart? exponent).mpr ending⟩

end Decimal

/-- An integer literal is a decimal literal without point and exponent. -/
theorem IsIntegerLiteral.isDecimalLiteral {word : List Char} {value : Int}
    (literal : IsIntegerLiteral word value) : IsDecimalLiteral word := by
  obtain ⟨sign, negative, digits, magnitude, signed, rfl, denotes, _⟩ := literal
  have all := isDigit_of_denotes denotes
  have written : IsMantissa digits := isMantissa_iff.mpr
    ⟨digits, [], by rwa [List.append_nil], by rw [List.append_nil]; exact denotes.nonempty,
      .inl ⟨rfl, rfl⟩⟩
  exact ⟨sign, negative, digits, [], signed, written, .inl rfl, by rw [List.append_nil]⟩

/-- The characters of a decimal literal. -/
theorem IsDecimalLiteral.characters {word : List Char} (literal : IsDecimalLiteral word) :
    ∀ character ∈ word, isDigit character = true ∨
      character ∈ ['.', '+', '-', 'e', 'E'] := by
  have signs {sign : List Char} {negative : Bool} (signed : IsSign sign negative) :
      ∀ character ∈ sign, character ∈ ['.', '+', '-', 'e', 'E'] := by
    rcases signed with ⟨rfl, _⟩ | ⟨rfl, _⟩ | ⟨rfl, _⟩ <;> simp
  obtain ⟨sign, negative, mantissa, exponent, signed, written, ending, rfl⟩ := literal
  intro character listed
  rcases List.mem_append.mp listed with inner | later
  · exact .inr (signs signed character inner)
  rcases List.mem_append.mp later with inner | inner
  · rcases written.characters character inner with digit | rfl
    · exact .inl (isDigit_eq character ▸ digit)
    · exact .inr (by decide)
  · rcases ending with rfl | ⟨mark, _, _, marks, rfl, own, _, digits, _, ownSigned, rfl, denotes, _⟩
    · cases inner
    rcases List.mem_cons.mp inner with rfl | inner
    · right
      rcases marks with rfl | rfl <;> decide
    rcases List.mem_append.mp inner with inner | inner
    · exact .inr (signs ownSigned character inner)
    · exact .inl (isDigit_of_denotes denotes character inner)

namespace TokenKind

/-- A decimal literal has the first characters of a number. -/
theorem looksNumeric_of_isDecimalLiteral {word : List Char} (literal : IsDecimalLiteral word) :
    looksNumeric word = true := by
  obtain ⟨sign, negative, mantissa, exponent, signed, written, _, rfl⟩ := literal
  obtain ⟨first, rest, rfl, opens⟩ := written.exists_cons
  have plus : isDigit '+' = false := by decide
  have minus : isDigit '-' = false := by decide
  have point : isDigit '.' = false := by decide
  rcases opens with digit | ⟨rfl, second, after, rfl, digit⟩
  · rcases signed with ⟨rfl, _⟩ | ⟨rfl, _⟩ | ⟨rfl, _⟩ <;> simp [looksNumeric, digit, plus, minus]
  · rcases signed with ⟨rfl, _⟩ | ⟨rfl, _⟩ | ⟨rfl, _⟩ <;>
      simp [looksNumeric, digit, plus, minus, point]

/-- The digits after the mark of a hexadecimal literal. -/
theorem hexDigits?_eq_some_iff {word digits : List Char} :
    hexDigits? word = some digits ↔
      ∃ mark, (mark = 'x' ∨ mark = 'X') ∧ word = '0' :: mark :: digits := by
  unfold hexDigits?
  split
  · rename_i mark others
    rw [Option.ite_none_right_eq_some]
    constructor
    · rintro ⟨marks, same⟩
      exact ⟨mark, marks, Option.some.inj same ▸ rfl⟩
    · rintro ⟨_, marks, same⟩
      obtain ⟨rfl, rfl⟩ := List.cons.inj (List.cons.inj same).2
      exact ⟨marks, rfl⟩
  · rename_i other
    constructor
    · intro found
      cases found
    · rintro ⟨mark, _, rfl⟩
      exact absurd rfl (other mark digits)

/-- A word with the mark of a hexadecimal literal is no decimal literal. -/
theorem not_isDecimalLiteral_of_mark {mark : Char} (marks : mark = 'x' ∨ mark = 'X')
    (digits : List Char) : ¬ IsDecimalLiteral ('0' :: mark :: digits) := by
  intro literal
  have among := literal.characters mark (List.mem_cons_of_mem _ List.mem_cons_self)
  rcases marks with rfl | rfl <;> exact absurd among (by decide)

/-- A decimal word is an integer where an integer literal in range is written. -/
theorem ofDecimalWord_eq_integer_iff {word : List Char} {value : Int64} :
    ofDecimalWord word = .integer value ↔ IsIntegerLiteral word value.toInt := by
  rw [← integer?_eq_some_iff]
  constructor
  · intro kind
    rw [ofDecimalWord] at kind
    split at kind
    · rename_i found among
      obtain ⟨written, fits⟩ := Option.filter_eq_some_iff.mp among
      have bounds : Int64.minValue.toInt ≤ found ∧ found ≤ Int64.maxValue.toInt :=
        of_decide_eq_true fits
      obtain ⟨low, high⟩ := (fits_iff found).mp bounds
      obtain rfl := TokenKind.integer.inj kind
      rw [written, Int64.toInt_ofInt_of_le low high]
    · split at kind <;> cases kind
  · intro written
    have fits : Fits value.toInt := (fits_iff _).mpr ⟨value.le_toInt, value.toInt_lt⟩
    rw [ofDecimalWord_of_fits written fits, Int64.ofInt_toInt]

/-- A decimal word that is no integer is a number where a decimal literal is written. -/
theorem exists_ofDecimalWord_eq_double_iff {word : List Char} :
    (∃ value, ofDecimalWord word = .double value) ↔
      (∀ value, IsIntegerLiteral word value → ¬ Fits value) ∧ IsDecimalLiteral word := by
  rw [← Decimal.isSome_parse?]
  constructor
  · rintro ⟨value, kind⟩
    constructor
    · intro found literal fits
      rw [ofDecimalWord_of_fits (integer?_eq_some_iff.mpr literal) fits] at kind
      cases kind
    · rw [ofDecimalWord] at kind
      split at kind
      · cases kind
      · split at kind
        · rename_i parsed
          rw [parsed]
          rfl
        · cases kind
  · rintro ⟨beyond, parsed⟩
    obtain ⟨decimal, parsed⟩ := Option.isSome_iff_exists.mp parsed
    refine ⟨decimal.round .double, ofDecimalWord_of_not_fits (fun found written => ?_) parsed⟩
    exact beyond found (integer?_eq_some_iff.mp written)

/-- Decimal literals are read as decimal words, and what else is read as one is no decimal
literal. -/
theorem ofWord_eq_ofDecimalWord {word : List Char} (literal : IsDecimalLiteral word) :
    ofWord word = ofDecimalWord word := by
  cases found : hexDigits? word with
  | some digits =>
    obtain ⟨mark, marks, rfl⟩ := hexDigits?_eq_some_iff.mp found
    exact absurd literal (not_isDecimalLiteral_of_mark marks digits)
  | none =>
    rw [ofWord, found]
    exact if_pos (looksNumeric_of_isDecimalLiteral literal)

/-- A word is read as a decimal word, or it is hexadecimal or no number. -/
theorem ofWord_eq_or (word : List Char) :
    ofWord word = ofDecimalWord word ∨ ofWord word = .word ∨ ∃ value, ofWord word = .hex value := by
  rw [ofWord]
  split
  · split
    · exact .inr (.inr ⟨_, rfl⟩)
    · exact .inr (.inl rfl)
  · split
    · exact .inl rfl
    · exact .inr (.inl rfl)

/-- A word that is no decimal literal is hexadecimal or no number. -/
theorem ofWord_of_not_isDecimalLiteral {word : List Char} (other : ¬ IsDecimalLiteral word) :
    ofWord word = .word ∨ ∃ value, ofWord word = .hex value := by
  rcases ofWord_eq_or word with decimal | others
  · have whole : integer? word = none := Option.eq_none_iff_forall_ne_some.mpr fun value written =>
      other (integer?_eq_some_iff.mp written).isDecimalLiteral
    have parsed : Decimal.parse? word = none := by
      rw [← Option.not_isSome_iff_eq_none, Decimal.isSome_parse?]
      exact other
    left
    rw [decimal, ofDecimalWord, whole, parsed]
    rfl
  · exact others

/-- A word is hexadecimal where a hexadecimal literal in range is written. -/
theorem ofWord_eq_hex_iff {word : List Char} {value : UInt64} :
    ofWord word = .hex value ↔ IsHexLiteral word value.toNat := by
  constructor
  · intro kind
    rw [ofWord] at kind
    split at kind
    · rename_i digits found
      obtain ⟨mark, marks, rfl⟩ := hexDigits?_eq_some_iff.mp found
      split at kind
      · rename_i magnitude among
        obtain ⟨written, below⟩ := Option.filter_eq_some_iff.mp among
        have small : magnitude < UInt64.size := of_decide_eq_true below
        obtain rfl := TokenKind.hex.inj kind
        rw [UInt64.toNat_ofNat_of_lt' small]
        exact ⟨mark, digits, marks, rfl, natural?_eq_some_iff.mp written⟩
      · cases kind
    · split at kind
      · rw [ofDecimalWord] at kind
        repeat' split at kind
        all_goals cases kind
      · cases kind
  · rintro ⟨mark, digits, marks, rfl, denotes⟩
    have found : hexDigits? ('0' :: mark :: digits) = some digits :=
      hexDigits?_eq_some_iff.mpr ⟨mark, marks, rfl⟩
    have below : decide (value.toNat < UInt64.size) = true := decide_eq_true value.toNat_lt
    simp only [ofWord, found, natural?_eq_some_iff.mpr denotes, Option.filter, below, ↓reduceIte,
      UInt64.ofNat_toNat]

/-- A word is an integer where an integer literal in range is written. -/
theorem ofWord_eq_integer_iff {word : List Char} {value : Int64} :
    ofWord word = .integer value ↔ IsIntegerLiteral word value.toInt := by
  by_cases literal : IsDecimalLiteral word
  · rw [ofWord_eq_ofDecimalWord literal]
    exact ofDecimalWord_eq_integer_iff
  · constructor
    · intro kind
      rcases ofWord_of_not_isDecimalLiteral literal with other | ⟨_, other⟩ <;>
        · rw [other] at kind
          cases kind
    · intro own
      exact absurd own.isDecimalLiteral literal

/-- A word is a number with a fraction or out of range where a decimal literal is written that is
no integer in range. -/
theorem exists_ofWord_eq_double_iff {word : List Char} :
    (∃ value, ofWord word = .double value) ↔
      (∀ value, IsIntegerLiteral word value → ¬ Fits value) ∧ IsDecimalLiteral word := by
  by_cases literal : IsDecimalLiteral word
  · rw [ofWord_eq_ofDecimalWord literal]
    exact exists_ofDecimalWord_eq_double_iff
  · constructor
    · rintro ⟨_, kind⟩
      rcases ofWord_of_not_isDecimalLiteral literal with other | ⟨_, other⟩ <;>
        · rw [other] at kind
          cases kind
    · rintro ⟨_, own⟩
      exact absurd own literal

end TokenKind

/-- The kind of a word is told by the grammars: it is the first kind of number in whose range the
word is a literal, and no number if there is none. -/
structure Classified (word : List Char) (kind : TokenKind) : Prop where
  /-- Hexadecimal literals below two to the 64th. -/
  hex : ∀ value : UInt64, kind = .hex value ↔ IsHexLiteral word value.toNat
  /-- Of the others, the integer literals with 64 bits. -/
  integer : ∀ value : Int64, kind = .integer value ↔
    (¬ ∃ value < 2 ^ 64, IsHexLiteral word value) ∧ IsIntegerLiteral word value.toInt
  /-- Of the others, the decimal literals. -/
  double : (∃ value, kind = .double value) ↔
    (¬ ∃ value < 2 ^ 64, IsHexLiteral word value) ∧
      (¬ ∃ value, (-2 ^ 63 ≤ value ∧ value < 2 ^ 63) ∧ IsIntegerLiteral word value) ∧
      IsDecimalLiteral word
  /-- All others. -/
  word : kind = .word ↔
    (¬ ∃ value < 2 ^ 64, IsHexLiteral word value) ∧
      (¬ ∃ value, (-2 ^ 63 ≤ value ∧ value < 2 ^ 63) ∧ IsIntegerLiteral word value) ∧
      ¬ IsDecimalLiteral word

/-- A hexadecimal literal is no decimal one. -/
theorem IsHexLiteral.not_isDecimalLiteral {word : List Char} {value : Nat}
    (literal : IsHexLiteral word value) : ¬ IsDecimalLiteral word := by
  obtain ⟨mark, digits, marks, rfl, _⟩ := literal
  exact TokenKind.not_isDecimalLiteral_of_mark marks digits

namespace TokenKind

/-- A word is hexadecimal if it is a hexadecimal literal in the range of the words of 64 bits. -/
theorem exists_ofWord_eq_hex_iff {word : List Char} :
    (∃ value, ofWord word = .hex value) ↔ ∃ value < 2 ^ 64, IsHexLiteral word value := by
  constructor
  · rintro ⟨value, kind⟩
    exact ⟨value.toNat, value.toNat_lt, ofWord_eq_hex_iff.mp kind⟩
  · rintro ⟨value, below, literal⟩
    refine ⟨UInt64.ofNat value, ofWord_eq_hex_iff.mpr ?_⟩
    rwa [UInt64.toNat_ofNat_of_lt' below]

/-- A word is an integer if it is an integer literal in the range of the signed words of 64 bits. -/
theorem exists_ofWord_eq_integer_iff {word : List Char} :
    (∃ value, ofWord word = .integer value) ↔
      ∃ value, (-2 ^ 63 ≤ value ∧ value < 2 ^ 63) ∧ IsIntegerLiteral word value := by
  constructor
  · rintro ⟨value, kind⟩
    exact ⟨value.toInt, ⟨value.le_toInt, value.toInt_lt⟩, ofWord_eq_integer_iff.mp kind⟩
  · rintro ⟨value, ⟨low, high⟩, literal⟩
    refine ⟨Int64.ofInt value, ofWord_eq_integer_iff.mpr ?_⟩
    rwa [Int64.toInt_ofInt_of_le low high]

/-- Every word is classified by the grammars. -/
theorem classified_ofWord (word : List Char) : Classified word (ofWord word) := by
  have double : (∃ value, ofWord word = .double value) ↔
      (¬ ∃ value, (-2 ^ 63 ≤ value ∧ value < 2 ^ 63) ∧ IsIntegerLiteral word value) ∧
        IsDecimalLiteral word := by
    rw [exists_ofWord_eq_double_iff]
    simp only [fits_iff, not_exists, not_and, imp_not_comm]
  have noHex (decimal : IsDecimalLiteral word) : ¬ ∃ value < 2 ^ 64, IsHexLiteral word value := by
    rintro ⟨_, _, literal⟩
    exact literal.not_isDecimalLiteral decimal
  refine ⟨fun value => ofWord_eq_hex_iff, fun value => ?_, ?_, ?_⟩
  · rw [ofWord_eq_integer_iff]
    exact ⟨fun literal => ⟨noHex literal.isDecimalLiteral, literal⟩, And.right⟩
  · rw [double]
    exact ⟨fun ⟨whole, decimal⟩ => ⟨noHex decimal, whole, decimal⟩, And.right⟩
  · rw [← exists_ofWord_eq_hex_iff, ← exists_ofWord_eq_integer_iff]
    rw [← exists_ofWord_eq_integer_iff] at double
    constructor
    · intro kind
      refine ⟨?_, ?_, fun decimal => ?_⟩
      · rintro ⟨_, other⟩
        cases kind.symm.trans other
      · rintro ⟨_, other⟩
        cases kind.symm.trans other
      · by_cases whole : ∃ value, ofWord word = .integer value
        · obtain ⟨_, other⟩ := whole
          cases kind.symm.trans other
        · obtain ⟨_, other⟩ := double.mpr ⟨whole, decimal⟩
          cases kind.symm.trans other
    · rintro ⟨noHex, noInteger, noDecimal⟩
      rcases ofWord_cases word with kind | own | own | own
      · exact kind
      · exact absurd own noInteger
      · exact absurd own noHex
      · exact absurd (double.mp own).2 noDecimal

/-- Nothing is read as the value that is not a number. -/
theorem ofWord_ne_nan (word : List Char) : ofWord word ≠ .double .nan := by
  have rounded (decimal : Decimal) : decimal.round .double ≠ .nan := by
    have nearest (negative : Bool) (numerator denominator : Nat) :
        Binary.round .double negative numerator denominator ≠ .nan := by
      rw [Binary.round]
      split <;> simp
    rw [Decimal.round]
    split
    · exact nearest _ _ _
    · split
      · simp
      · split <;> exact nearest _ _ _
  intro kind
  rcases ofWord_eq_or word with same | same | ⟨_, same⟩
  · rw [same, ofDecimalWord] at kind
    split at kind
    · cases kind
    · split at kind
      · exact rounded _ (TokenKind.double.inj kind)
      · cases kind
  · cases same.symm.trans kind
  · cases same.symm.trans kind

/-- A digit has no letter case. -/
theorem toLower_of_isDigit {character : Char} (digit : isDigit character = true) :
    character.toLower = character := by
  have range := (isDigit_iff character).mp digit
  have upper : ¬ (character.val ≥ 'A'.val ∧ character.val ≤ 'Z'.val) := by
    rintro ⟨low, _⟩
    have least : 'A'.toNat ≤ character.toNat := low
    have code : 'A'.toNat = 65 := rfl
    omega
  exact dif_neg upper

/-- A word that opens with the letter of a special number, behind a sign or none, is no number. -/
theorem ofWord_of_letter {sign rest : List Char} {negative : Bool} {first : Char}
    (signed : IsSign sign negative) (letter : first.toLower = 'i' ∨ first.toLower = 'n') :
    ofWord (sign ++ first :: rest) = .word := by
  have opens : first ≠ '0' ∧ ¬ (isDigit first = true ∨ first ∈ ['.', '+', '-', 'e', 'E']) := by
    constructor
    · rintro rfl
      exact absurd letter (by decide)
    · rintro (digit | listed)
      · rw [toLower_of_isDigit digit] at letter
        rcases letter with rfl | rfl <;> exact absurd digit (by decide)
      · simp only [List.mem_cons, List.not_mem_nil, or_false] at listed
        rcases listed with rfl | rfl | rfl | rfl | rfl <;> exact absurd letter (by decide)
  have noDecimal : ¬ IsDecimalLiteral (sign ++ first :: rest) := fun literal =>
    opens.2 (literal.characters first (List.mem_append_right _ List.mem_cons_self))
  refine (classified_ofWord _).word.mpr ⟨?_, ?_, noDecimal⟩
  · rintro ⟨_, _, mark, digits, _, same, _⟩
    rcases signed with ⟨rfl, _⟩ | ⟨rfl, _⟩ | ⟨rfl, _⟩
    · exact opens.1 (List.cons.inj same).1
    · exact absurd (List.cons.inj same).1 (by decide)
    · exact absurd (List.cons.inj same).1 (by decide)
  · rintro ⟨_, _, literal⟩
    exact noDecimal literal.isDecimalLiteral

end TokenKind

/-- The names of special numbers, in lower case. -/
def specialNames : List (List Char) :=
  ["inf".toList, "infinity".toList, "nan".toList]

/-- A special name, with a sign or without one and in any letter case. -/
def IsSpecialName (word : List Char) : Prop :=
  ∃ sign negative name, IsSign sign negative ∧ name.map Char.toLower ∈ specialNames ∧
    word = sign ++ name

/-- A special name is no number. -/
theorem IsSpecialName.ofWord {word : List Char} (special : IsSpecialName word) :
    TokenKind.ofWord word = .word := by
  obtain ⟨sign, negative, name, signed, listed, rfl⟩ := special
  have opens : (name.map Char.toLower).head? = some 'i' ∨
      (name.map Char.toLower).head? = some 'n' := by
    simp only [specialNames, List.mem_cons, List.not_mem_nil, or_false] at listed
    rcases listed with same | same | same <;> rw [same] <;> decide
  cases name with
  | nil => simp at opens
  | cons first rest =>
    simp only [List.map_cons, List.head?_cons, Option.some.injEq] at opens
    exact TokenKind.ofWord_of_letter signed opens

/-- Every text without separators is a word that can be cut, and it is cut whole. In any text, a
token that is no end, bracket or percent sign is such a word, and its kind is told by the grammars
of the literals; special names are no numbers, and no token holds the value that is not a number. -/
theorem Cursor.classified_of_mem_tokens :
    (∀ word, IsWord word → (ofText word 1).tokens =
      [⟨TokenKind.ofWord word.toList, word, 1⟩, ⟨.endOfData, "", 1⟩]) ∧
    ∀ data firstLine, ∀ token ∈ (ofText data firstLine).tokens,
      (token.kind.isMark = true ∨
        IsWord token.text ∧ token.kind = TokenKind.ofWord token.text.toList ∧
          Classified token.text.toList token.kind ∧
          (IsSpecialName token.text.toList → token.kind = .word)) ∧
      token.kind ≠ .double .nan := by
  constructor
  · intro word clean
    have whole := tokens_word clean endsWord_nil
    rwa [List.append_nil, tokens_nil] at whole
  · intro data firstLine token listed
    rcases isMark_or_isWord_of_mem_tokens listed with mark | ⟨clean, same⟩
    · refine ⟨.inl mark, fun kind => ?_⟩
      rw [kind] at mark
      cases mark
    · refine ⟨.inr ⟨clean, same, ?_, fun special => same.trans special.ofWord⟩, ?_⟩
      · rw [same]
        exact TokenKind.classified_ofWord _
      · rw [same]
        exact TokenKind.ofWord_ne_nan _

/-- The last integer with 64 bits is one, the next number is none any more, and infinity is a
word. -/
theorem Cursor.classified_of_mem_tokens_extremes :
    let tokens := (ofText "9223372036854775807, 9223372036854775808 -Infinity" 3).tokens
    let token : Token := ⟨.integer Int64.maxValue, "9223372036854775807", 3⟩
    IsWord "-Infinity" ∧ token ∈ tokens ∧
      (¬ ∃ value < 2 ^ 64, IsHexLiteral token.text.toList value) ∧
      IsIntegerLiteral token.text.toList (2 ^ 63 - 1) ∧
      (ofText "-Infinity" 1).tokens = [⟨.word, "-Infinity", 1⟩, ⟨.endOfData, "", 1⟩] := by
  intro tokens token
  have clean : IsWord "-Infinity" := by decide
  have first : (ofText "9223372036854775807, 9223372036854775808 -Infinity" 3).peek = token := by
    decide +kernel
  have listed : token ∈ tokens := List.mem_of_head? (first ▸ head?_tokens _)
  obtain ⟨cutWhole, classified⟩ := classified_of_mem_tokens
  obtain ⟨mark | ⟨_, _, kind, _⟩, _⟩ := classified _ _ token listed
  · cases mark
  have literal := (kind.integer Int64.maxValue).mp rfl
  have word : TokenKind.ofWord "-Infinity".toList = .word := by decide
  exact ⟨clean, listed, literal.1, literal.2, word ▸ cutWhole "-Infinity" clean⟩

end GpuScript
