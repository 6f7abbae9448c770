import GpuScript.Proofs.Token.Literal

/-!
# Unsigned literals

An unsigned literal is one digit or more of a base, behind a plus sign or alone
(`IsUnsignedLiteral`). In base ten these are the integer literals without a minus sign, so a word
that is both kinds of literal has one value; a minus sign is left to the spellings of zero.
-/

namespace GpuScript

open Text

/-- An unsigned literal of a base: a plus sign or none, and one digit or more. -/
def IsUnsignedLiteral (base : Nat) (word : List Char) (value : Nat) : Prop :=
  ∃ sign digits, (sign = [] ∨ sign = ['+']) ∧ word = sign ++ digits ∧ Denotes base digits value

section Characters

variable {base value : Nat} {word : List Char} {character : Char}

/-- What a run of digits denotes consists of digits of the base. -/
theorem Denotes.exists_isDigitOf (denotes : Denotes base word value) (listed : character ∈ word) :
    ∃ digit, IsDigitOf base character digit := by
  obtain ⟨digits, each, -⟩ := denotes.digits
  obtain ⟨digit, -, own⟩ := exists_of_mem_right each.flip listed
  exact ⟨digit, own⟩

/-- A digit of any base is a decimal digit or one of the first six letters in either case. -/
theorem IsDigitOf.code {digit : Nat} (own : IsDigitOf base character digit) :
    (48 ≤ character.toNat ∧ character.toNat ≤ 57) ∨
      (65 ≤ character.toNat ∧ character.toNat ≤ 70) ∨
      (97 ≤ character.toNat ∧ character.toNat ≤ 102) := by
  have zero : '0'.toNat = 48 := rfl
  have lower : 'a'.toNat = 97 := rfl
  have upper : 'A'.toNat = 65 := rfl
  obtain ⟨-, range⟩ := own
  rw [zero, lower, upper] at range
  omega

/-- A digit of any base is neither a plus sign nor a colon. -/
theorem IsDigitOf.ne_mark {digit : Nat} (own : IsDigitOf base character digit) :
    character ≠ '+' ∧ character ≠ ':' := by
  constructor
  · rintro rfl
    exact absurd own.code (by decide)
  · rintro rfl
    exact absurd own.code (by decide)

/-- A digit of any base is no mark of a hexadecimal literal. -/
theorem IsDigitOf.ne_hexMark {digit : Nat} (own : IsDigitOf base character digit) :
    character ≠ 'x' ∧ character ≠ 'X' := by
  constructor
  · rintro rfl
    exact absurd own.code (by decide)
  · rintro rfl
    exact absurd own.code (by decide)

/-- A digit of any base separates no words. -/
theorem IsDigitOf.isSeparator_eq_false {digit : Nat} (own : IsDigitOf base character digit) :
    isSeparator character = false := by
  have range := own.code
  cases separates : isSeparator character with
  | false => rfl
  | true =>
    simp only [isSeparator, Bool.or_eq_true, beq_iff_eq] at separates
    rcases separates with ((((blank | rfl) | rfl) | rfl) | rfl) | rfl
    · simp [isBlank, blankCodes] at blank
      omega
    all_goals exact absurd range (by decide)

/-- A run of digits separates no words. -/
theorem Denotes.isSeparator_eq_false (denotes : Denotes base word value)
    (listed : character ∈ word) : isSeparator character = false := by
  obtain ⟨digit, own⟩ := denotes.exists_isDigitOf listed
  exact own.isSeparator_eq_false

/-- An unsigned literal is a word. -/
theorem IsUnsignedLiteral.isWord {text : String}
    (literal : IsUnsignedLiteral base text.toList value) : IsWord text := by
  obtain ⟨sign, digits, plus, split, denotes⟩ := literal
  refine ⟨?_, ?_⟩ <;> rw [split]
  · exact List.append_ne_nil_of_right_ne_nil sign denotes.nonempty
  · refine List.forall_mem_append.mpr ⟨?_, fun _ => denotes.isSeparator_eq_false⟩
    rcases plus with rfl | rfl <;> exact isPlain_iff.mp (by decide)

/-- A hexadecimal literal separates no words. -/
theorem IsHexLiteral.isSeparator_eq_false (literal : IsHexLiteral word value)
    (listed : character ∈ word) : isSeparator character = false := by
  obtain ⟨mark, digits, marks, rfl, denotes⟩ := literal
  rcases List.mem_cons.mp listed with rfl | listed
  · decide
  rcases List.mem_cons.mp listed with rfl | inner
  · rcases marks with rfl | rfl <;> decide
  · exact denotes.isSeparator_eq_false inner

/-- A hexadecimal literal is a word. -/
theorem IsHexLiteral.isWord {text : String} (literal : IsHexLiteral text.toList value) :
    IsWord text := by
  refine ⟨?_, fun _ => literal.isSeparator_eq_false⟩
  obtain ⟨_, _, -, split, -⟩ := literal
  rw [split]
  exact List.cons_ne_nil _ _

/-- An integer literal is a word. -/
theorem IsIntegerLiteral.isWord {text : String} {integer : Int}
    (literal : IsIntegerLiteral text.toList integer) : IsWord text := by
  obtain ⟨sign, negative, digits, magnitude, signed, split, denotes, -⟩ := literal
  refine ⟨?_, ?_⟩ <;> rw [split]
  · exact List.append_ne_nil_of_right_ne_nil sign denotes.nonempty
  · refine List.forall_mem_append.mpr ⟨?_, fun _ => denotes.isSeparator_eq_false⟩
    rcases signed with ⟨rfl, -⟩ | ⟨rfl, -⟩ | ⟨rfl, -⟩ <;> exact isPlain_iff.mp (by decide)

/-- There is no colon in an unsigned literal. -/
theorem IsUnsignedLiteral.ne_colon (literal : IsUnsignedLiteral base word value)
    (listed : character ∈ word) : character ≠ ':' := by
  obtain ⟨sign, digits, plus, rfl, denotes⟩ := literal
  rcases List.mem_append.mp listed with signed | inner
  · rcases plus with rfl | rfl
    · cases signed
    · rw [List.mem_singleton.mp signed]
      decide
  · obtain ⟨digit, own⟩ := denotes.exists_isDigitOf inner
    exact own.ne_mark.2

/-- An unsigned literal does not open with a mark. -/
theorem IsUnsignedLiteral.not_hexMark {mark : Char} {digits : List Char}
    (marks : mark = 'x' ∨ mark = 'X') :
    ¬ IsUnsignedLiteral base ('0' :: mark :: digits) value := by
  rintro ⟨sign, others, rfl | rfl, split, denotes⟩
  · rw [List.nil_append] at split
    have listed : mark ∈ others := by simp [← split]
    obtain ⟨digit, own⟩ := denotes.exists_isDigitOf listed
    exact marks.elim own.ne_hexMark.1 own.ne_hexMark.2
  · cases (List.cons.inj split).1

/-- An unsigned literal is digits, or a plus sign and digits. -/
theorem isUnsignedLiteral_iff_denotes :
    IsUnsignedLiteral base word value ↔
      Denotes base word value ∨ ∃ digits, word = '+' :: digits ∧ Denotes base digits value := by
  constructor
  · rintro ⟨sign, digits, rfl | rfl, rfl, denotes⟩
    · exact .inl denotes
    · exact .inr ⟨digits, rfl, denotes⟩
  · rintro (denotes | ⟨digits, rfl, denotes⟩)
    · exact ⟨[], word, .inl rfl, rfl, denotes⟩
    · exact ⟨['+'], digits, .inr rfl, rfl, denotes⟩

end Characters

/-- A number below a limit is read from an unsigned literal of it. -/
theorem unsigned?_eq_some_iff {base limit value : Nat} {word : List Char} :
    unsigned? base limit word = some value ↔ IsUnsignedLiteral base word value ∧ value < limit := by
  unfold unsigned?
  constructor
  · intro read
    obtain ⟨written, below⟩ := Option.filter_eq_some_iff.mp read
    refine ⟨?_, of_decide_eq_true below⟩
    split at written
    · exact ⟨['+'], _, .inr rfl, rfl, natural?_eq_some_iff.mp written⟩
    · exact ⟨[], _, .inl rfl, rfl, natural?_eq_some_iff.mp written⟩
  · rintro ⟨⟨sign, digits, plus, rfl, denotes⟩, below⟩
    refine Option.filter_eq_some_iff.mpr ⟨?_, decide_eq_true below⟩
    rcases plus with rfl | rfl
    · rw [List.nil_append]
      split
      · obtain ⟨digit, own⟩ := denotes.exists_isDigitOf List.mem_cons_self
        exact absurd rfl own.ne_mark.1
      · exact natural?_eq_some_iff.mpr denotes
    · exact natural?_eq_some_iff.mpr denotes

/-- An unsigned word is read from an unsigned literal of it. -/
theorem map_unsigned?_eq_some_iff {base : Nat} {word : List Char} {value : UInt32} :
    (unsigned? base UInt32.size word).map UInt32.ofNat = some value ↔
      IsUnsignedLiteral base word value.toNat := by
  have below : value.toNat < UInt32.size := value.toNat_lt
  rw [Option.map_eq_some_iff]
  constructor
  · rintro ⟨number, read, rfl⟩
    obtain ⟨literal, small⟩ := unsigned?_eq_some_iff.mp read
    rwa [UInt32.toNat_ofNat_of_lt' small]
  · intro literal
    exact ⟨value.toNat, unsigned?_eq_some_iff.mpr ⟨literal, below⟩, UInt32.ofNat_toNat⟩

/-- An unsigned word is read in decimal from an unsigned decimal literal of it. -/
theorem word32?_eq_some_iff {word : List Char} {value : UInt32} :
    word32? word = some value ↔ IsUnsignedLiteral 10 word value.toNat :=
  map_unsigned?_eq_some_iff

/-- An unsigned word is read in hexadecimal from an unsigned hexadecimal literal of it. -/
theorem hexWord32?_eq_some_iff {word : List Char} {value : UInt32} :
    hexWord32? word = some value ↔ IsUnsignedLiteral 16 word value.toNat :=
  map_unsigned?_eq_some_iff

section Decimal

variable {word : List Char}

/-- A word is a hexadecimal literal of one number. -/
theorem IsHexLiteral.unique {first second : Nat} (literal : IsHexLiteral word first)
    (other : IsHexLiteral word second) : first = second := by
  obtain ⟨mark, digits, -, rfl, denotes⟩ := literal
  obtain ⟨_, _, -, same, other_denotes⟩ := other
  obtain ⟨-, rfl⟩ := List.cons.inj (List.cons.inj same).2
  have read := natural?_eq_some_iff.mpr denotes
  exact Option.some.inj (read.symm.trans (natural?_eq_some_iff.mpr other_denotes))

/-- An unsigned decimal literal is an integer literal. -/
theorem IsUnsignedLiteral.isIntegerLiteral {value : Nat}
    (literal : IsUnsignedLiteral 10 word value) : IsIntegerLiteral word value := by
  obtain ⟨sign, digits, plus, rfl, denotes⟩ := literal
  refine ⟨sign, false, digits, value, ?_, rfl, denotes, rfl⟩
  rcases plus with rfl | rfl
  · exact .inl ⟨rfl, rfl⟩
  · exact .inr (.inl ⟨rfl, rfl⟩)

/-- A word is an integer literal of one number. -/
theorem IsIntegerLiteral.unique {first second : Int} (literal : IsIntegerLiteral word first)
    (other : IsIntegerLiteral word second) : first = second :=
  Option.some.inj ((integer?_eq_some_iff.mpr literal).symm.trans (integer?_eq_some_iff.mpr other))

/-- An integer literal of a positive number is an unsigned one. -/
theorem IsIntegerLiteral.isUnsignedLiteral {value : Nat} (literal : IsIntegerLiteral word value)
    (positive : 0 < value) : IsUnsignedLiteral 10 word value := by
  obtain ⟨sign, negative, digits, magnitude, signed, rfl, denotes, same⟩ := literal
  rcases signed with ⟨rfl, rfl⟩ | ⟨rfl, rfl⟩ | ⟨rfl, rfl⟩
  · obtain rfl : value = magnitude := Int.ofNat.inj same
    exact ⟨[], digits, .inl rfl, rfl, denotes⟩
  · obtain rfl : value = magnitude := Int.ofNat.inj same
    exact ⟨['+'], digits, .inr rfl, rfl, denotes⟩
  · simp only [if_true] at same
    omega

end Decimal

/-- A literal of a number is an unsigned decimal literal of that number or of none. -/
theorem IsUnsignedLiteral.of_literal {word : List Char} {value other : Nat}
    (literal : IsHexLiteral word value ∨ IsIntegerLiteral word value)
    (unsigned : IsUnsignedLiteral 10 word other) : IsUnsignedLiteral 10 word value := by
  rcases literal with hex | integer
  · exact absurd unsigned.isIntegerLiteral.isDecimalLiteral hex.not_isDecimalLiteral
  · obtain rfl : value = other := Int.ofNat.inj (integer.unique unsigned.isIntegerLiteral)
    exact unsigned

namespace TokenKind

variable {word : List Char}

/-- The kind of a word has an integer value if the word is a hexadecimal or an integer literal of it
in the range of the kind. -/
theorem integerValue?_ofWord_eq_some_iff {value : Int} :
    (ofWord word).integerValue? = some value ↔
      (∃ natural : Nat, value = natural ∧ natural < 2 ^ 64 ∧ IsHexLiteral word natural) ∨
        Fits value ∧ IsIntegerLiteral word value := by
  constructor
  · intro read
    rcases ofWord_cases word with kind | ⟨own, kind⟩ | ⟨own, kind⟩ | ⟨own, kind⟩
    all_goals rw [kind] at read
    · cases read
    · obtain rfl := Option.some.inj read
      exact .inr ⟨(fits_iff _).mpr ⟨own.le_toInt, own.toInt_lt⟩, ofWord_eq_integer_iff.mp kind⟩
    · obtain rfl := Option.some.inj read
      exact .inl ⟨own.toNat, rfl, own.toNat_lt, ofWord_eq_hex_iff.mp kind⟩
    · cases read
  · rintro (⟨natural, rfl, small, literal⟩ | ⟨fits, literal⟩)
    · obtain ⟨own, kind⟩ := exists_ofWord_eq_hex_iff.mpr ⟨natural, small, literal⟩
      have same := ofWord_eq_hex_iff.mp kind
      rw [kind, integerValue?, literal.unique same]
    · obtain ⟨own, kind⟩ := exists_ofWord_eq_integer_iff.mpr ⟨value, (fits_iff _).mp fits, literal⟩
      rw [kind, integerValue?, literal.unique (ofWord_eq_integer_iff.mp kind)]

/-- A literal of a natural number in the range of the signed integers has it as its value. -/
theorem integerValue?_ofWord_of_literal {value : Nat}
    (literal : IsHexLiteral word value ∨ IsIntegerLiteral word value) (small : value < 2 ^ 63) :
    (ofWord word).integerValue? = some (value : Int) := by
  rw [integerValue?_ofWord_eq_some_iff, fits_iff]
  rcases literal with hexadecimal | integer
  · exact .inl ⟨value, rfl, by omega, hexadecimal⟩
  · exact .inr ⟨by omega, integer⟩

/-- A kind has the value of an unsigned word of 32 bits if that is its integer value. -/
theorem word32?_eq_some_iff {kind : TokenKind} {value : UInt32} :
    kind.word32? = some value ↔ kind.integerValue? = some (value.toNat : Int) := by
  have limit : UInt32.size = 4294967296 := rfl
  have below := value.toNat_lt
  rw [word32?]
  cases kind.integerValue? with
  | none => simp
  | some integer =>
    simp only [Option.ite_none_right_eq_some, Option.some.injEq]
    constructor
    · rintro ⟨⟨positive, small⟩, rfl⟩
      rw [UInt32.toNat_ofNat_of_lt' (by omega)]
      omega
    · rintro rfl
      refine ⟨by omega, ?_⟩
      rw [Int.toNat_natCast, UInt32.ofNat_toNat]

/-- The kind of a word has the value of an unsigned word of 32 bits if the word is a hexadecimal or
an integer literal of it. -/
theorem word32?_ofWord_eq_some_iff {value : UInt32} :
    (ofWord word).word32? = some value ↔
      IsHexLiteral word value.toNat ∨ IsIntegerLiteral word value.toNat := by
  have below := value.toNat_lt
  rw [word32?_eq_some_iff]
  constructor
  · intro found
    rcases integerValue?_ofWord_eq_some_iff.mp found with
      ⟨natural, same, -, literal⟩ | ⟨-, literal⟩
    · obtain rfl := Int.ofNat.inj same
      exact .inl literal
    · exact .inr literal
  · intro literal
    exact integerValue?_ofWord_of_literal literal (by omega)

end TokenKind

end GpuScript
