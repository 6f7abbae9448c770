import GpuScript.Node
import GpuScript.Proofs.Token.Unsigned

/-!
# Which tokens are indices

An index is a literal of a number with 16 bits, in hexadecimal or decimal notation
(`Indices.IsIndex`). A body of an index section is accepted if every token is one, and then its
indices are those of the tokens in order; otherwise the first token that is none is blamed
(`Indices.readIndices_iff_literals`).

Numbers of more than 64 bits are no integers for the tokens any more, and are found again by their
digits. What is blamed for its size is a literal that is too large, and beyond these a hexadecimal
literal behind a plus sign, whatever its value: no token reads such a word as a number, and its
digits alone do not tell that it is small (`Indices.IsOversized`).
-/

namespace GpuScript

open Text

/-- Digits of a base denote a number if there are any. -/
theorem exists_denotes_iff {base : Nat} {text : List Char} :
    (∃ value, Denotes base text value) ↔
      text ≠ [] ∧ ∀ character ∈ text, (digitValue? base character).isSome = true := by
  constructor
  · rintro ⟨value, denotes⟩
    refine ⟨denotes.nonempty, fun character listed => ?_⟩
    obtain ⟨digit, own⟩ := denotes.exists_isDigitOf listed
    rw [digitValue?_eq_some_iff.mpr own]
    rfl
  · rintro ⟨nonempty, each⟩
    suffices digits : ∃ digits, List.Forall₂ (IsDigitOf base) text digits by
      obtain ⟨digits, each⟩ := digits
      exact ⟨_, nonempty, digits, each, rfl⟩
    clear nonempty
    induction text with
    | nil => exact ⟨[], .nil⟩
    | cons first rest ih =>
      obtain ⟨own, others⟩ := List.forall_mem_cons.mp each
      obtain ⟨digit, read⟩ := Option.isSome_iff_exists.mp own
      obtain ⟨digits, later⟩ := ih others
      exact ⟨digit :: digits, .cons (digitValue?_eq_some_iff.mp read) later⟩

namespace Indices

/-- A token is an index: its text is a hexadecimal or an integer literal of a number with 16
bits. -/
def IsIndex (token : Token) (index : UInt16) : Prop :=
  IsHexLiteral token.text.toList index.toNat ∨ IsIntegerLiteral token.text.toList index.toNat

/-- A word is blamed for its size. -/
inductive IsOversized (word : List Char) : Prop
  /-- An unsigned decimal literal with more than 16 bits. -/
  | decimal {value : Nat} (literal : IsUnsignedLiteral 10 word value) (large : 65535 < value)
  /-- A hexadecimal literal with more than 16 bits. -/
  | hexadecimal {value : Nat} (literal : IsHexLiteral word value) (large : 65535 < value)
  /-- A hexadecimal literal of any size, behind a plus sign. -/
  | signedHexadecimal {value : Nat} {digits : List Char} (literal : IsHexLiteral digits value)
    (signed : word = '+' :: digits)

/-- Digits behind the mark of a hexadecimal literal, or decimal digits without one, are a
hexadecimal literal or denote a decimal number. -/
theorem digits_iff {word : List Char} :
    (match TokenKind.hexDigits? word with
      | some digits => !digits.isEmpty && digits.all isHexDigit
      | none => !word.isEmpty && word.all isDigit) = true ↔
    (∃ value, Denotes 10 word value) ∨ ∃ value, IsHexLiteral word value := by
  have all (base : Nat) (text : List Char) :
      (!text.isEmpty && text.all fun character => (digitValue? base character).isSome) = true ↔
        ∃ value, Denotes base text value := by
    rw [exists_denotes_iff, Bool.and_eq_true, List.all_eq_true, Bool.not_eq_true',
      List.isEmpty_eq_false_iff]
  cases found : TokenKind.hexDigits? word with
  | none =>
    have noHex : ¬ ∃ value, IsHexLiteral word value := by
      rintro ⟨value, mark, digits, marks, split, -⟩
      rw [TokenKind.hexDigits?_eq_some_iff.mpr ⟨mark, marks, split⟩] at found
      cases found
    exact (all 10 word).trans (or_iff_left noHex).symm
  | some digits =>
    obtain ⟨mark, marks, rfl⟩ := TokenKind.hexDigits?_eq_some_iff.mp found
    have noDecimal : ¬ ∃ value, Denotes 10 ('0' :: mark :: digits) value := by
      rintro ⟨value, denotes⟩
      have digit := isDigit_of_denotes denotes mark (List.mem_cons_of_mem _ List.mem_cons_self)
      obtain ⟨lower, upper⟩ := ne_mark_of_isDigit digit
      exact marks.elim lower upper
    refine (all 16 digits).trans (Iff.trans ?_ (or_iff_right noDecimal).symm)
    constructor
    · rintro ⟨value, denotes⟩
      exact ⟨value, mark, digits, marks, rfl, denotes⟩
    · rintro ⟨value, other, others, -, same, denotes⟩
      obtain ⟨-, rfl⟩ := List.cons.inj (List.cons.inj same).2
      exact ⟨value, denotes⟩

/-- What looks like an unsigned integer is an unsigned decimal literal, or a hexadecimal literal
alone or behind a plus sign. -/
theorem isUnsignedLiteral_iff {text : List Char} :
    isUnsignedLiteral text = true ↔ (∃ value, IsUnsignedLiteral 10 text value) ∨
      ∃ digits value, IsHexLiteral digits value ∧ (text = digits ∨ text = '+' :: digits) := by
  unfold isUnsignedLiteral
  refine digits_iff.trans ?_
  split
  · rename_i rest
    refine or_congr ?_ ?_
    · constructor
      · rintro ⟨value, denotes⟩
        exact ⟨value, ['+'], rest, .inr rfl, rfl, denotes⟩
      · rintro ⟨value, sign, digits, rfl | rfl, same, denotes⟩
        · obtain ⟨digit, own⟩ := denotes.exists_isDigitOf (same ▸ List.mem_cons_self)
          exact absurd rfl own.ne_mark.1
        · obtain ⟨-, rfl⟩ := List.cons.inj same
          exact ⟨value, denotes⟩
    · constructor
      · rintro ⟨value, literal⟩
        exact ⟨rest, value, literal, .inr rfl⟩
      · rintro ⟨digits, value, literal, rfl | same⟩
        · obtain ⟨_, _, _, same, _⟩ := literal
          cases same
        · obtain ⟨-, rfl⟩ := List.cons.inj same
          exact ⟨value, literal⟩
  · rename_i other
    refine or_congr ?_ ?_
    · constructor
      · rintro ⟨value, denotes⟩
        exact ⟨value, [], text, .inl rfl, rfl, denotes⟩
      · rintro ⟨value, sign, digits, rfl | rfl, rfl, denotes⟩
        · exact ⟨value, denotes⟩
        · exact absurd rfl (other digits)
    · constructor
      · rintro ⟨value, literal⟩
        exact ⟨text, value, literal, .inl rfl⟩
      · rintro ⟨digits, value, literal, rfl | rfl⟩
        · exact ⟨value, literal⟩
        · exact absurd rfl (other digits)

/-- A word with an integer value is an index or blamed for this value, and a word without one is
blamed for its digits. -/
theorem ofToken_of_word {token : Token} (kind : token.kind = .ofWord token.text.toList) :
    ofToken token = match token.kind.integerValue? with
      | some value => if 0 ≤ value then ofNat? value.toNat else .error .invalid
      | none =>
        if isUnsignedLiteral token.text.toList then .error .tooLarge else .error .invalid := by
  rcases TokenKind.ofWord_cases token.text.toList with own | ⟨value, own⟩ | ⟨value, own⟩ |
    ⟨value, own⟩
  all_goals rw [ofToken, kind.trans own]
  · rfl
  · rfl
  · exact (if_pos (Int.natCast_nonneg _)).symm
  · rfl

/-- A number is an index up to 16 bits. -/
theorem ofNat?_eq_ok_iff {value : Nat} {index : UInt16} :
    ofNat? value = .ok index ↔ value = index.toNat := by
  have limit : UInt16.size = 65536 := rfl
  have below := index.toNat_lt
  unfold ofNat?
  split
  · rename_i small
    rw [Except.ok.injEq]
    constructor
    · rintro rfl
      exact (UInt16.toNat_ofNat_of_lt' small).symm
    · rintro rfl
      exact UInt16.ofNat_toNat
  · constructor
    · intro accepted
      cases accepted
    · omega

/-- A number is too large from 17 bits on. -/
theorem ofNat?_eq_tooLarge_iff {value : Nat} : ofNat? value = .error .tooLarge ↔ 65535 < value := by
  have limit : UInt16.size = 65536 := rfl
  unfold ofNat?
  split
  · simp
    omega
  · simp
    omega

/-- Oversized words look like unsigned integers. -/
theorem IsOversized.isUnsignedLiteral {word : List Char} (oversized : IsOversized word) :
    Indices.isUnsignedLiteral word = true := by
  refine isUnsignedLiteral_iff.mpr ?_
  cases oversized with
  | decimal literal large => exact .inl ⟨_, literal⟩
  | hexadecimal literal large => exact .inr ⟨_, _, literal, .inl rfl⟩
  | signedHexadecimal literal signed => exact .inr ⟨_, _, literal, .inr signed⟩

/-- The integer value of an oversized word, if it has one, has more than 16 bits. -/
theorem IsOversized.integerValue?_large {word : List Char} (oversized : IsOversized word)
    {value : Int} (found : (TokenKind.ofWord word).integerValue? = some value) : 65535 < value := by
  rcases TokenKind.integerValue?_ofWord_eq_some_iff.mp found with
    ⟨natural, rfl, -, hexadecimal⟩ | ⟨-, integer⟩
  · cases oversized with
    | decimal literal large =>
      exact absurd literal.isIntegerLiteral.isDecimalLiteral hexadecimal.not_isDecimalLiteral
    | hexadecimal literal large =>
      obtain rfl := literal.unique hexadecimal
      omega
    | signedHexadecimal literal signed =>
      obtain ⟨_, _, -, split, -⟩ := hexadecimal
      cases signed.symm.trans split
  · cases oversized with
    | decimal literal large =>
      obtain rfl := literal.isIntegerLiteral.unique integer
      omega
    | hexadecimal literal large =>
      exact absurd integer.isDecimalLiteral literal.not_isDecimalLiteral
    | signedHexadecimal literal signed =>
      obtain ⟨mark, digits, marks, rfl, -⟩ := literal
      have among := integer.isDecimalLiteral.characters mark (by simp [signed])
      rcases marks with rfl | rfl <;> exact absurd among (by decide)

/-- What looks like an unsigned integer and has no integer value is oversized. -/
theorem isOversized_of_isUnsignedLiteral {word : List Char}
    (looks : isUnsignedLiteral word = true)
    (without : (TokenKind.ofWord word).integerValue? = none) : IsOversized word := by
  have large {value : Nat} (literal : IsHexLiteral word value ∨ IsIntegerLiteral word value) :
      65535 < value := by
    by_contra small
    have found := TokenKind.integerValue?_ofWord_of_literal literal (by omega)
    cases found.symm.trans without
  rcases isUnsignedLiteral_iff.mp looks with
    ⟨value, literal⟩ | ⟨digits, value, literal, rfl | signed⟩
  · exact .decimal literal (large (.inr literal.isIntegerLiteral))
  · exact .hexadecimal literal (large (.inl literal))
  · exact .signedHexadecimal literal signed

section Word

variable {token : Token} (kind : token.kind = .ofWord token.text.toList)

include kind

/-- A word is read as the index that it writes. -/
theorem ofToken_eq_ok_iff {index : UInt16} : ofToken token = .ok index ↔ IsIndex token index := by
  have below := index.toNat_lt
  rw [ofToken_of_word kind, kind]
  constructor
  · intro accepted
    split at accepted
    · rename_i value found
      split at accepted
      · have same := ofNat?_eq_ok_iff.mp accepted
        obtain rfl : value = index.toNat := by omega
        rcases TokenKind.integerValue?_ofWord_eq_some_iff.mp found with
          ⟨natural, same, -, literal⟩ | ⟨-, literal⟩
        · obtain rfl := Int.ofNat.inj same
          exact .inl literal
        · exact .inr literal
      · cases accepted
    · split at accepted <;> cases accepted
  · intro literal
    have found := TokenKind.integerValue?_ofWord_of_literal literal (by omega)
    simp only [found]
    rw [if_pos (Int.natCast_nonneg _), Int.toNat_natCast]
    exact ofNat?_eq_ok_iff.mpr rfl

/-- A word is blamed for its size if it is oversized. -/
theorem ofToken_eq_tooLarge_iff :
    ofToken token = .error .tooLarge ↔ IsOversized token.text.toList := by
  rw [ofToken_of_word kind, kind]
  constructor
  · intro refused
    split at refused
    · rename_i value found
      split at refused
      · rename_i positive
        have large := ofNat?_eq_tooLarge_iff.mp refused
        obtain ⟨natural, rfl⟩ := Int.eq_ofNat_of_zero_le positive
        rw [Int.toNat_natCast] at large
        rcases TokenKind.integerValue?_ofWord_eq_some_iff.mp found with
          ⟨other, same, -, literal⟩ | ⟨-, literal⟩
        · obtain rfl := Int.ofNat.inj same
          exact .hexadecimal literal large
        · exact .decimal (literal.isUnsignedLiteral (by omega)) large
      · cases refused
    · rename_i without
      split at refused
      · rename_i looks
        exact isOversized_of_isUnsignedLiteral looks without
      · cases refused
  · intro oversized
    split
    · rename_i value found
      have large := oversized.integerValue?_large found
      rw [if_pos (by omega)]
      exact ofNat?_eq_tooLarge_iff.mpr (by omega)
    · exact if_pos oversized.isUnsignedLiteral

end Word

/-- An index is written as a word. -/
theorem IsIndex.isWord {token : Token} {index : UInt16} (literal : IsIndex token index) :
    IsWord token.text :=
  literal.elim IsHexLiteral.isWord IsIntegerLiteral.isWord

/-- What is blamed for its size is a word. -/
theorem IsOversized.isWord {text : String} (oversized : IsOversized text.toList) : IsWord text := by
  cases oversized with
  | decimal literal large => exact literal.isWord
  | hexadecimal literal large => exact literal.isWord
  | signedHexadecimal literal signed =>
    refine ⟨?_, ?_⟩ <;> rw [signed]
    · exact List.cons_ne_nil _ _
    · exact List.forall_mem_cons.mpr ⟨by decide, fun _ => literal.isSeparator_eq_false⟩

end Indices

namespace Cursor

/-- A token is the next one of a cursor. -/
theorem exists_next_of_mem_tokens {cursor : Cursor} {token : Token}
    (listed : token ∈ cursor.tokens) : ∃ place : Cursor, place.next.1 = token := by
  induction cursor using tokens_induction with
  | last cursor final =>
    rw [tokens_of_endOfData final, List.mem_singleton] at listed
    exact ⟨cursor, listed.symm⟩
  | more cursor going ih =>
    rw [tokens_of_ne_endOfData going] at listed
    rcases List.mem_cons.mp listed with rfl | later
    · exact ⟨cursor, rfl⟩
    · exact ih later

/-- The text of an end, a bracket or a percent sign is no word. -/
theorem not_isWord_of_isMark {cursor : Cursor} {token : Token} (listed : token ∈ cursor.tokens)
    (mark : token.kind.isMark = true) : ¬ IsWord token.text := by
  obtain ⟨place, rfl⟩ := exists_next_of_mem_tokens listed
  rcases place.next_cases with ⟨_, step⟩ | ⟨_, _, step⟩ | ⟨_, _, _, among, _, step⟩ |
    ⟨word, _, _, _, _, step⟩
  · rw [step]
    exact (by decide : ¬ IsWord "")
  · rw [step]
    exact (by decide : ¬ IsWord "\n")
  · rw [step]
    simp only [List.mem_cons, Prod.mk.injEq, List.not_mem_nil, or_false] at among
    rcases among with ⟨-, rfl⟩ | ⟨-, rfl⟩ | ⟨-, rfl⟩
    · exact (by decide : ¬ IsWord "(")
    · exact (by decide : ¬ IsWord ")")
    · exact (by decide : ¬ IsWord "%")
  · rw [step] at mark
    rcases TokenKind.ofWord_cases word with kind | ⟨_, kind⟩ | ⟨_, kind⟩ | ⟨_, kind⟩ <;>
      · rw [kind] at mark
        cases mark

end Cursor

namespace Indices

/-- The tokens of a text but the line ends. -/
def tokensOf (text : String) (firstLine : Nat) : List Token :=
  (Cursor.ofText text firstLine).tokens.filter fun token => !token.kind.isEnd

variable {text : String} {firstLine : Nat}

/-- A token of a text is read as the index that it writes, and is blamed for its size if it is
oversized. -/
theorem ofToken_iff_of_mem {token : Token} (kept : token ∈ tokensOf text firstLine) :
    (∀ index, ofToken token = .ok index ↔ IsIndex token index) ∧
      (ofToken token = .error .tooLarge ↔ IsOversized token.text.toList) := by
  obtain ⟨listed, inner⟩ := List.mem_filter.mp kept
  rcases Cursor.isMark_or_isWord_of_mem_tokens listed with mark | ⟨-, kind⟩
  · have noWord := Cursor.not_isWord_of_isMark listed mark
    have refused : ofToken token = .error .invalid := by
      unfold ofToken
      cases kind : token.kind <;> simp_all [TokenKind.isMark, TokenKind.isEnd]
    rw [refused]
    refine ⟨fun index => ⟨nofun, fun literal => absurd literal.isWord noWord⟩, nofun, ?_⟩
    exact fun oversized => absurd oversized.isWord noWord
  · exact ⟨fun _ => ofToken_eq_ok_iff kind, ofToken_eq_tooLarge_iff kind⟩

/-- A token is read as an index without its line. -/
theorem read_eq_ok_iff {token : Token} {index : UInt16} :
    read token = .ok index ↔ ofToken token = .ok index := by
  rw [read]
  cases ofToken token <;> simp [Except.mapError]

/-- A token is refused at its line. -/
theorem read_eq_error_iff {token : Token} {failure : Located Error} :
    read token = .error failure ↔
      ∃ cause, ofToken token = .error cause ∧ failure = ⟨token.line, cause⟩ := by
  rw [read]
  cases ofToken token <;> simp [Except.mapError, eq_comm]

/-- A body is accepted if all its tokens are indices. -/
theorem parse_eq_ok_iff {indices : List UInt16} :
    parse text firstLine = .ok indices ↔
      List.Forall₂ IsIndex (tokensOf text firstLine) indices := by
  have each (token : Token) (kept : token ∈ tokensOf text firstLine) (index : UInt16) :
      read token = .ok index ↔ IsIndex token index :=
    read_eq_ok_iff.trans ((ofToken_iff_of_mem kept).1 index)
  rw [parse, ← tokensOf, mapM_eq_ok_iff]
  constructor
  · intro all
    refine ((List.forall₂_and_left _ _).mpr ⟨each, all⟩).imp fun token index ⟨own, accepted⟩ => ?_
    exact (own index).mp accepted
  · intro all
    refine ((List.forall₂_and_left _ _).mpr ⟨each, all⟩).imp fun token index ⟨own, literal⟩ => ?_
    exact (own index).mpr literal

/-- A body is refused at the first token that is no index, as too large if that is oversized. -/
theorem parse_eq_error_iff {failure : Located Error} :
    parse text firstLine = .error failure ↔
      ∃ before token after, tokensOf text firstLine = before ++ token :: after ∧
        (∀ other ∈ before, ∃ index, IsIndex other index) ∧ (∀ index, ¬ IsIndex token index) ∧
        failure.line = token.line ∧
        (failure.cause = .tooLarge ↔ IsOversized token.text.toList) := by
  rw [parse, ← tokensOf, mapM_eq_error_iff]
  refine exists_congr fun before => exists_congr fun token => exists_congr fun after => ?_
  refine and_congr_right fun split => ?_
  have each (other : Token) (listed : other ∈ before ++ token :: after) :
      (∀ index, ofToken other = .ok index ↔ IsIndex other index) ∧
        (ofToken other = .error .tooLarge ↔ IsOversized other.text.toList) := by
    rw [← split] at listed
    exact ofToken_iff_of_mem listed
  obtain ⟨accepts, oversized⟩ := each token (List.mem_append_right _ List.mem_cons_self)
  refine and_congr ?_ ?_
  · refine forall₂_congr fun other listed => exists_congr fun index => ?_
    exact read_eq_ok_iff.trans ((each other (List.mem_append_left _ listed)).1 index)
  · rw [read_eq_error_iff]
    simp only [← accepts, ← oversized]
    obtain ⟨line, cause⟩ := failure
    cases ofToken token with
    | ok index => simp
    | error own => cases cause <;> cases own <;> simp

/-- A body has a node if it is accepted with at least one index. -/
theorem readIndices_eq_ok_iff {node? : Option Node} :
    Node.readIndices text firstLine = .ok node? ↔
      ∃ indices, parse text firstLine = .ok indices ∧
        node? = if indices.isEmpty then none else some (.indices indices) := by
  rw [Node.readIndices]
  cases parse text firstLine with
  | error failure => simp
  | ok indices =>
    simp only [Except.ok.injEq, exists_eq_left']
    exact eq_comm

/-- The line and the cause of the error are those of the body. -/
theorem readIndices_eq_error_iff {error : ScriptError} :
    Node.readIndices text firstLine = .error error ↔
      ∃ failure, parse text firstLine = .error failure ∧
        error = .line ⟨failure.line, .index failure.cause⟩ := by
  rw [Node.readIndices]
  cases parse text firstLine with
  | error failure =>
    constructor
    · rintro ⟨⟩
      exact ⟨failure, rfl, rfl⟩
    · rintro ⟨_, ⟨⟩, rfl⟩
      rfl
  | ok indices => exact ⟨nofun, nofun⟩

/-- The two messages tell the causes apart. -/
theorem Error.message_eq_iff (cause : Error) :
    (cause.message = "Value too large in indices block" ↔ cause = .tooLarge) ∧
      (cause.message = "Invalid value in indices block" ↔ cause ≠ .tooLarge) := by
  cases cause <;> decide

/-- A body of an index section is accepted if every token but the line ends is an index, and then
its node has the indices of the tokens in order; there is no node without indices. Otherwise it is
refused at the line of the first token that is none, as too large if the token is oversized and as
invalid if it is not. -/
theorem readIndices_iff_literals (text : String) (firstLine : Nat) :
    (∀ node?, Node.readIndices text firstLine = .ok node? ↔
      ∃ indices, List.Forall₂ IsIndex (tokensOf text firstLine) indices ∧
        node? = if indices.isEmpty then none else some (.indices indices)) ∧
    ∀ error, Node.readIndices text firstLine = .error error ↔
      ∃ before token after, tokensOf text firstLine = before ++ token :: after ∧
        (∀ other ∈ before, ∃ index, IsIndex other index) ∧ (∀ index, ¬ IsIndex token index) ∧
        ∃ cause, error = .line ⟨token.line, .index cause⟩ ∧
          (error.message = "Value too large in indices block" ↔
            IsOversized token.text.toList) ∧
          (error.message = "Invalid value in indices block" ↔
            ¬ IsOversized token.text.toList) := by
  constructor
  · intro node?
    simp only [← parse_eq_ok_iff, readIndices_eq_ok_iff]
  · intro error
    rw [readIndices_eq_error_iff]
    constructor
    · rintro ⟨failure, refused, rfl⟩
      obtain ⟨before, token, after, split, clean, none_, line, size⟩ :=
        parse_eq_error_iff.mp refused
      obtain ⟨large, invalid⟩ := failure.cause.message_eq_iff
      exact ⟨before, token, after, split, clean, none_, failure.cause, line ▸ rfl,
        large.trans size, invalid.trans (not_congr size)⟩
    · rintro ⟨before, token, after, split, clean, none_, cause, rfl, size, -⟩
      refine ⟨⟨token.line, cause⟩, parse_eq_error_iff.mpr ?_, rfl⟩
      exact ⟨before, token, after, split, clean, none_, rfl, cause.message_eq_iff.1.symm.trans size⟩

/-- A hexadecimal five behind a plus sign is blamed for its size, although it is neither a decimal
nor a hexadecimal literal, of any value. -/
theorem readIndices_iff_literals_plusFive :
    (∃ error, Node.readIndices "+0x5\n" 1 = .error error ∧
      error.message = "Value too large in indices block") ∧
    ∀ value, ¬ IsUnsignedLiteral 10 "+0x5".toList value ∧ ¬ IsHexLiteral "+0x5".toList value := by
  refine ⟨⟨.line ⟨1, .index .tooLarge⟩, by decide +kernel, rfl⟩, fun value => ⟨?_, ?_⟩⟩
  · -- The mark is no decimal digit, with the sign or without it.
    rintro ⟨sign, digits, signs, split, denotes⟩
    have mark : 'x' ∈ digits := by
      rcases signs with rfl | rfl
      · rw [List.nil_append] at split
        rw [← split]
        decide
      · rw [List.singleton_append] at split
        rw [← (List.cons.inj split).2]
        decide
    exact absurd (isDigit_of_denotes denotes 'x' mark) (by decide)
  · rintro ⟨mark, digits, -, split, -⟩
    cases split

end Indices

end GpuScript
