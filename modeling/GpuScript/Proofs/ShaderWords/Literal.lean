import GpuScript.Proofs.Text.Words
import GpuScript.Proofs.Token.Unplaced
import GpuScript.Proofs.Token.Unsigned
import GpuScript.ShaderWords

/-!
# The words of a shader as literals

A word of a shader stands for a value if it writes it in hexadecimal, behind a mark or none, and
behind a plus sign or none (`ShaderWords.value?_eq_some_iff`). The tokens of a script have
hexadecimal integers as well, with a mark and without a sign. On a word with a mark the two agree
but for the plus sign, which no token takes (`ShaderWords.parse_eq_ok_iff_hexToken`).
-/

namespace GpuScript

open Text

namespace ShaderWords

/-- What may stand in front of hexadecimal digits: `0x` in either case, or nothing. -/
def IsMark (mark : List Char) : Prop :=
  mark = [] ∨ mark = ['0', 'x'] ∨ mark = ['0', 'X']

/-- A word encodes a value: a mark or none, and hexadecimal digits in either case, with any number
of zeros in front. -/
def Encodes (word : List Char) (value : UInt32) : Prop :=
  ∃ mark digits, IsMark mark ∧ word = mark ++ digits ∧ Denotes 16 digits value.toNat

/-- A word stands for a value: a mark or none, a plus sign or none, and hexadecimal digits. -/
def StandsFor (word : List Char) (value : UInt32) : Prop :=
  ∃ mark literal, IsMark mark ∧ word = mark ++ literal ∧ IsUnsignedLiteral 16 literal value.toNat

/-- A word stands for the value that it encodes. -/
theorem Encodes.standsFor {word : List Char} {value : UInt32} (encodes : Encodes word value) :
    StandsFor word value := by
  obtain ⟨mark, digits, marks, split, denotes⟩ := encodes
  exact ⟨mark, digits, marks, split, isUnsignedLiteral_iff_denotes.mpr (.inl denotes)⟩

/-- Behind a mark the value is that of what follows. -/
theorem value?_of_mark {mark : Char} (marks : mark = 'x' ∨ mark = 'X') (digits : List Char) :
    value? ('0' :: mark :: digits) = hexWord32? digits := by
  rcases marks with rfl | rfl <;> rfl

/-- The value of a word is the one that it stands for. -/
theorem value?_eq_some_iff {word : List Char} {value : UInt32} :
    value? word = some value ↔ StandsFor word value := by
  constructor
  · intro found
    unfold value? at found
    split at found
    · exact ⟨['0', 'x'], _, .inr (.inl rfl), rfl, hexWord32?_eq_some_iff.mp found⟩
    · exact ⟨['0', 'X'], _, .inr (.inr rfl), rfl, hexWord32?_eq_some_iff.mp found⟩
    · exact ⟨[], _, .inl rfl, rfl, hexWord32?_eq_some_iff.mp found⟩
  · rintro ⟨mark, literal, rfl | rfl | rfl, rfl, written⟩
    · unfold value?
      split
      · exact absurd written (IsUnsignedLiteral.not_hexMark (.inl rfl))
      · exact absurd written (IsUnsignedLiteral.not_hexMark (.inr rfl))
      · exact hexWord32?_eq_some_iff.mpr written
    · exact hexWord32?_eq_some_iff.mpr written
    · exact hexWord32?_eq_some_iff.mpr written

/-- A word is read as its value, and is the cause if it has none. -/
theorem read_eq_ok_iff {line : Nat} {word : List Char} {value : UInt32} :
    read line word = .ok value ↔ StandsFor word value := by
  rw [← value?_eq_some_iff, read]
  cases value? word <;> simp

/-- A word that stands for no value is refused with its line. -/
theorem read_eq_error_iff {line : Nat} {word : List Char} {error : Located String} :
    read line word = .error error ↔
      (¬ ∃ value, StandsFor word value) ∧ error = ⟨line, String.ofList word⟩ := by
  simp only [← value?_eq_some_iff, read]
  cases value? word <;> simp [eq_comm]

/-- A text that is a single word is read as this word. -/
theorem parse_of_isWord {word : String} (clean : IsWord word) (line : Nat) :
    parse word line = (read line word.toList).map fun value => [value] := by
  have other {character mark : Char} (listed : character ∈ word.toList)
      (separates : isSeparator mark = true) : character ≠ mark := by
    rintro rfl
    rw [clean.plain character listed] at separates
    cases separates
  have open_ : '\n' ∉ word.toList := fun listed => other listed isSeparator_newline rfl
  have whole : beforeComment word.toList = word.toList :=
    List.takeWhile_eq_self_iff.mpr fun character listed => by
      simpa using other listed (by decide : isSeparator '#' = true)
  have plain : ∀ character ∈ word.toList, isBlank character = false := by
    intro character listed
    have separates := clean.plain character listed
    simp only [isSeparator, Bool.or_eq_false_iff] at separates
    exact separates.1.1.1.1.1
  have nothing : OpensBlank [] := fun _ found => by cases found
  have single := words_append clean.nonempty plain nothing
  rw [List.append_nil, words_nil] at single
  rw [parse, physicalLines_of_open clean.nonempty open_, readLines, whole, single, readLines]
  cases own : read line word.toList <;> simp [own, Except.map, bind, Except.bind, pure, Except.pure]

end ShaderWords

/-- Alone, a text is the token of a hexadecimal integer, wherever it stands. -/
def IsHexToken (text : String) (value : Nat) : Prop :=
  ∃ word : UInt64, word.toNat = value ∧
    ∀ line, (Cursor.ofText text line).tokens.map Token.kind = [.hex word, .endOfData]

/-- Alone, a word is its token and the end of data. -/
theorem kinds_of_isWord {word : String} (clean : IsWord word) (line : Nat) :
    (Cursor.ofText word line).tokens.map Token.kind = [.ofWord word.toList, .endOfData] := by
  have first := Cursor.tokens_word clean endsWord_nil
  rw [List.append_nil, Cursor.tokens_nil] at first
  have same := congrArg (List.map Token.kind) (Cursor.map_unplaced_tokens word.toList line 1)
  rw [List.map_map, List.map_map, first] at same
  exact same

/-- A word is a hexadecimal token where a hexadecimal literal in range is written. -/
theorem isHexToken_iff {word : String} (clean : IsWord word) {value : Nat}
    (below : value < 2 ^ 64) :
    IsHexToken word value ↔ IsHexLiteral word.toList value := by
  simp only [IsHexToken, kinds_of_isWord clean, List.cons.injEq, and_true, forall_const,
    TokenKind.ofWord_eq_hex_iff]
  constructor
  · rintro ⟨found, rfl, literal⟩
    exact literal
  · intro literal
    have same := UInt64.toNat_ofNat_of_lt' below
    exact ⟨UInt64.ofNat value, same, same.symm ▸ literal⟩

/-- With a plus sign behind its mark a word is no number. -/
theorem TokenKind.ofWord_of_plus {mark : Char} (marks : mark = 'x' ∨ mark = 'X')
    (rest : List Char) : ofWord ('0' :: mark :: '+' :: rest) = .word := by
  have found : hexDigits? ('0' :: mark :: '+' :: rest) = some ('+' :: rest) :=
    hexDigits?_eq_some_iff.mpr ⟨mark, marks, rfl⟩
  have sign : digitValue? 16 '+' = none := by decide
  simp [ofWord, found, natural?, continueNatural?, sign]

/-- Digits behind a mark are those of a hexadecimal literal. -/
theorem isHexLiteral_iff {mark : Char} (marks : mark = 'x' ∨ mark = 'X') {digits : List Char}
    {value : Nat} : IsHexLiteral ('0' :: mark :: digits) value ↔ Denotes 16 digits value := by
  constructor
  · rintro ⟨_, _, -, split, denotes⟩
    obtain ⟨-, split⟩ := List.cons.inj split
    obtain ⟨-, rfl⟩ := List.cons.inj split
    exact denotes
  · exact fun denotes => ⟨mark, digits, marks, rfl, denotes⟩

namespace ShaderWords

/-- A word with a mark is read as a value where its token is the hexadecimal integer of this value,
and where a plus sign stands behind the mark without which this would be so. With the plus sign the
token is no number. -/
theorem parse_eq_ok_iff_hexToken {word : String} {mark : Char} {digits : List Char}
    (plain : ∀ character ∈ word.toList, isSeparator character = false)
    (marks : mark = 'x' ∨ mark = 'X') (split : word.toList = '0' :: mark :: digits)
    (line : Nat) (value : UInt32) :
    parse word line = .ok [value] ↔
      IsHexToken word value.toNat ∨
        ∃ rest, digits = '+' :: rest ∧
          (∀ line, (Cursor.ofText word line).tokens.map Token.kind = [.word, .endOfData]) ∧
          IsHexToken (String.ofList ('0' :: mark :: rest)) value.toNat := by
  have clean : IsWord word := ⟨by simp [split], plain⟩
  have below : value.toNat < 2 ^ 64 := Nat.lt_trans value.toNat_lt (by decide)
  have single : parse word line = .ok [value] ↔ read line word.toList = .ok value := by
    rw [parse_of_isWord clean]
    cases read line word.toList <;> simp [Except.map]
  have written : parse word line = .ok [value] ↔ IsUnsignedLiteral 16 digits value.toNat := by
    rw [single, read_eq_ok_iff, ← value?_eq_some_iff, split, value?_of_mark marks,
      hexWord32?_eq_some_iff]
  rw [written, isUnsignedLiteral_iff_denotes, isHexToken_iff clean below, split,
    isHexLiteral_iff marks]
  refine or_congr Iff.rfl (exists_congr fun rest => and_congr_right fun signed => ?_)
  subst signed
  have other : IsWord (String.ofList ('0' :: mark :: rest)) := by
    refine ⟨by simp, fun character listed => plain character ?_⟩
    rw [String.toList_ofList] at listed
    rw [split]
    simp only [List.mem_cons] at listed ⊢
    tauto
  rw [isHexToken_iff other below, String.toList_ofList, isHexLiteral_iff marks]
  simp only [kinds_of_isWord clean, split, TokenKind.ofWord_of_plus marks, forall_const, true_and]

/-- The five behind a mark and a plus sign, which is read as a value and is no number as a token. -/
theorem parse_eq_ok_iff_hexToken_plusFive :
    (∀ character ∈ "0x+5".toList, isSeparator character = false) ∧ ('x' = 'x' ∨ 'x' = 'X') ∧
      "0x+5".toList = ['0', 'x', '+', '5'] ∧ parse "0x+5" 1 = .ok [5] ∧
      ¬ IsHexToken "0x+5" 5 := by
  have plain := isPlain_iff.mp (by decide : isPlain "0x+5".toList = true)
  have kinds (line : Nat) :
      (Cursor.ofText "0x+5" line).tokens.map Token.kind = [.word, .endOfData] := by
    rw [kinds_of_isWord (by decide)]
    exact congrArg (fun kind => [kind, .endOfData]) (TokenKind.ofWord_of_plus (.inl rfl) ['5'])
  have five : IsHexToken "0x5" 5 :=
    (isHexToken_iff (by decide) (by decide)).mpr
      ((isHexLiteral_iff (.inl rfl)).mpr (natural?_eq_some_iff.mp rfl))
  refine ⟨plain, .inl rfl, rfl, ?_, ?_⟩
  · exact (parse_eq_ok_iff_hexToken plain (.inl rfl) rfl 1 5).mpr
      (.inr ⟨['5'], rfl, kinds, five⟩)
  · rintro ⟨word, -, hex⟩
    have same := (kinds 1).symm.trans (hex 1)
    cases same

end ShaderWords

end GpuScript
