import GpuScript.Command.Operand
import GpuScript.Operation.Printer
import GpuScript.Proofs.Token.Numeral
import GpuScript.Proofs.Token.Words

/-!
# Operands read back

Every operand is written as a word. An unsigned word and a binding always read back as themselves;
of a floating-point number and of a value this does not hold, only that it is written as one word,
so that what its text reads as alone is what it reads as in a line.
-/

namespace GpuScript

open Text

/-- A digit separates nothing. -/
theorem isSeparator_of_isDigit {character : Char} (digit : isDigit character = true) :
    isSeparator character = false := by
  have range := (isDigit_iff character).mp digit
  cases separates : isSeparator character with
  | false => rfl
  | true =>
    simp only [isSeparator, Bool.or_eq_true, beq_iff_eq] at separates
    rcases separates with ((((blank | rfl) | rfl) | rfl) | rfl) | rfl
    · simp [isBlank, blankCodes] at blank
      omega
    all_goals exact absurd digit (by decide)

/-- A digit is not the colon of a binding. -/
theorem ne_colon_of_isDigit {character : Char} (digit : isDigit character = true) :
    character ≠ ':' := by
  rintro rfl
  exact absurd digit (by decide)

/-- Digits separate nothing. -/
theorem isSeparator_of_mem_decimalDigits {value : Nat} {character : Char}
    (listed : character ∈ decimalDigits value) : isSeparator character = false :=
  isSeparator_of_isDigit (isDigit_of_mem_decimalDigits listed)

/-- A natural number is written as a word. -/
theorem isWord_decimalText (value : Nat) : IsWord (decimalText value) := by
  refine ⟨?_, ?_⟩ <;> rw [decimalText, String.toList_ofList]
  · exact Nat.toDigits_ne_nil
  · exact fun _ => isSeparator_of_mem_decimalDigits

/-- A word goes on with characters that separate nothing. -/
theorem IsWord.append {first second : String} (clean : IsWord second)
    (plain : ∀ character ∈ first.toList, isSeparator character = false) :
    IsWord (first ++ second) := by
  refine ⟨?_, ?_⟩ <;> rw [String.toList_append]
  · simp [clean.nonempty]
  · exact List.forall_mem_append.mpr ⟨plain, clean.plain⟩

/-- An integer is written as a word. -/
theorem isWord_integerText (value : Int) : IsWord (integerText value) := by
  unfold integerText
  split
  · exact (isWord_decimalText _).append (isPlain_iff.mp (by decide))
  · exact isWord_decimalText _

/-- An unsigned word is written as a word. -/
@[simp]
theorem isWord_wordText (value : UInt32) : IsWord (wordText value) :=
  isWord_decimalText _

/-- A binding is written as a word. -/
@[simp]
theorem isWord_bindingText (binding : Binding) : IsWord binding.text := by
  unfold Binding.text
  split
  · exact isWord_decimalText _
  · have set := (isWord_decimalText binding.set.toNat).plain
    refine (isWord_decimalText binding.index.toNat).append ?_
    rw [String.toList_append]
    exact List.forall_mem_append.mpr ⟨set, isPlain_iff.mp (by decide)⟩

namespace Binary

/-- Digits are written in positional notation with characters that separate nothing. -/
theorem isSeparator_of_mem_positional {digits : List Char} {place : Int}
    (plain : ∀ digit ∈ digits, isSeparator digit = false) {character : Char}
    (listed : character ∈ positional digits place) : isSeparator character = false := by
  rcases mem_positional listed with own | rfl | rfl
  · exact plain character own
  · decide
  · decide

/-- A magnitude is written as a word. -/
theorem isWord_magnitudeDigits (rule : TieRule) (precision : Precision) (rank : Nat) :
    IsWord (String.ofList (magnitudeDigits rule precision rank)) := by
  unfold magnitudeDigits
  split
  · decide
  · refine ⟨?_, ?_⟩ <;> rw [String.toList_ofList]
    · obtain ⟨first, rest, split, _⟩ := exists_positional_cons Nat.toDigits_ne_nil
        (fun _ => isDigit_of_mem_decimalDigits) (shortest rule precision rank).2
      exact fun none => List.cons_ne_nil first rest (split.symm.trans none)
    · exact fun _ => isSeparator_of_mem_positional fun _ => isSeparator_of_mem_decimalDigits

/-- A floating-point number is written as a word. -/
@[simp]
theorem isWord_text {precision : Precision} (number : Binary precision) : IsWord number.text := by
  cases number with
  | finite negative rank =>
    refine (isWord_magnitudeDigits .up precision rank).append (isPlain_iff.mp ?_)
    cases negative <;> decide
  | infinite negative =>
    cases negative
    · exact (by decide : IsWord "inf")
    · exact (by decide : IsWord "-inf")
  | nan => exact (by decide : IsWord "NaN")

end Binary

/-- A value is written as a word. -/
@[simp]
theorem Value.isWord_text (value : Value) : IsWord value.text := by
  cases value with
  | signed width bits => exact isWord_integerText _
  | unsigned width bits => exact isWord_integerText _
  | float precision number => exact number.isWord_text

/-- The token of a small natural number is an integer. -/
theorem TokenKind.ofWord_decimalDigits {value : Nat} (small : value < UInt32.size) :
    ofWord (decimalDigits value) = .integer (Int64.ofInt value) := by
  have written := natural?_decimalDigits value
  have fits : Fits (value : Int) := by
    have limit : UInt32.size = 4294967296 := rfl
    rw [fits_iff]
    omega
  have word := ofWord_signed_of_natural? written false
  exact word.trans (ofDecimalWord_of_fits (integer?_signed written false) fits)

/-- The token of an unsigned word stands for the word. -/
theorem word32?_ofWord_wordText (value : UInt32) :
    (TokenKind.ofWord (wordText value).toList).word32? = some value := by
  have below : value.toNat < UInt32.size := value.toNat_lt
  have same : (Int64.ofInt value.toNat).toInt = value.toNat := by
    have limit : UInt32.size = 4294967296 := rfl
    rw [Int64.toInt_ofInt_of_le] <;> omega
  rw [wordText, decimalText, String.toList_ofList, TokenKind.ofWord_decimalDigits below,
    TokenKind.word32?, TokenKind.integerValue?]
  simp only [same]
  rw [if_pos (by omega)]
  simp

/-- The token of an unsigned word is a number. -/
theorem isSome_toDouble?_ofWord_wordText (value : UInt32) :
    (TokenKind.ofWord (wordText value).toList).toDouble?.isSome = true := by
  rw [wordText, decimalText, String.toList_ofList,
    TokenKind.ofWord_decimalDigits value.toNat_lt]
  rfl

/-- A text with a colon between digits is no number. -/
theorem ofWord_colon {set : List Char} (all : ∀ digit ∈ set, isDigit digit = true)
    (nonempty : set ≠ []) (after : List Char) :
    TokenKind.ofWord (set ++ ':' :: after) = .word := by
  obtain ⟨first, rest, rfl⟩ := List.exists_cons_of_ne_nil nonempty
  obtain ⟨digit, others⟩ := List.forall_mem_cons.mp all
  have colon : isDigit ':' = false := by decide
  have mark : ∀ second later, rest ++ ':' :: after = second :: later →
      second ≠ 'x' ∧ second ≠ 'X' := by
    intro second later same
    cases rest with
    | nil =>
      obtain ⟨rfl, _⟩ := List.cons.inj same
      decide
    | cons own left =>
      obtain ⟨rfl, _⟩ := List.cons.inj same
      exact ne_mark_of_isDigit (others own List.mem_cons_self)
  have sign := splitSign_of_isDigit digit (rest ++ ':' :: after)
  have whole : integer? (first :: (rest ++ ':' :: after)) = none := by
    simp only [integer?, sign]
    rw [natural?_of_not_isDigit (List.mem_cons_of_mem _ (by simp)) colon]
    rfl
  have point : Decimal.splitPoint (first :: (rest ++ ':' :: after)) =
      (first :: rest, [], ':' :: after) := by
    have stops : ∀ mark ∈ (':' :: after).head?, isDigit mark = false ∧ mark ≠ '.' := by
      rintro _ ⟨⟩
      exact ⟨colon, by decide⟩
    rw [← List.cons_append]
    exact Decimal.splitPoint_append (by rwa [List.append_nil]) (.inl ⟨rfl, rfl⟩) stops
  have exponent : Decimal.exponentPart? (':' :: after) = none := by
    rw [Decimal.exponentPart?]
    exact if_neg (by decide)
  have fraction : Decimal.parse? (first :: (rest ++ ':' :: after)) = none := by
    simp only [Decimal.parse?, sign, point, exponent]
    cases natural? 10 (first :: rest ++ []) <;> rfl
  rw [List.cons_append, TokenKind.ofWord_of_isDigit digit mark, TokenKind.ofDecimalWord, whole]
  simp only [Option.filter, fraction]

/-- The token of a binding stands for the binding. -/
theorem bindingOf?_wordToken (binding : Binding) :
    Command.bindingOf? (wordToken binding.text) = some binding := by
  unfold Command.bindingOf? wordToken Binding.text
  by_cases first : binding.set = 0
  · rw [if_pos first]
    split
    · rename_i kind
      have number := isSome_toDouble?_ofWord_wordText binding.index
      simp only at kind
      rw [kind] at number
      cases number
    · rw [word32?_ofWord_wordText, Option.map_some, ← first]
  · have split : (wordText binding.set ++ ":" ++ wordText binding.index).toList =
        decimalDigits binding.set.toNat ++ ':' :: decimalDigits binding.index.toNat := by
      simp [wordText, decimalText]
    have set : ∀ digit ∈ decimalDigits binding.set.toNat, isDigit digit = true :=
      fun _ => isDigit_of_mem_decimalDigits
    have plain : ∀ digit ∈ decimalDigits binding.set.toNat, decide (digit ≠ ':') = true :=
      fun digit listed => decide_eq_true (ne_colon_of_isDigit (set digit listed))
    rw [if_neg first, split, ofWord_colon set Nat.toDigits_ne_nil]
    simp only
    rw [List.dropWhile_append_of_pos plain, List.takeWhile_append_of_pos plain]
    simp [word32?_decimalDigits]

end GpuScript
