import GpuScript.Token.Cursor

/-!
# Steps of a cursor

What a single step of a cursor can do (`Cursor.next_cases`), and what every step keeps: what is
left is a suffix of the text, and the number of the line on which the text ends stays the same,
because the line moves on by exactly the line ends that are passed over.
-/

namespace GpuScript

open Text

/-- No character of a word is a separator. -/
theorem not_isSeparator_of_mem_splitWord {text : List Char} {character : Char}
    (listed : character ∈ (splitWord text).1) : isSeparator character = false := by
  fun_induction splitWord text with
  | case1 => simp at listed
  | case2 => simp at listed
  | case3 first rest plain word others equation ih =>
    rcases List.mem_cons.mp listed with rfl | inner
    · exact (Bool.or_eq_false_iff.mp (Bool.eq_false_iff.mpr plain)).1
    · exact ih (equation ▸ inner)

/-- The line end separates words. -/
theorem isSeparator_newline : isSeparator '\n' = true := by decide

/-- A word does not reach beyond a line end. -/
theorem newline_not_mem_splitWord (text : List Char) : '\n' ∉ (splitWord text).1 := by
  intro listed
  simpa [isSeparator_newline] using not_isSeparator_of_mem_splitWord listed

/-- A word is read as a word or as a number. -/
theorem TokenKind.ofWord_cases (word : List Char) :
    ofWord word = .word ∨ (∃ value, ofWord word = .integer value) ∨
      (∃ value, ofWord word = .hex value) ∨ ∃ value, ofWord word = .double value := by
  unfold ofWord ofDecimalWord
  repeat' split
  all_goals simp

/-- A word does not end a line. -/
theorem TokenKind.isEnd_ofWord (word : List Char) : (ofWord word).isEnd = false := by
  rcases ofWord_cases word with kind | ⟨_, kind⟩ | ⟨_, kind⟩ | ⟨_, kind⟩ <;> rw [kind] <;> rfl

/-- A word is no end. -/
theorem TokenKind.ofWord_ne {kind : TokenKind} (ends : kind.isEnd = true) (word : List Char) :
    ofWord word ≠ kind := by
  rintro rfl
  rw [isEnd_ofWord] at ends
  contradiction

namespace Cursor

/-- The number of the line on which the text at a cursor ends. -/
def lastLine (cursor : Cursor) : Nat :=
  cursor.line + cursor.rest.count '\n'

/-- What is left after a gap is a suffix of the text. -/
theorem skipGap_suffix (text : List Char) (line : Nat) : (skipGap text line).rest <:+ text := by
  fun_induction skipGap text line with
  | case1 => exact List.suffix_refl _
  | case2 rest line ih => exact ih.trans ((List.suffix_cons _ _).trans (List.suffix_cons _ _))
  | case3 rest line ih =>
    exact ih.trans ((List.suffix_cons _ _).trans
      ((List.suffix_cons _ _).trans (List.suffix_cons _ _)))
  | case4 => exact (List.dropWhile_suffix _).trans (List.suffix_cons _ _)
  | case5 character rest line _ _ _ _ ih => exact ih.trans (List.suffix_cons _ _)
  | case6 => exact List.suffix_refl _

/-- A gap keeps the number of the last line. -/
theorem skipGap_lastLine (text : List Char) (line : Nat) :
    (skipGap text line).lastLine = line + text.count '\n' := by
  fun_induction skipGap text line with
  | case1 => rfl
  | case2 rest line ih => rw [ih]; simp; omega
  | case3 rest line ih => rw [ih]; simp; omega
  | case4 rest line =>
    have comment : (rest.takeWhile (· ≠ '\n')).count '\n' = 0 := by
      refine List.count_eq_zero.mpr fun listed => ?_
      simpa using List.all_eq_true.mp List.all_takeWhile _ listed
    have whole := congrArg (List.count '\n') (List.takeWhile_append_dropWhile
      (p := fun character => decide (character ≠ '\n')) (l := rest))
    rw [List.count_append, comment] at whole
    simp only [lastLine, List.count_cons]
    simp at whole ⊢
    exact whole
  | case5 character rest line _ _ _ blank ih => rw [ih]; simp [blank.1]
  | case6 => rfl

/-- A character that separates nothing opens a word. -/
theorem cut_of_plain {character : Char} (plain : isSeparator character = false)
    (rest : List Char) (line : Nat) :
    cut ⟨character :: rest, line⟩ =
      (⟨.ofWord (splitWord (character :: rest)).1,
        String.ofList (splitWord (character :: rest)).1, line⟩,
        ⟨(splitWord (character :: rest)).2, line⟩) := by
  unfold cut
  split
  · simp_all
  · simp_all [isSeparator_newline]
  · simp_all [show isSeparator '(' = true by decide]
  · simp_all [show isSeparator ')' = true by decide]
  · simp_all [show isSeparator '%' = true by decide]
  · rfl

/-- What one step of a cursor can do. After the gap there is nothing left, or a line end, a
bracket or a percent sign is cut off, or a word without separators. -/
theorem next_cases (cursor : Cursor) :
    let gap := skipGap cursor.rest cursor.line
    (gap.rest = [] ∧ cursor.next = (⟨.endOfData, "", gap.line⟩, gap)) ∨
    (∃ rest, gap.rest = '\n' :: rest ∧
      cursor.next = (⟨.endOfLine, "\n", gap.line⟩, ⟨rest, gap.line + 1⟩)) ∨
    (∃ kind character rest,
      (kind, character) ∈ [(TokenKind.openBracket, '('), (.closeBracket, ')'), (.percent, '%')] ∧
      gap.rest = character :: rest ∧
      cursor.next = (⟨kind, String.singleton character, gap.line⟩, ⟨rest, gap.line⟩)) ∨
    (∃ word rest, word ≠ [] ∧ splitWord gap.rest = (word, rest) ∧ gap.rest = word ++ rest ∧
      cursor.next = (⟨.ofWord word, String.ofList word, gap.line⟩, ⟨rest, gap.line⟩)) := by
  have head := @skipGap_head cursor.rest cursor.line
  intro gap
  change ∀ {character rest}, gap.rest = character :: rest → _ at head
  have step : cursor.next = gap.cut := rfl
  rw [step]
  generalize gap = gap at head ⊢
  obtain ⟨text, line⟩ := gap
  cases text with
  | nil => exact Or.inl ⟨rfl, rfl⟩
  | cons character rest =>
    right
    rcases head rfl with rfl | rfl | rfl | rfl | plain
    · exact Or.inl ⟨rest, rfl, rfl⟩
    · exact Or.inr (Or.inl ⟨.openBracket, '(', rest, by simp, rfl, rfl⟩)
    · exact Or.inr (Or.inl ⟨.closeBracket, ')', rest, by simp, rfl, rfl⟩)
    · exact Or.inr (Or.inl ⟨.percent, '%', rest, by simp, rfl, rfl⟩)
    · refine Or.inr (Or.inr ⟨character :: (splitWord rest).1, (splitWord rest).2, by simp, ?_, ?_,
        ?_⟩)
      · rw [splitWord, if_neg (by simp [plain])]
      · rw [List.cons_append, splitWord_append]
      · rw [cut_of_plain (Bool.or_eq_false_iff.mp plain).1, splitWord, if_neg (by simp [plain])]

/-- What is left after a step is a suffix of what is left after the gap. -/
theorem next_suffix_skipGap (cursor : Cursor) :
    cursor.next.2.rest <:+ (skipGap cursor.rest cursor.line).rest := by
  rcases cursor.next_cases with ⟨_, step⟩ | ⟨rest, opens, step⟩ |
    ⟨kind, character, rest, _, opens, step⟩ | ⟨word, rest, _, _, opens, step⟩
  · have left := congrArg (fun result => result.2.rest) step
    exact left ▸ List.suffix_refl _
  · rw [step, opens]
    exact List.suffix_cons _ _
  · rw [step, opens]
    exact List.suffix_cons _ _
  · rw [step, opens]
    exact List.suffix_append _ _

/-- What is left after a step is a suffix of the text. -/
theorem next_suffix (cursor : Cursor) : cursor.next.2.rest <:+ cursor.rest :=
  cursor.next_suffix_skipGap.trans (skipGap_suffix _ _)

/-- A step keeps the number of the last line. -/
theorem next_lastLine (cursor : Cursor) : cursor.next.2.lastLine = cursor.lastLine := by
  have gap := skipGap_lastLine cursor.rest cursor.line
  rcases cursor.next_cases with ⟨_, step⟩ | ⟨rest, opens, step⟩ |
    ⟨kind, character, rest, listed, opens, step⟩ | ⟨word, rest, _, split, opens, step⟩
  · rw [step]
    exact gap
  · rw [step, lastLine, lastLine, ← gap, lastLine, opens, List.count_cons_self]
    simp only
    omega
  · have mark : character ≠ '\n' := by
      rintro rfl
      simp at listed
    rw [step, lastLine, lastLine, ← gap, lastLine, opens, List.count_cons_of_ne mark]
  · have plain : word.count '\n' = 0 := by
      have absent := newline_not_mem_splitWord (skipGap cursor.rest cursor.line).rest
      rw [split] at absent
      exact List.count_eq_zero.mpr absent
    rw [step, lastLine, lastLine, ← gap, lastLine, opens, List.count_append, plain, Nat.zero_add]

/-- The line of a token is that of what is left after the gap. -/
theorem next_line (cursor : Cursor) :
    cursor.next.1.line = (skipGap cursor.rest cursor.line).line := by
  rcases cursor.next_cases with ⟨_, step⟩ | ⟨_, _, step⟩ | ⟨_, _, _, _, _, step⟩ |
    ⟨_, _, _, _, _, step⟩ <;> rw [step]

/-- The tokens at a cursor with nothing left but a gap. -/
theorem tokens_of_endOfData {cursor : Cursor} (ended : cursor.next.1.kind = .endOfData) :
    cursor.tokens = [cursor.next.1] := by
  rw [tokens, dif_pos ended]

/-- The tokens at a cursor with a token left. -/
theorem tokens_of_ne_endOfData {cursor : Cursor} (going : cursor.next.1.kind ≠ .endOfData) :
    cursor.tokens = cursor.next.1 :: cursor.next.2.tokens := by
  rw [tokens, dif_neg going]

/-- A cursor has tokens. -/
theorem tokens_ne_nil (cursor : Cursor) : cursor.tokens ≠ [] := by
  rw [tokens]
  split <;> simp

/-- The next token decides the tokens. -/
theorem tokens_congr {first second : Cursor} (same : first.next = second.next) :
    first.tokens = second.tokens := by
  by_cases ended : first.next.1.kind = .endOfData
  · rw [tokens_of_endOfData ended, tokens_of_endOfData (same ▸ ended), same]
  · have going : second.next.1.kind ≠ .endOfData := same ▸ ended
    rw [tokens_of_ne_endOfData ended, tokens_of_ne_endOfData going, same]

/-- Induction on the tokens at a cursor. -/
theorem tokens_induction {motive : Cursor → Prop}
    (last : ∀ cursor : Cursor, cursor.next.1.kind = .endOfData → motive cursor)
    (more : ∀ cursor : Cursor, cursor.next.1.kind ≠ .endOfData → motive cursor.next.2 →
      motive cursor) (cursor : Cursor) : motive cursor := by
  by_cases ended : cursor.next.1.kind = .endOfData
  · exact last cursor ended
  · have shorter := length_next_lt cursor ended
    exact more cursor ended (tokens_induction last more cursor.next.2)
termination_by cursor.rest.length

/-- Nothing is left before the end of data but a gap. -/
theorem skipGap_eq_nil_of_endOfData {cursor : Cursor}
    (ended : cursor.next.1.kind = .endOfData) :
    (skipGap cursor.rest cursor.line).rest = [] := by
  rcases cursor.next_cases with ⟨empty, _⟩ | ⟨_, _, step⟩ | ⟨kind, character, _, listed, _, step⟩ |
    ⟨word, _, _, _, _, step⟩
  · exact empty
  · simp [step] at ended
  · rw [step] at ended
    simp_all
  · rw [step] at ended
    exact absurd ended (TokenKind.ofWord_ne rfl word)

end Cursor

end GpuScript
