import GpuScript.Text.Blank
import GpuScript.Token.Basic

/-!
# Reading tokens

A cursor is a place in a text: what is left of it and the line number there. Between tokens it
skips blank characters, commas, comments (from `#` up to the end of the line) and continuations (a
backslash before a line end, with an optional carriage return between them). A word ends before a
separator or a continuation.

Every step but the last consumes a character, so the tokens of a text are a list: all of them up to
the first end of data.
-/

namespace GpuScript

open Text

/-- A place in a text. -/
structure Cursor where
  /-- The text that is left. -/
  rest : List Char
  /-- The number of the line on which the text that is left begins. -/
  line : Nat
  deriving DecidableEq

/-- A character that ends a word. -/
def isSeparator (character : Char) : Bool :=
  isBlank character || character == ',' || character == '(' || character == ')'
    || character == '%' || character == '#'

/-- The text opens with a continuation. -/
def startsContinuation : List Char → Bool
  | '\\' :: '\n' :: _ => true
  | '\\' :: '\r' :: '\n' :: _ => true
  | _ => false

/-- The longest word that a text opens with, and what follows it. -/
def splitWord : List Char → List Char × List Char
  | [] => ([], [])
  | character :: rest =>
    if isSeparator character || startsContinuation (character :: rest) then
      ([], character :: rest)
    else
      let (word, others) := splitWord rest
      (character :: word, others)

namespace Cursor

/-- The cursor after all that stands between tokens. A comment ends at a line end or at the end of
the text, so nothing is skipped after one. -/
def skipGap : List Char → Nat → Cursor
  | [], line => ⟨[], line⟩
  | '\\' :: '\n' :: rest, line => skipGap rest (line + 1)
  | '\\' :: '\r' :: '\n' :: rest, line => skipGap rest (line + 1)
  | character :: rest, line =>
    if character = '#' then
      ⟨rest.dropWhile (· ≠ '\n'), line⟩
    else if character ≠ '\n' ∧ (isBlank character ∨ character = ',') then
      skipGap rest line
    else
      ⟨character :: rest, line⟩

/-- The token that a text without a gap at its start opens with, and the cursor after it. -/
def cut (cursor : Cursor) : Token × Cursor :=
  match cursor.rest with
  | [] => (⟨.endOfData, "", cursor.line⟩, cursor)
  | '\n' :: rest => (⟨.endOfLine, "\n", cursor.line⟩, ⟨rest, cursor.line + 1⟩)
  | '(' :: rest => (⟨.openBracket, "(", cursor.line⟩, ⟨rest, cursor.line⟩)
  | ')' :: rest => (⟨.closeBracket, ")", cursor.line⟩, ⟨rest, cursor.line⟩)
  | '%' :: rest => (⟨.percent, "%", cursor.line⟩, ⟨rest, cursor.line⟩)
  | text =>
    let (word, rest) := splitWord text
    (⟨.ofWord word, String.ofList word, cursor.line⟩, ⟨rest, cursor.line⟩)

/-- The next token and the cursor after it. -/
def next (cursor : Cursor) : Token × Cursor :=
  (skipGap cursor.rest cursor.line).cut

/-- The next token, without moving. -/
def peek (cursor : Cursor) : Token :=
  cursor.next.1

/-- Skipping a gap never lengthens the text. -/
theorem length_skipGap_le (text : List Char) (line : Nat) :
    (skipGap text line).rest.length ≤ text.length := by
  fun_induction skipGap text line with
  | case1 => simp
  | case2 line rest ih => simp only [List.length_cons]; omega
  | case3 line rest ih => simp only [List.length_cons]; omega
  | case4 rest =>
    have := (List.dropWhile_sublist (l := rest) (fun x => decide (x ≠ '\n'))).length_le
    simp only [List.length_cons]; omega
  | case5 => simp only [List.length_cons]; omega
  | case6 => simp

/-- A word and what follows it make up the text. -/
theorem splitWord_append (text : List Char) :
    (splitWord text).1 ++ (splitWord text).2 = text := by
  fun_induction splitWord text with
  | case1 => rfl
  | case2 => rfl
  | case3 character rest _ word others equation ih => simp_all

/-- After a gap the text does not open with a character or a continuation that belongs to one. -/
theorem skipGap_head (text : List Char) (line : Nat) {character : Char} {rest : List Char}
    (h : (skipGap text line).rest = character :: rest) :
    character = '\n' ∨ character = '(' ∨ character = ')' ∨ character = '%' ∨
      (isSeparator character || startsContinuation (character :: rest)) = false := by
  fun_induction skipGap text line with
  | case1 => simp at h
  | case2 line rest ih => exact ih h
  | case3 line rest ih => exact ih h
  | case4 =>
    have := List.head?_dropWhile_not (fun x => decide (x ≠ '\n')) (by assumption)
    simp_all
  | case5 => simp_all
  | case6 character' rest' line hBackslash hReturn hComment hBlank =>
    obtain ⟨rfl, rfl⟩ := List.cons.inj h
    by_cases hLine : character' = '\n'
    · exact Or.inl hLine
    by_cases hOpen : character' = '('
    · exact Or.inr (Or.inl hOpen)
    by_cases hClose : character' = ')'
    · exact Or.inr (Or.inr (Or.inl hClose))
    by_cases hPercent : character' = '%'
    · exact Or.inr (Or.inr (Or.inr (Or.inl hPercent)))
    refine Or.inr (Or.inr (Or.inr (Or.inr ?_)))
    have plain : startsContinuation (character' :: rest') = false := by
      unfold startsContinuation
      split <;> simp_all
    simp_all [isSeparator]

/-- Every token but the end of data consumes at least one character. -/
theorem length_next_lt (cursor : Cursor) (h : cursor.next.1.kind ≠ .endOfData) :
    cursor.next.2.rest.length < cursor.rest.length := by
  have skipped := length_skipGap_le cursor.rest cursor.line
  have head := @skipGap_head cursor.rest cursor.line
  unfold next at h ⊢
  generalize skipGap cursor.rest cursor.line = gap at h skipped head ⊢
  obtain ⟨text, line⟩ := gap
  unfold cut at h ⊢
  split at h
  · simp at h
  · rename_i equation
    simp only at equation
    subst equation
    simp only [List.length_cons] at skipped ⊢
    omega
  · rename_i equation
    simp only at equation
    subst equation
    simp only [List.length_cons] at skipped ⊢
    omega
  · rename_i equation
    simp only at equation
    subst equation
    simp only [List.length_cons] at skipped ⊢
    omega
  · rename_i equation
    simp only at equation
    subst equation
    simp only [List.length_cons] at skipped ⊢
    omega
  · rename_i hNil hLine hOpen hClose hPercent
    simp only at hNil hLine hOpen hClose hPercent head skipped ⊢
    cases text with
    | nil => simp at hNil
    | cons character rest =>
      have glued := splitWord_append rest
      have plain := head rfl
      have lengths := congrArg List.length glued
      simp only [List.length_append] at lengths
      rcases plain with rfl | rfl | rfl | rfl | plain
      · exact absurd rfl (hLine rest)
      · exact absurd rfl (hOpen rest)
      · exact absurd rfl (hClose rest)
      · exact absurd rfl (hPercent rest)
      · simp only [splitWord, plain, Bool.false_eq_true, ↓reduceIte, List.length_cons] at skipped ⊢
        omega

/-- The tokens of the text at a cursor, the end of data included. -/
def tokens (cursor : Cursor) : List Token :=
  if h : cursor.next.1.kind = .endOfData then
    [cursor.next.1]
  else
    have := length_next_lt cursor h
    cursor.next.1 :: tokens cursor.next.2
  termination_by cursor.rest.length

/-- The cursor after the rest of the line and its end, and the number of tokens passed over, ends
not counted. -/
def skipLine (cursor : Cursor) : Nat × Cursor :=
  if h : cursor.next.1.kind.isEnd then
    (0, cursor.next.2)
  else
    have := length_next_lt cursor fun equation => by simp [equation, TokenKind.isEnd] at h
    let (count, after) := skipLine cursor.next.2
    (count + 1, after)
  termination_by cursor.rest.length

/-- The cursor after the last token of the text. -/
def exhaust (cursor : Cursor) : Cursor :=
  if h : cursor.next.1.kind = .endOfData then
    cursor.next.2
  else
    have := length_next_lt cursor h
    exhaust cursor.next.2
  termination_by cursor.rest.length

end Cursor

/-- The cursor at the start of a text whose first line has the given number. -/
def Cursor.ofText (text : String) (firstLine : Nat) : Cursor :=
  ⟨text.toList, firstLine⟩

end GpuScript
