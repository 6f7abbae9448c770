import GpuScript.Proofs.Token.Line

/-!
# Lines without their numbers

What a line says does not depend on where it stands: apart from its line number, a token is the same
whatever number the first line of its text has (`Cursor.map_unplaced_tokens`), and the same tokens
make up the same logical lines (`TokenLine.ofTokens_map_unplaced`). Two lines that agree once their
numbers are taken away are one line in two places.
-/

namespace GpuScript

/-- The pieces of a list of images are the images of the pieces. -/
theorem Text.pieces_map {α β : Type} (separates : β → Bool) (image : α → β) (elements : List α) :
    pieces separates (elements.map image) =
      (pieces (fun element => separates (image element)) elements).map (List.map image) := by
  induction elements with
  | nil => rfl
  | cons element rest ih =>
    obtain ⟨piece, others, inner⟩ := List.exists_cons_of_ne_nil
      (pieces_ne_nil (fun element => separates (image element)) rest)
    rw [List.map_cons, pieces, pieces, ih, inner]
    cases split : separates (image element) <;>
      simp only [List.map_cons, Bool.false_eq_true, ↓reduceIte, List.map_nil]

open Text

/-- The token without its line number. -/
def Token.unplaced (token : Token) : Token :=
  { token with line := 0 }

namespace Token

/-- The line number is no part of what a token is. -/
@[simp]
theorem kind_unplaced (token : Token) : token.unplaced.kind = token.kind :=
  rfl

/-- The line number is no part of the text of a token. -/
@[simp]
theorem text_unplaced (token : Token) : token.unplaced.text = token.text :=
  rfl

/-- The line number is no part of a word. -/
@[simp]
theorem word?_unplaced (token : Token) : token.unplaced.word? = token.word? :=
  rfl

end Token

/-- The logical line without its line numbers. -/
def TokenLine.unplaced (line : TokenLine) : TokenLine where
  first := line.first.unplaced
  rest := line.rest.map Token.unplaced

namespace Cursor

/-- What a gap leaves does not depend on the number of the line. -/
theorem rest_skipGap (text : List Char) (line other : Nat) :
    (skipGap text line).rest = (skipGap text other).rest := by
  fun_induction skipGap text line generalizing other with
  | case1 => rfl
  | case2 rest line ih => exact ih (other + 1)
  | case3 rest line ih => exact ih (other + 1)
  | case4 => rfl
  | case5 character rest line slash _ comment blank ih =>
    have plain : character ≠ '\\' := by
      rintro rfl
      exact absurd blank (by decide)
    rw [skipGap_cons (startsContinuation_cons plain rest), if_neg comment, if_pos blank]
    exact ih other
  | case6 character rest line newline carriage comment blank =>
    have plain : startsContinuation (character :: rest) = false := by
      unfold startsContinuation
      split <;> simp_all
    rw [skipGap_cons plain, if_neg comment, if_neg blank]

/-- Apart from line numbers, what is cut off does not depend on the number of the line. -/
theorem unplaced_cut {first second : Cursor} (same : first.rest = second.rest) :
    first.cut.1.unplaced = second.cut.1.unplaced ∧ first.cut.2.rest = second.cut.2.rest := by
  obtain ⟨text, line⟩ := first
  obtain ⟨_, other⟩ := second
  obtain rfl : text = _ := same
  unfold cut
  dsimp only
  split <;> exact ⟨rfl, rfl⟩

/-- Apart from line numbers, a step does not depend on the number of the line. -/
theorem unplaced_next (text : List Char) (line other : Nat) :
    (next ⟨text, line⟩).1.unplaced = (next ⟨text, other⟩).1.unplaced ∧
      (next ⟨text, line⟩).2.rest = (next ⟨text, other⟩).2.rest :=
  unplaced_cut (rest_skipGap text line other)

/-- Apart from line numbers, the tokens of a text do not depend on the number of its first line. -/
theorem map_unplaced_tokens (text : List Char) (line other : Nat) :
    (tokens ⟨text, line⟩).map Token.unplaced = (tokens ⟨text, other⟩).map Token.unplaced := by
  -- Both cursors move in step: the texts that are left stay the same, the lines may differ.
  generalize start : (⟨text, line⟩ : Cursor) = cursor
  induction cursor using tokens_induction generalizing text line other with
  | last cursor final =>
    subst start
    obtain ⟨same, _⟩ := unplaced_next text line other
    have kind : (next ⟨text, other⟩).1.kind = .endOfData := (congrArg Token.kind same) ▸ final
    rw [tokens_of_endOfData final, tokens_of_endOfData kind, List.map_singleton,
      List.map_singleton, same]
  | more cursor going ih =>
    subst start
    obtain ⟨same, left⟩ := unplaced_next text line other
    have kind : (next ⟨text, other⟩).1.kind = (next ⟨text, line⟩).1.kind :=
      (congrArg Token.kind same).symm
    have inner := ih (next ⟨text, line⟩).2.rest (next ⟨text, line⟩).2.line
      (next ⟨text, other⟩).2.line rfl
    rw [left] at inner
    have onward : (next ⟨text, other⟩).1.kind ≠ .endOfData := kind ▸ going
    rw [tokens_of_ne_endOfData onward, List.map_cons, ← same]
    rw [tokens_of_ne_endOfData going, List.map_cons]
    exact congrArg (_ :: ·) inner

end Cursor

namespace TokenLine

/-- A line without its numbers goes on with the same tokens. -/
@[simp]
theorem rest_unplaced (line : TokenLine) : line.unplaced.rest = line.rest.map Token.unplaced :=
  rfl

/-- Logical lines that are the same apart from their line numbers have the same tokens apart from
theirs. -/
theorem tokens_of_unplaced {line same : TokenLine} (alike : same.unplaced = line.unplaced) :
    same.tokens.map Token.unplaced = line.tokens.map Token.unplaced := by
  have head : same.first.unplaced = line.first.unplaced := congrArg first alike
  have tail : same.rest.map Token.unplaced = line.rest.map Token.unplaced :=
    congrArg rest alike
  rw [tokens, tokens, List.map_cons, List.map_cons, head, tail]

/-- Tokens without their line numbers make up the logical lines without theirs. -/
theorem ofTokens_map_unplaced (tokens : List Token) :
    ofTokens (tokens.map Token.unplaced) = (ofTokens tokens).map unplaced := by
  have cut := pieces_map (fun token : Token => token.kind.isEnd) Token.unplaced tokens
  rw [ofTokens, cut, ofTokens, List.filterMap_map, List.map_filterMap]
  refine congrArg (fun gather => List.filterMap gather _) (funext fun piece => ?_)
  cases piece <;> rfl

end TokenLine

end GpuScript
