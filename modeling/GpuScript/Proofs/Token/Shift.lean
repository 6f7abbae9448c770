import GpuScript.Proofs.Token.Unplaced

/-!
# Lines that are counted on

Moving a text down by some lines adds their number to the line of each of its tokens and changes
nothing else (`Cursor.tokens_shift`), so its logical lines are the same ones further down
(`TokenLine.ofText_add`).
-/

namespace GpuScript

open Text

/-- What there is to say, about the line so many lines further down. -/
def Located.shift {α : Type} (count : Nat) (located : Located α) : Located α :=
  { located with line := located.line + count }

/-- The token so many lines further down. -/
def Token.shift (count : Nat) (token : Token) : Token :=
  { token with line := token.line + count }

namespace Token

variable (count : Nat) (token : Token)

/-- The kind of a token goes with it. -/
@[simp]
theorem kind_shift : (token.shift count).kind = token.kind :=
  rfl

/-- The text of a token goes with it. -/
@[simp]
theorem text_shift : (token.shift count).text = token.text :=
  rfl

/-- The line of a token is counted on. -/
@[simp]
theorem line_shift : (token.shift count).line = token.line + count :=
  rfl

/-- Without its line number a token is the same wherever it stands. -/
@[simp]
theorem unplaced_shift : (token.shift count).unplaced = token.unplaced :=
  rfl

end Token

namespace TokenLine

/-- The logical line so many lines further down. -/
def shift (count : Nat) (line : TokenLine) : TokenLine where
  first := line.first.shift count
  rest := line.rest.map (Token.shift count)

/-- The number of a logical line is counted on. -/
@[simp]
theorem line_shift (count : Nat) (line : TokenLine) :
    (line.shift count).line = line.line + count :=
  rfl

/-- The tokens of a logical line go with it. -/
theorem tokens_shift (count : Nat) (line : TokenLine) :
    (line.shift count).tokens = line.tokens.map (Token.shift count) :=
  rfl

/-- Without its line numbers a logical line is the same wherever it stands. -/
@[simp]
theorem unplaced_shift (count : Nat) (line : TokenLine) :
    (line.shift count).unplaced = line.unplaced := by
  have rest : (line.rest.map (Token.shift count)).map Token.unplaced =
      line.rest.map Token.unplaced := List.map_map
  rw [unplaced, unplaced, shift, rest, Token.unplaced_shift]

/-- Tokens further down make up the logical lines further down. -/
theorem ofTokens_map_shift (count : Nat) (tokens : List Token) :
    ofTokens (tokens.map (Token.shift count)) = (ofTokens tokens).map (shift count) := by
  have cut := pieces_map (fun token : Token => token.kind.isEnd) (Token.shift count) tokens
  rw [ofTokens, cut, ofTokens, List.filterMap_map, List.map_filterMap]
  refine congrArg (fun gather => List.filterMap gather _) (funext fun piece => ?_)
  cases piece <;> rfl

end TokenLine

namespace Cursor

/-- The cursor so many lines further down. -/
def shift (count : Nat) (cursor : Cursor) : Cursor :=
  { cursor with line := cursor.line + count }

/-- A gap is skipped in the same way further down. -/
theorem skipGap_shift (count : Nat) (text : List Char) (line : Nat) :
    skipGap text (line + count) = (skipGap text line).shift count := by
  fun_induction skipGap text line with
  | case1 => rfl
  | case2 line rest ih => rw [← ih, skipGap, Nat.add_right_comm]
  | case3 line rest ih => rw [← ih, skipGap, Nat.add_right_comm]
  | case4 => rfl
  | case5 character rest line newline carriage comment blank ih =>
    rw [← ih, skipGap, if_neg comment, if_pos blank]
    · exact newline
    · exact carriage
  | case6 character rest line newline carriage comment blank =>
    rw [skipGap, if_neg comment, if_neg blank]
    · rfl
    · exact newline
    · exact carriage

/-- A token is cut off in the same way further down. -/
theorem cut_shift (count : Nat) (cursor : Cursor) :
    (cursor.shift count).cut = (cursor.cut.1.shift count, cursor.cut.2.shift count) := by
  obtain ⟨text, line⟩ := cursor
  unfold cut shift
  dsimp only
  split
  · rfl
  · have number : line + count + 1 = line + 1 + count := by omega
    rw [number]
    rfl
  all_goals rfl

/-- A step is the same further down. -/
theorem next_shift (count : Nat) (cursor : Cursor) :
    (cursor.shift count).next = (cursor.next.1.shift count, cursor.next.2.shift count) := by
  have gap := skipGap_shift count cursor.rest cursor.line
  rw [next, next, ← cut_shift, ← gap]
  rfl

/-- The tokens of a text are the same further down. -/
theorem tokens_shift (count : Nat) (cursor : Cursor) :
    (cursor.shift count).tokens = cursor.tokens.map (Token.shift count) := by
  have step := next_shift count
  induction cursor using tokens_induction with
  | last cursor final =>
    have ended : (cursor.shift count).next.1.kind = .endOfData := by
      rw [step]
      exact final
    rw [tokens_of_endOfData final, tokens_of_endOfData ended, step]
    rfl
  | more cursor going ih =>
    have onward : (cursor.shift count).next.1.kind ≠ .endOfData := by
      rw [step]
      exact going
    rw [tokens_of_ne_endOfData going, tokens_of_ne_endOfData onward, step, List.map_cons, ih]

/-- The tokens of a text whose first line is so many lines further down. -/
theorem tokens_ofText_add (text : String) (firstLine count : Nat) :
    (ofText text (firstLine + count)).tokens =
      (ofText text firstLine).tokens.map (Token.shift count) :=
  tokens_shift count (ofText text firstLine)

end Cursor

/-- The logical lines of a text whose first line is so many lines further down. -/
theorem TokenLine.ofText_add (text : String) (firstLine count : Nat) :
    ofText text (firstLine + count) = (ofText text firstLine).map (shift count) := by
  rw [ofText, ofText, Cursor.tokens_ofText_add, ofTokens_map_shift]

end GpuScript
