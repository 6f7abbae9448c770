import GpuScript.Proofs.Checked.Text
import GpuScript.Proofs.Token.Line
import GpuScript.Proofs.Token.Locality

/-!
# Tokens at places

Tokens read by a cursor that keeps its place in the whole text, and takes out the text that is left
whenever it looks at it. The cursor always stands where a cursor of the library stands
(`ByteCursor.At`): every step keeps this (`exists_next?`), so every part that is taken out is one,
and the tokens are those of the text (`tokens?_eq`). The loops over the text are given as many steps
as it has characters, and one more, and these are always enough.
-/

namespace GpuScript.Checked

open Text
open Cursor (skipGap)

/-- A place in a text, by its bytes. -/
structure ByteCursor where
  /-- The whole text. -/
  text : List Char
  /-- The place. -/
  place : Nat
  /-- The number of the line on which the place is. -/
  line : Nat

namespace ByteCursor

/-- The place at the start of a text whose first line has the given number. -/
def ofText (text : String) (firstLine : Nat) : ByteCursor :=
  ⟨text.toList, 0, firstLine⟩

/-- The text that is left. -/
def rest? (cursor : ByteCursor) : Option (List Char) :=
  slice? cursor.text cursor.place (byteLength cursor.text)

/-- The cursor with its place moved on by a number of bytes. -/
def advance (cursor : ByteCursor) (bytes : Nat) : ByteCursor :=
  { cursor with place := cursor.place + bytes }

/-- The cursor with its line moved on by one. -/
def nextLine (cursor : ByteCursor) : ByteCursor :=
  { cursor with line := cursor.line + 1 }

end ByteCursor

/-- The bytes of a text up to its first line end, and those of the line end. -/
def lineLength (text : List Char) : Nat :=
  match placeOf? '\n' text with
  | some place => place + 1
  | none => byteLength text

/-- The bytes of a text up to its first line end. -/
def commentLength (text : List Char) : Nat :=
  (placeOf? '\n' text).getD (byteLength text)

/-- The cursor after all that stands between tokens; nothing if it takes more than some number of
steps to come there. -/
def skipGap? : Nat → ByteCursor → Option ByteCursor
  | 0, _ => none
  | steps + 1, cursor => do
    let rest ← cursor.rest?
    if startsContinuation rest then
      skipGap? steps (cursor.advance (lineLength rest)).nextLine
    else
      match rest with
      | [] => some cursor
      | first :: others =>
        if first = '#' then
          skipGap? steps (cursor.advance (commentLength (first :: others)))
        else if first ≠ '\n' ∧ (isBlank first ∨ first = ',') then
          skipGap? steps (cursor.advance first.utf8Size)
        else
          some cursor

/-- The bytes of the word that a text opens with: at each of its characters, from a place on, the
rest of the text may start a continuation. -/
def wordLength? (text : List Char) : Nat → List Char → Option Nat
  | _, [] => some (byteLength text)
  | place, first :: others =>
    if isSeparator first then
      some place
    else do
      let rest ← slice? text place (byteLength text)
      if startsContinuation rest then some place
      else wordLength? text (place + first.utf8Size) others

/-- What a character is read as that is a token by itself. -/
def markOf? : Char → Option TokenKind
  | '\n' => some .endOfLine
  | '(' => some .openBracket
  | ')' => some .closeBracket
  | '%' => some .percent
  | _ => none

/-- The token that a text without a gap at its start opens with, and the cursor after it. -/
def cut? (cursor : ByteCursor) : Option (Token × ByteCursor) := do
  let rest ← cursor.rest?
  match rest with
  | [] => some (⟨.endOfData, "", cursor.line⟩, cursor)
  | first :: others =>
    match markOf? first with
    | some kind =>
      let mark ← slice? (first :: others) 0 1
      let after := cursor.advance 1
      some (⟨kind, String.ofList mark, cursor.line⟩, if first = '\n' then after.nextLine else after)
    | none =>
      let length ← wordLength? (first :: others) 0 (first :: others)
      let word ← slice? (first :: others) 0 length
      some (⟨.ofWord word, String.ofList word, cursor.line⟩, cursor.advance length)

/-- The next token and the cursor after it. No more steps are allowed than there are characters,
and one to find the end. -/
def next? (cursor : ByteCursor) : Option (Token × ByteCursor) := do
  let gap ← skipGap? (cursor.text.length + 1) cursor
  cut? gap

/-- The tokens of the text at a cursor, the end of data included; nothing if there are more than
some number of them. -/
def tokensFrom? : Nat → ByteCursor → Option (List Token)
  | 0, _ => none
  | steps + 1, cursor => do
    let (token, after) ← next? cursor
    if token.kind = .endOfData then
      some [token]
    else
      let others ← tokensFrom? steps after
      some (token :: others)

/-- The tokens of a text whose first line has the given number. No more are allowed than there are
characters, and one for the end. -/
def tokens? (text : String) (firstLine : Nat) : Option (List Token) :=
  tokensFrom? (text.toList.length + 1) (.ofText text firstLine)

/-- The logical lines of a text whose first line has the given number. -/
def tokenLines? (text : String) (firstLine : Nat) : Option (List TokenLine) :=
  (tokens? text firstLine).map TokenLine.ofTokens

/-- The cursor stands at the place where another cursor has its text left. -/
def ByteCursor.At (cursor : ByteCursor) (other : Cursor) : Prop :=
  cursor.line = other.line ∧
    ∃ done, cursor.text = done ++ other.rest ∧ cursor.place = byteLength done

namespace ByteCursor.At

variable {cursor : ByteCursor} {other : Cursor}

/-- The text that is left can be taken out. -/
theorem rest? (at_ : cursor.At other) : cursor.rest? = some other.rest := by
  obtain ⟨_, done, text, place⟩ := at_
  rw [ByteCursor.rest?, text, place, slice?_rest]

/-- The place moves on by the bytes of the text that is passed over. -/
theorem advance (at_ : cursor.At other) (passed left : List Char)
    (split : other.rest = passed ++ left) :
    (cursor.advance (byteLength passed)).At ⟨left, other.line⟩ := by
  obtain ⟨line, done, text, place⟩ := at_
  refine ⟨line, done ++ passed, ?_, ?_⟩
  · rw [List.append_assoc, ← split]
    exact text
  · rw [byteLength_append, ← place]
    rfl

/-- The line moves on. -/
theorem nextLine (at_ : cursor.At other) : cursor.nextLine.At ⟨other.rest, other.line + 1⟩ :=
  ⟨congrArg (· + 1) at_.1, at_.2⟩

end ByteCursor.At

/-- A line without its end ends behind it. -/
theorem lineLength_append (line : List Char) (unended : '\n' ∉ line) (rest : List Char) :
    lineLength (line ++ '\n' :: rest) = byteLength (line ++ ['\n']) := by
  have found := placeOf?_append_cons unended rest
  have one : byteLength ['\n'] = 1 := by decide
  rw [lineLength, found, byteLength_append line ['\n'], one]

/-- A comment ends before the line end, or at the end of the text. -/
theorem commentLength_eq (text : List Char) :
    commentLength text = byteLength (text.takeWhile (· ≠ '\n')) := by
  have plain : '\n' ∉ text.takeWhile (· ≠ '\n') := fun listed => by
    simpa using List.all_eq_true.mp List.all_takeWhile '\n' listed
  have whole := List.takeWhile_append_dropWhile (p := (· ≠ '\n')) (l := text)
  rw [commentLength]
  cases left : text.dropWhile (· ≠ '\n') with
  | nil =>
    rw [left, List.append_nil] at whole
    rw [whole] at plain ⊢
    rw [placeOf?_eq_none plain]
    rfl
  | cons first others =>
    have stops := List.head?_dropWhile_not (fun character => decide (character ≠ '\n')) text
    rw [left] at stops
    obtain rfl : first = '\n' := by simpa using stops
    rw [left] at whole
    have found := placeOf?_append_cons plain others
    rw [whole] at found
    rw [found]
    rfl

/-- A continuation is passed over with its line end. -/
theorem exists_behind_continuation {cursor : ByteCursor} {line : Nat} (mark rest : List Char)
    (at_ : cursor.At ⟨mark ++ '\n' :: rest, line⟩) (unended : '\n' ∉ mark)
    (starts : startsContinuation (mark ++ '\n' :: rest) = true) (steps : Nat) :
    ∃ behind : ByteCursor, behind.At ⟨rest, line + 1⟩ ∧
      skipGap? (steps + 1) cursor = skipGap? steps behind := by
  have split : mark ++ '\n' :: rest = (mark ++ ['\n']) ++ rest := by simp
  refine ⟨_, (at_.advance (mark ++ ['\n']) rest split).nextLine, ?_⟩
  rw [skipGap?, at_.rest?]
  simp only [Option.bind_eq_bind, Option.bind_some, starts, if_true,
    lineLength_append mark unended rest]

/-- A comment is passed over up to a line end or the end of the text, and there the gap ends. -/
theorem exists_behind_comment {cursor : ByteCursor} {rest : List Char} {line : Nat}
    (at_ : cursor.At ⟨'#' :: rest, line⟩) (steps : Nat) :
    ∃ behind : ByteCursor, behind.At ⟨rest.dropWhile (· ≠ '\n'), line⟩ ∧
      skipGap? (steps + 2) cursor = some behind := by
  have whole := List.takeWhile_append_dropWhile (p := (· ≠ '\n')) (l := rest)
  have bytes : commentLength ('#' :: rest) =
      byteLength ('#' :: rest.takeWhile (· ≠ '\n')) := commentLength_eq ('#' :: rest)
  have onward := at_.advance ('#' :: rest.takeWhile (· ≠ '\n'))
    (rest.dropWhile (· ≠ '\n')) (congrArg ('#' :: ·) whole.symm)
  rw [← bytes] at onward
  have stops : skipGap? (steps + 1) (cursor.advance (commentLength ('#' :: rest))) =
      some (cursor.advance (commentLength ('#' :: rest))) := by
    rw [skipGap?, onward.rest?]
    have head := List.head?_dropWhile_not (fun character => decide (character ≠ '\n')) rest
    cases left : rest.dropWhile (· ≠ '\n') with
    | nil => rfl
    | cons first others =>
      rw [left] at head
      obtain rfl : first = '\n' := by simpa using head
      rfl
  refine ⟨_, onward, ?_⟩
  rw [skipGap?, at_.rest?]
  exact stops

/-- A step is left for a character, and enough of them for the characters behind it. -/
theorem exists_fewer {first : Char} {rest : List Char} {steps : Nat}
    (enough : (first :: rest).length ≤ steps) :
    ∃ fewer, steps = fewer + 1 ∧ rest.length ≤ fewer := by
  rw [List.length_cons] at enough
  obtain ⟨fewer, rfl⟩ : ∃ fewer, steps = fewer + 1 := Nat.exists_eq_add_one.mpr (by omega)
  exact ⟨fewer, rfl, by omega⟩

/-- The gap before a token is passed over in no more steps than there are characters, and one to
find its end. -/
theorem exists_skipGap? {cursor : ByteCursor} {text : List Char} {line steps : Nat}
    (enough : text.length ≤ steps) (at_ : cursor.At ⟨text, line⟩) :
    ∃ after, skipGap? (steps + 1) cursor = some after ∧ after.At (skipGap text line) := by
  fun_induction skipGap text line generalizing cursor steps with
  | case1 line =>
    refine ⟨cursor, ?_, at_⟩
    rw [skipGap?, at_.rest?]
    rfl
  | case2 rest line ih =>
    obtain ⟨fewer, rfl, room⟩ := exists_fewer enough
    obtain ⟨behind, onward, step⟩ :=
      exists_behind_continuation ['\\'] rest at_ (by decide) rfl (fewer + 1)
    rw [step]
    exact ih (Nat.le_of_succ_le room) onward
  | case3 rest line ih =>
    obtain ⟨fewer, rfl, room⟩ := exists_fewer enough
    obtain ⟨behind, onward, step⟩ :=
      exists_behind_continuation ['\\', '\r'] rest at_ (by decide) rfl (fewer + 1)
    rw [step]
    exact ih (Nat.le_of_succ_le (Nat.le_of_succ_le room)) onward
  | case4 rest line =>
    obtain ⟨fewer, rfl, _⟩ := exists_fewer enough
    obtain ⟨behind, onward, step⟩ := exists_behind_comment at_ fewer
    exact ⟨behind, step, onward⟩
  | case5 character rest line slash _ comment blank ih =>
    have plain : character ≠ '\\' := by
      rintro rfl
      exact absurd blank (by decide)
    have onward := at_.advance [character] rest rfl
    have bytes : byteLength [character] = character.utf8Size := by simp
    obtain ⟨fewer, rfl, room⟩ := exists_fewer enough
    obtain ⟨after, step, stands⟩ := ih room (bytes ▸ onward)
    refine ⟨after, ?_, stands⟩
    rw [skipGap?, at_.rest?]
    simp only [Option.bind_eq_bind, Option.bind_some, startsContinuation_cons plain,
      Bool.false_eq_true, if_false, if_neg comment, if_pos blank]
    exact step
  | case6 character rest line newline carriage comment blank =>
    have plain : startsContinuation (character :: rest) = false := by
      unfold startsContinuation
      split <;> simp_all
    refine ⟨cursor, ?_, at_⟩
    rw [skipGap?, at_.rest?]
    simp only [Option.bind_eq_bind, Option.bind_some, plain, Bool.false_eq_true, if_false,
      if_neg comment, if_neg blank]

/-- The word that a text opens with is measured from any place in it. -/
theorem wordLength?_append (done rest : List Char) :
    wordLength? (done ++ rest) (byteLength done) rest =
      some (byteLength (done ++ (splitWord rest).1)) := by
  induction rest generalizing done with
  | nil => rfl
  | cons first others ih =>
    have here := slice?_rest done (first :: others)
    have next : byteLength done + first.utf8Size = byteLength (done ++ [first]) := by simp
    have whole : done ++ first :: others = (done ++ [first]) ++ others := by simp
    rw [wordLength?, splitWord, here]
    cases separates : isSeparator first with
    | true => simp
    | false =>
      cases starts : startsContinuation (first :: others) with
      | true => simp [starts]
      | false =>
        have inner := ih (done ++ [first])
        simp only [Bool.false_eq_true, if_false, Option.bind_eq_bind, Option.bind_some, starts,
          Bool.or_false, next]
        rw [whole, inner, List.append_assoc]
        rfl

/-- A character that is a token by itself is cut off. -/
theorem cut?_of_markOf? {cursor : ByteCursor} {first : Char} {rest : List Char} {kind : TokenKind}
    (left : cursor.rest? = some (first :: rest)) (mark : markOf? first = some kind) :
    cut? cursor = some (⟨kind, String.singleton first, cursor.line⟩,
      if first = '\n' then (cursor.advance 1).nextLine else cursor.advance 1) := by
  have size : byteLength [first] = 1 := by
    unfold markOf? at mark
    split at mark <;> first | rfl | cases mark
  have part := slice?_first [first] rest
  rw [size, List.singleton_append] at part
  rw [cut?, left]
  simp only [Option.bind_eq_bind, Option.bind_some, mark, part, String.singleton_eq_ofList]

/-- A word is cut off. -/
theorem cut?_of_splitWord {cursor : ByteCursor} {first : Char} {others rest : List Char}
    (left : cursor.rest? = some (first :: others ++ rest))
    (cutOff : splitWord (first :: others ++ rest) = (first :: others, rest)) :
    cut? cursor = some (⟨.ofWord (first :: others), String.ofList (first :: others), cursor.line⟩,
      cursor.advance (byteLength (first :: others))) := by
  have plain : isSeparator first = false := by
    have listed : first ∈ (splitWord (first :: others ++ rest)).1 := cutOff ▸ List.mem_cons_self
    exact not_isSeparator_of_mem_splitWord listed
  have unmarked : markOf? first = none := by
    unfold markOf?
    split <;> first | rfl | exact absurd plain (by decide)
  have measured := wordLength?_append [] (first :: others ++ rest)
  rw [cutOff, List.nil_append, List.nil_append, byteLength_nil] at measured
  have part := slice?_first (first :: others) rest
  rw [List.cons_append] at measured part left
  rw [cut?, left]
  simp only [Option.bind_eq_bind, Option.bind_some, unmarked, measured, part]

/-- The token behind a gap is cut off. -/
theorem exists_cut? {cursor : ByteCursor} {start : Cursor}
    (at_ : cursor.At (skipGap start.rest start.line)) :
    ∃ after, cut? cursor = some (start.next.1, after) ∧ after.At start.next.2 := by
  have line := at_.1
  have left := at_.rest?
  rcases start.next_cases with ⟨empty, step⟩ | ⟨rest, opens, step⟩ |
    ⟨kind, character, rest, listed, opens, step⟩ | ⟨word, rest, nonempty, cutOff, opens, step⟩
  · refine ⟨cursor, ?_, step ▸ at_⟩
    rw [cut?, left, empty, step, line]
    rfl
  · have onward := (at_.advance ['\n'] rest opens).nextLine
    rw [opens] at left
    refine ⟨(cursor.advance 1).nextLine, ?_, step ▸ onward⟩
    rw [cut?_of_markOf? left rfl, step, line]
    rfl
  · have onward := at_.advance [character] rest opens
    rw [opens] at left
    simp only [List.mem_cons, Prod.mk.injEq, List.not_mem_nil, or_false] at listed
    refine ⟨cursor.advance 1, ?_, ?_⟩
    · rcases listed with ⟨rfl, rfl⟩ | ⟨rfl, rfl⟩ | ⟨rfl, rfl⟩ <;>
        rw [cut?_of_markOf? left rfl, step, line] <;> rfl
    · rw [step]
      rcases listed with ⟨rfl, rfl⟩ | ⟨rfl, rfl⟩ | ⟨rfl, rfl⟩ <;> exact onward
  · have onward := at_.advance word rest opens
    obtain ⟨first, others, rfl⟩ := List.exists_cons_of_ne_nil nonempty
    rw [opens] at left cutOff
    refine ⟨cursor.advance (byteLength (first :: others)), ?_, step ▸ onward⟩
    rw [cut?_of_splitWord left cutOff, step, line]

/-- What is left of a text is no longer than the text. -/
theorem ByteCursor.At.length_le {cursor : ByteCursor} {other : Cursor} (at_ : cursor.At other) :
    other.rest.length ≤ cursor.text.length := by
  obtain ⟨_, done, text, _⟩ := at_
  rw [text, List.length_append]
  exact Nat.le_add_left _ _

/-- A step gives the next token, and the cursor stands behind it. -/
theorem exists_next? {cursor : ByteCursor} {start : Cursor} (at_ : cursor.At start) :
    ∃ after, next? cursor = some (start.next.1, after) ∧ after.At start.next.2 := by
  obtain ⟨gap, skipped, there⟩ := exists_skipGap? at_.length_le at_
  obtain ⟨after, cutOff, stands⟩ := exists_cut? there
  refine ⟨after, ?_, stands⟩
  rw [next?, skipped]
  exact cutOff

/-- From a place on the tokens are those of the text that is left, and there are no more of them
than characters, and one. -/
theorem tokensFrom?_of_at {cursor : ByteCursor} {start : Cursor} {steps : Nat}
    (enough : start.rest.length ≤ steps) (at_ : cursor.At start) :
    tokensFrom? (steps + 1) cursor = some start.tokens := by
  induction start using Cursor.tokens_induction generalizing cursor steps with
  | last start final =>
    obtain ⟨after, step, -⟩ := exists_next? at_
    rw [tokensFrom?, step, Cursor.tokens_of_endOfData final]
    simp only [Option.bind_eq_bind, Option.bind_some, final, if_true]
  | more start going ih =>
    obtain ⟨after, step, stands⟩ := exists_next? at_
    have shorter := Cursor.length_next_lt start going
    obtain ⟨fewer, rfl⟩ : ∃ fewer, steps = fewer + 1 := Nat.exists_eq_add_one.mpr (by omega)
    have inner := ih (Nat.le_of_lt_succ (Nat.lt_of_lt_of_le shorter enough)) stands
    rw [tokensFrom?, step, Cursor.tokens_of_ne_endOfData going]
    simp only [Option.bind_eq_bind, Option.bind_some, if_neg going, inner]

/-- Whatever the text, every part that is taken out for its tokens is one. -/
theorem tokens?_eq (text : String) (firstLine : Nat) :
    tokens? text firstLine = some (Cursor.ofText text firstLine).tokens :=
  tokensFrom?_of_at (Nat.le_refl _) ⟨rfl, [], rfl, rfl⟩

/-- The logical lines are those of the text. -/
theorem tokenLines?_eq (text : String) (firstLine : Nat) :
    tokenLines? text firstLine = some (TokenLine.ofText text firstLine) := by
  rw [tokenLines?, tokens?_eq]
  rfl

end GpuScript.Checked
