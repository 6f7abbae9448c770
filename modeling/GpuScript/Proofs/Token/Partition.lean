import GpuScript.Proofs.Token.Step

/-!
# Tokens partition their text

However a cursor is asked for tokens, by taking the next one, by looking at it or by skipping a
line, the tokens that it passes over and the gaps before them make up the text up to where it
stands, and the lines of the tokens and of the cursor count the line ends before them
(`Cursor.run_partitions`). Every token but the end of data has a text, so the end of data is
reached, and it is then given forever.

All requests are made up of single steps: what a run of requests passes over is what some number of
steps passes over (`Cursor.exists_run_eq_advance`), and the partition is an induction on the steps.
-/

namespace GpuScript

open Text

/-- What stands between tokens, in front of the rest of a text: blank characters other than the
line end, commas and continuations, and then at most one comment, which runs up to a line end or to
the end of the text. -/
inductive IsGap (following : List Char) : List Char → Prop where
  /-- Nothing at all. -/
  | empty : IsGap following []
  /-- A blank character or a comma. -/
  | blank {character : Char} {gap : List Char} (inner : character ≠ '\n')
      (skipped : isBlank character = true ∨ character = ',') (others : IsGap following gap) :
      IsGap following (character :: gap)
  /-- A backslash and a line end. -/
  | continuation {gap : List Char} (others : IsGap following gap) :
      IsGap following ('\\' :: '\n' :: gap)
  /-- A backslash, a carriage return and a line end. -/
  | returnContinuation {gap : List Char} (others : IsGap following gap) :
      IsGap following ('\\' :: '\r' :: '\n' :: gap)
  /-- A comment. -/
  | comment {text : List Char} (inner : '\n' ∉ text)
      (ended : ∀ character ∈ following.head?, character = '\n') : IsGap following ('#' :: text)

namespace Cursor

/-- What is skipped between tokens is a gap. -/
theorem exists_isGap (text : List Char) (line : Nat) :
    ∃ gap, text = gap ++ (skipGap text line).rest ∧ IsGap (skipGap text line).rest gap := by
  fun_induction skipGap text line with
  | case1 => exact ⟨[], rfl, .empty⟩
  | case2 rest line ih =>
    obtain ⟨gap, split, skipped⟩ := ih
    exact ⟨'\\' :: '\n' :: gap, congrArg ('\\' :: '\n' :: ·) split, .continuation skipped⟩
  | case3 rest line ih =>
    obtain ⟨gap, split, skipped⟩ := ih
    exact ⟨'\\' :: '\r' :: '\n' :: gap, congrArg ('\\' :: '\r' :: '\n' :: ·) split,
      .returnContinuation skipped⟩
  | case4 rest line =>
    have comment := List.takeWhile_append_dropWhile (p := (· ≠ '\n')) (l := rest)
    refine ⟨'#' :: rest.takeWhile (· ≠ '\n'), congrArg ('#' :: ·) comment.symm, .comment ?_ ?_⟩
    · intro listed
      simpa using List.all_eq_true.mp List.all_takeWhile _ listed
    · intro character opens
      have stops := List.head?_dropWhile_not (fun character => decide (character ≠ '\n')) rest
      rw [Option.mem_def.mp opens] at stops
      simpa using stops
  | case5 character rest line _ _ _ blank ih =>
    obtain ⟨gap, split, skipped⟩ := ih
    exact ⟨character :: gap, congrArg (character :: ·) split, .blank blank.1 blank.2 skipped⟩
  | case6 => exact ⟨[], rfl, .empty⟩

/-- A step passes over a gap and the text of its token, and the lines of the token and of the
cursor count the line ends passed over. -/
theorem exists_next_split (cursor : Cursor) :
    ∃ gap, cursor.rest = gap ++ (cursor.next.1.text.toList ++ cursor.next.2.rest) ∧
      IsGap (cursor.next.1.text.toList ++ cursor.next.2.rest) gap ∧
      cursor.next.1.line = cursor.line + gap.count '\n' ∧
      cursor.next.2.line = cursor.line + (gap ++ cursor.next.1.text.toList).count '\n' := by
  obtain ⟨gap, split, skipped⟩ := exists_isGap cursor.rest cursor.line
  have opens : (skipGap cursor.rest cursor.line).rest =
      cursor.next.1.text.toList ++ cursor.next.2.rest := by
    rcases cursor.next_cases with ⟨empty, step⟩ | ⟨rest, opens, step⟩ |
      ⟨kind, character, rest, _, opens, step⟩ | ⟨word, rest, _, _, opens, step⟩
    · rw [step]
      rfl
    · rw [step, opens]
      simp
    · rw [step, opens]
      simp
    · rw [step, opens]
      simp
  rw [opens] at split skipped
  have whole := congrArg (List.count '\n') split
  have last := skipGap_lastLine cursor.rest cursor.line
  have kept := cursor.next_lastLine
  rw [lastLine, ← cursor.next_line, opens] at last
  simp only [lastLine, List.count_append] at whole last kept
  refine ⟨gap, split, skipped, ?_, ?_⟩
  · omega
  · rw [List.count_append]
    omega

/-- A token other than the end of data has a text. -/
theorem text_next_ne_nil {cursor : Cursor} (going : cursor.next.1.kind ≠ .endOfData) :
    cursor.next.1.text.toList ≠ [] := by
  rcases cursor.next_cases with ⟨_, step⟩ | ⟨_, _, step⟩ | ⟨_, _, _, _, _, step⟩ |
    ⟨word, _, nonempty, _, _, step⟩
  · simp [step] at going
  · simp [step]
  · simp [step]
  · simpa [step] using nonempty

/-- The end of data has no text, nothing is left behind it, and it is the next token again. -/
theorem next_of_endOfData {cursor : Cursor} (ended : cursor.next.1.kind = .endOfData) :
    cursor.next.1.text = "" ∧ cursor.next.2.rest = [] ∧ cursor.next.2.next = cursor.next := by
  have empty := skipGap_eq_nil_of_endOfData ended
  have step : cursor.next = cut (skipGap cursor.rest cursor.line) := rfl
  generalize skipGap cursor.rest cursor.line = gap at empty step
  obtain ⟨rest, line⟩ := gap
  obtain rfl : rest = [] := empty
  rw [step]
  exact ⟨rfl, rfl, rfl⟩

/-- The tokens that a number of steps pass over, and the cursor after them. -/
def advance (cursor : Cursor) : Nat → List Token × Cursor
  | 0 => ([], cursor)
  | count + 1 => (cursor.next.1 :: (cursor.next.2.advance count).1, (cursor.next.2.advance count).2)

/-- Steps after other steps go on where those end. -/
theorem advance_add (cursor : Cursor) (first second : Nat) :
    cursor.advance (first + second) =
      ((cursor.advance first).1 ++ ((cursor.advance first).2.advance second).1,
        ((cursor.advance first).2.advance second).2) := by
  induction first generalizing cursor with
  | zero => rw [Nat.zero_add]; rfl
  | succ first ih =>
    rw [Nat.add_right_comm, advance, ih]
    rfl

/-- A number of steps passes over that many tokens. -/
theorem length_advance (cursor : Cursor) (count : Nat) :
    (cursor.advance count).1.length = count := by
  induction count generalizing cursor with
  | zero => rfl
  | succ count ih => rw [advance, List.length_cons, ih]

/-- A cursor that a step does not move gives the same token at every step. -/
theorem advance_of_next_eq {cursor : Cursor} {token : Token} (still : cursor.next = (token, cursor))
    (count : Nat) : cursor.advance count = (List.replicate count token, cursor) := by
  induction count with
  | zero => rfl
  | succ count ih => rw [advance, still, ih, List.replicate_succ]

/-- Steps that pass over the end of data end where nothing is left and a step moves no more. -/
theorem next_advance_of_endOfData {cursor : Cursor} {count : Nat} {token : Token}
    (listed : token ∈ (cursor.advance count).1) (ended : token.kind = .endOfData) :
    (cursor.advance count).2.rest = [] ∧
      (cursor.advance count).2.next = (token, (cursor.advance count).2) := by
  induction count generalizing cursor with
  | zero => cases listed
  | succ count ih =>
    rw [advance] at listed ⊢
    rcases List.mem_cons.mp listed with rfl | later
    · obtain ⟨_, empty, again⟩ := next_of_endOfData ended
      rw [advance_of_next_eq again]
      exact ⟨empty, again⟩
    · exact ih later

end Cursor

/-- A token with the gap in front of it. -/
structure Piece where
  /-- The gap. -/
  gap : List Char
  /-- The token behind the gap. -/
  token : Token

namespace Piece

/-- The text that a piece takes. -/
def text (piece : Piece) : List Char :=
  piece.gap ++ piece.token.text.toList

/-- The text that pieces take one behind the other. -/
def texts (pieces : List Piece) : List Char :=
  pieces.flatMap text

/-- The text of the first piece stands before that of the others. -/
theorem texts_cons (piece : Piece) (pieces : List Piece) :
    texts (piece :: pieces) = piece.text ++ texts pieces :=
  List.flatMap_cons

/-- Pieces with tokens that have a text are no more than the characters of their texts. -/
theorem length_le_length_texts {pieces : List Piece}
    (filled : ∀ piece ∈ pieces, piece.token.text ≠ "") : pieces.length ≤ (texts pieces).length := by
  induction pieces with
  | nil => exact Nat.le_refl 0
  | cons piece pieces ih =>
    obtain ⟨own, others⟩ := List.forall_mem_cons.mp filled
    have inner := ih others
    have nonempty : piece.token.text.toList ≠ [] := fun empty =>
      own (String.toList_eq_nil_iff.mp empty)
    have positive := List.length_pos_iff.mpr nonempty
    simp only [texts_cons, text, List.length_append, List.length_cons]
    omega

/-- A piece is well placed behind some text and in front of some text, when the first line has the
given number. -/
structure Placed (firstLine : Nat) (passed : List Char) (piece : Piece) (following : List Char) :
    Prop where
  /-- A gap stands before the token. -/
  gap : IsGap (piece.token.text.toList ++ following) piece.gap
  /-- The line of the token counts the line ends before its text. -/
  line : piece.token.line = firstLine + (passed ++ piece.gap).count '\n'
  /-- Every token but the end of data has a text. -/
  nonempty : piece.token.kind ≠ .endOfData → piece.token.text ≠ ""
  /-- The end of data has no text and stands at the end. -/
  ended : piece.token.kind = .endOfData → piece.token.text = "" ∧ following = []

/-- Text in front of what is before a piece moves its lines on. -/
theorem Placed.behind {firstLine : Nat} {before passed following : List Char} {piece : Piece}
    (placed : piece.Placed (firstLine + before.count '\n') passed following) :
    piece.Placed firstLine (before ++ passed) following := by
  refine ⟨placed.gap, ?_, placed.nonempty, placed.ended⟩
  rw [placed.line]
  simp only [List.append_assoc, List.count_append]
  omega

end Piece

namespace Cursor

/-- Pieces make up the text from one place to another, all of them well placed. -/
structure Partition (start : Cursor) (pieces : List Piece) (left : Cursor) : Prop where
  /-- The pieces and what is left make up the text. -/
  text : start.rest = Piece.texts pieces ++ left.rest
  /-- The line moves on by the line ends passed over. -/
  line : left.line = start.line + (Piece.texts pieces).count '\n'
  /-- Every piece is well placed. -/
  placed : ∀ before piece after, pieces = before ++ piece :: after →
    piece.Placed start.line (Piece.texts before) (Piece.texts after ++ left.rest)

/-- The next token is well placed behind the gap that a step passes over. -/
theorem exists_placed_next (cursor : Cursor) :
    ∃ piece : Piece, piece.token = cursor.next.1 ∧ cursor.rest = piece.text ++ cursor.next.2.rest ∧
      cursor.next.2.line = cursor.line + piece.text.count '\n' ∧
      piece.Placed cursor.line [] cursor.next.2.rest := by
  obtain ⟨gap, split, skipped, own, after⟩ := cursor.exists_next_split
  refine ⟨⟨gap, cursor.next.1⟩, rfl, ?_, after, skipped, own, fun going => ?_, fun ended => ?_⟩
  · rw [split, Piece.text, List.append_assoc]
  · exact fun empty => text_next_ne_nil going (String.toList_eq_nil_iff.mpr empty)
  · have last := next_of_endOfData ended
    exact ⟨last.1, last.2.1⟩

/-- A place is partitioned from itself by no pieces. -/
theorem partition_nil (cursor : Cursor) : cursor.Partition [] cursor :=
  ⟨rfl, rfl, fun before piece after split => by simp at split⟩

/-- A well placed piece in front of a partition. -/
theorem Partition.cons {start middle left : Cursor} {piece : Piece} {pieces : List Piece}
    (text : start.rest = piece.text ++ middle.rest)
    (line : middle.line = start.line + piece.text.count '\n')
    (placed : piece.Placed start.line [] middle.rest) (later : middle.Partition pieces left) :
    start.Partition (piece :: pieces) left := by
  refine ⟨?_, ?_, fun before other after split => ?_⟩
  · rw [text, later.text, Piece.texts_cons, List.append_assoc]
  · rw [later.line, line, Piece.texts_cons, List.count_append, Nat.add_assoc]
  · cases before with
    | nil =>
      obtain ⟨rfl, rfl⟩ := List.cons.inj split
      exact later.text ▸ placed
    | cons first before =>
      obtain ⟨rfl, inner⟩ := List.cons.inj split
      have own := later.placed before other after inner
      rw [line] at own
      exact own.behind

/-- Steps partition the text that they pass over. -/
theorem exists_partition_advance (cursor : Cursor) (count : Nat) :
    ∃ pieces : List Piece, pieces.map Piece.token = (cursor.advance count).1 ∧
      cursor.Partition pieces (cursor.advance count).2 := by
  induction count generalizing cursor with
  | zero => exact ⟨[], rfl, cursor.partition_nil⟩
  | succ count ih =>
    obtain ⟨piece, own, text, line, placed⟩ := cursor.exists_placed_next
    obtain ⟨pieces, tokens, later⟩ := ih cursor.next.2
    refine ⟨piece :: pieces, ?_, .cons text line placed later⟩
    rw [List.map_cons, own, tokens]
    rfl

/-- What a cursor may be asked for. -/
inductive Request where
  /-- The next token. -/
  | next
  /-- A look at the next token, without moving. -/
  | peek
  /-- To pass over the rest of the line and its end. -/
  | skipLine

/-- The request moves the cursor on: it is no mere look. -/
def Request.moves : Request → Bool
  | next | skipLine => true
  | peek => false

/-- The tokens up to the end of the line, which is the last of them. -/
def lineTokens (cursor : Cursor) : List Token :=
  if h : cursor.next.1.kind.isEnd then
    [cursor.next.1]
  else
    have := length_next_lt cursor fun equation => by simp [equation, TokenKind.isEnd] at h
    cursor.next.1 :: cursor.next.2.lineTokens
  termination_by cursor.rest.length

/-- The tokens that a request passes over, and the cursor after it. -/
def consume (cursor : Cursor) : Request → List Token × Cursor
  | .next => ([cursor.next.1], cursor.next.2)
  | .peek => ([], cursor)
  | .skipLine => (cursor.lineTokens, cursor.skipLine.2)

/-- The tokens that requests pass over one after the other, and the cursor after them. -/
def run (cursor : Cursor) : List Request → List Token × Cursor
  | [] => ([], cursor)
  | request :: rest =>
    ((cursor.consume request).1 ++ ((cursor.consume request).2.run rest).1,
      ((cursor.consume request).2.run rest).2)

/-- Passing over the rest of a line is a number of steps, one more than the tokens that are
counted. -/
theorem advance_skipLine (cursor : Cursor) :
    cursor.advance (cursor.skipLine.1 + 1) = (cursor.lineTokens, cursor.skipLine.2) := by
  fun_induction skipLine cursor with
  | case1 cursor ended => rw [lineTokens, dif_pos ended]; rfl
  | case2 cursor going _ count after equation ih =>
    rw [equation] at ih
    rw [lineTokens, dif_neg going, advance, ih]

/-- A request passes over what a number of steps passes over, one or more if it moves. -/
theorem exists_consume_eq_advance (cursor : Cursor) (request : Request) :
    ∃ count, cursor.consume request = cursor.advance count ∧
      (if request.moves then 1 else 0) ≤ count := by
  cases request with
  | next => exact ⟨1, rfl, Nat.le_refl 1⟩
  | peek => exact ⟨0, rfl, Nat.le_refl 0⟩
  | skipLine => exact ⟨cursor.skipLine.1 + 1, cursor.advance_skipLine.symm, Nat.le_add_left 1 _⟩

/-- Requests pass over what a number of steps passes over, one or more for each that moves. -/
theorem exists_run_eq_advance (cursor : Cursor) (requests : List Request) :
    ∃ count, cursor.run requests = cursor.advance count ∧
      requests.countP Request.moves ≤ count := by
  induction requests generalizing cursor with
  | nil => exact ⟨0, rfl, Nat.le_refl 0⟩
  | cons request rest ih =>
    obtain ⟨first, own, least⟩ := cursor.exists_consume_eq_advance request
    obtain ⟨second, later, others⟩ := ih (cursor.consume request).2
    refine ⟨first + second, ?_, ?_⟩
    · rw [run, later, own, advance_add]
    · rw [List.countP_cons]
      omega

/-- More steps than the text has characters reach the end of data. -/
theorem exists_endOfData_of_length_lt {cursor : Cursor} {count : Nat}
    (enough : cursor.rest.length < count) :
    ∃ token ∈ (cursor.advance count).1, token.kind = .endOfData := by
  -- Without an end of data every step takes a character, which is more than there are.
  refine Classical.byContradiction fun none_ => ?_
  obtain ⟨pieces, tokens, partition⟩ := cursor.exists_partition_advance count
  have filled : ∀ piece ∈ pieces, piece.token.text ≠ "" := by
    intro piece listed
    obtain ⟨before, after, split⟩ := List.append_of_mem listed
    refine (partition.placed before piece after split).nonempty fun ended => none_ ?_
    exact ⟨piece.token, tokens ▸ List.mem_map_of_mem listed, ended⟩
  have fewer := Piece.length_le_length_texts filled
  have steps := congrArg List.length tokens
  have whole := congrArg List.length partition.text
  rw [List.length_map, length_advance] at steps
  rw [List.length_append] at whole
  omega

/-- However a cursor is asked, what it passes over is partitioned into gaps and the texts of tokens,
with lines that count the line ends before them, and so is the token that it sees next. Enough
requests reach the end of data, and from then on the cursor gives it forever. -/
theorem run_partitions (data : String) (firstLine : Nat) (requests : List Request) :
    let start := ofText data firstLine
    let consumed := (start.run requests).1
    let after := (start.run requests).2
    (∃ pieces : List Piece, pieces.map Piece.token = consumed ∧ start.Partition pieces after ∧
      ∃ (seen : Piece) (following : List Char), seen.token = after.peek ∧
        after.rest = seen.text ++ following ∧
        seen.Placed firstLine (Piece.texts pieces) following) ∧
    (∀ token ∈ consumed, token.kind = .endOfData →
      after.rest = [] ∧ after.next = (token, after)) ∧
    (data.length < requests.countP Request.moves →
      ∃ token ∈ consumed, token.kind = .endOfData) := by
  intro start consumed after
  obtain ⟨count, steps, least⟩ := start.exists_run_eq_advance requests
  have tokens : consumed = (start.advance count).1 := congrArg Prod.fst steps
  have left : after = (start.advance count).2 := congrArg Prod.snd steps
  rw [tokens, left]
  refine ⟨?_, fun token listed ended => next_advance_of_endOfData listed ended, fun enough => ?_⟩
  · obtain ⟨pieces, own, partition⟩ := start.exists_partition_advance count
    obtain ⟨seen, token, text, _, placed⟩ := (start.advance count).2.exists_placed_next
    rw [partition.line] at placed
    have behind := placed.behind
    rw [List.append_nil] at behind
    exact ⟨pieces, own, partition, seen, _, token, text, behind⟩
  · have long : start.rest.length < count := by
      have size : data.toList.length = data.length := String.length_toList
      change data.toList.length < count
      omega
    exact exists_endOfData_of_length_lt long

/-- A word, a comma and a comment, read by a look, a step, a skipped line and steps beyond the
end. -/
theorem run_partitions_beyond_end :
    let run := (ofText "a,#\n" 7).run [.peek, .next, .skipLine, .next, .next, .next]
    "a,#\n".length < [Request.peek, .next, .skipLine, .next, .next, .next].countP Request.moves ∧
      ∃ token ∈ run.1, token.kind = .endOfData ∧ run.2.rest = [] ∧ run.2.next = (token, run.2) := by
  intro run
  have enough : "a,#\n".length <
      [Request.peek, .next, .skipLine, .next, .next, .next].countP Request.moves := by decide
  obtain ⟨_, still, reached⟩ :=
    run_partitions "a,#\n" 7 [.peek, .next, .skipLine, .next, .next, .next]
  obtain ⟨token, listed, ended⟩ := reached enough
  exact ⟨enough, token, listed, ended, still token listed ended⟩

end Cursor

end GpuScript
