import GpuScript.Proofs.Command.PulledLine
import GpuScript.Proofs.Command.PulledSetting
import GpuScript.Proofs.Test.Lines

/-!
# Test sections read from one cursor

A test section can be read without its logical lines at hand: one cursor runs through the body, and
every line pulls the tokens that its grammar asks for, until it finds its own end or is refused. A
line that is accepted leaves the cursor behind its own end, whatever its grammar is
(`Test.pullLine_eq`), so no line takes anything of the next one or leaves anything to it, and the
section is the same as when it is cut into lines first (`Test.pullFrom_eq`). Two texts one behind
the other are therefore read one after the other, as long as the first ends with a line
(`Test.pull_append`).
-/

namespace GpuScript

/-- What a line gives that was pulled from a cursor: the pipeline state after it, and its command,
if it is one, with the cursor behind it, or the cause why the line is refused. -/
structure PulledLine where
  /-- The pipeline state after the line. -/
  pipeline : Pipeline
  /-- The operation of a command line, and the cursor behind the line. -/
  operation : Except Command.Error (Option Operation × Cursor)

namespace Test

open Cursor

/-- A property line, pulled from the cursor behind the name of the property. -/
def pullProperty (pipeline : Pipeline) (property : Property) (cursor : Cursor) : PulledLine :=
  match Command.pullSetting property cursor with
  | .error cause => ⟨pipeline, .error cause⟩
  | .ok (value, ending) => ⟨pipeline.set property value, ending⟩

/-- A line that opens with a token, pulled from the cursor behind that token. -/
def pullLine (pipeline : Pipeline) (token : Token) (cursor : Cursor) : PulledLine :=
  match token.word? with
  | none => ⟨pipeline, .error .nameNotWord⟩
  | some name =>
    match Property.ofName? name with
    | some property => pullProperty pipeline property cursor
    | none =>
      ⟨pipeline, (Command.pullOperation pipeline name cursor).map fun (operation, after) =>
        (some operation, after)⟩

/-- A property line pulls what is left on it and its end, and gives what it is read as. -/
theorem pullProperty_eq (pipeline : Pipeline) (property : Property) (cursor : Cursor) :
    pullProperty pipeline property cursor =
      ⟨(readProperty pipeline property cursor.restOfLine).pipeline,
        cursor.behindLine (readProperty pipeline property cursor.restOfLine).operation⟩ := by
  rw [pullProperty, Command.pullSetting_eq, readProperty]
  cases Command.propertyValue property cursor.restOfLine <;> rfl

/-- A line pulls what is left on it and its end, and gives what it is read as. -/
theorem pullLine_eq (pipeline : Pipeline) (token : Token) (cursor : Cursor) :
    pullLine pipeline token cursor =
      ⟨(readLine pipeline ⟨token, cursor.restOfLine⟩).pipeline,
        cursor.behindLine (readLine pipeline ⟨token, cursor.restOfLine⟩).operation⟩ := by
  rw [pullLine, readLine]
  dsimp only
  cases token.word? with
  | none => rfl
  | some name =>
    dsimp only
    cases Property.ofName? name with
    | some property => exact pullProperty_eq pipeline property cursor
    | none =>
      dsimp only
      rw [Command.pullOperation_eq, map_behindLine]

/-- A line that is accepted leaves the cursor behind its own end. -/
theorem after_of_pullLine {pipeline : Pipeline} {token : Token} {cursor after : Cursor}
    {operation : Option Operation}
    (pulled : (pullLine pipeline token cursor).operation = .ok (operation, after)) :
    after = cursor.skipLine.2 ∧
      (readLine pipeline ⟨token, cursor.restOfLine⟩).operation = .ok operation := by
  rw [pullLine_eq] at pulled
  obtain ⟨_, read, same⟩ := map_eq_ok.mp pulled
  obtain ⟨rfl, rfl⟩ := Prod.mk.inj same
  exact ⟨rfl, read⟩

/-- The lines at a cursor, from a pipeline state on. -/
def pullFrom (pipeline : Pipeline) (cursor : Cursor) : TestReading :=
  if ended : cursor.next.1.kind = .endOfData then
    ⟨[], pipeline, none⟩
  else
    have := length_next_lt cursor ended
    if cursor.next.1.kind = .endOfLine then
      pullFrom pipeline cursor.next.2
    else
      match pulled : (pullLine pipeline cursor.next.1 cursor.next.2).operation with
      | .error cause =>
        ⟨[], (pullLine pipeline cursor.next.1 cursor.next.2).pipeline,
          some ⟨cursor.next.1.line, cause⟩⟩
      | .ok (operation, after) =>
        have := (after_of_pullLine pulled).1 ▸ cursor.next.2.length_skipLine_le
        let later := pullFrom (pullLine pipeline cursor.next.1 cursor.next.2).pipeline after
        { later with commands := operation.toList.map (⟨cursor.next.1.line, ·⟩) ++ later.commands }
  termination_by cursor.rest.length

/-- The body of a test section whose first line has the given number, read from one cursor, from a
pipeline state on. -/
def pull (pipeline : Pipeline) (text : String) (firstLine : Nat) : TestReading :=
  pullFrom pipeline (Cursor.ofText text firstLine)

/-- However lines are read, from one cursor or cut into lines first, they give the same. -/
theorem pullFrom_eq (pipeline : Pipeline) (cursor : Cursor) :
    pullFrom pipeline cursor = readLines pipeline (TokenLine.ofTokens cursor.tokens) := by
  fun_induction pullFrom pipeline cursor with
  | case1 pipeline cursor ended =>
    rw [Cursor.ofTokens_tokens_of_endOfData ended]
    rfl
  | case2 pipeline cursor going shorter ended ih =>
    rw [ih, Cursor.ofTokens_tokens_of_isEnd (TokenKind.isEnd_iff.mpr (.inr ended))]
  | case3 pipeline cursor going _ inner cause pulled =>
    have opens := TokenKind.not_isEnd going inner
    rw [pullLine_eq] at pulled ⊢
    have refused := map_eq_error.mp pulled
    rw [Cursor.ofTokens_tokens_of_not_isEnd opens, readLines, refused]
    rfl
  | case4 pipeline cursor going _ inner operation after pulled _ later ih =>
    -- The cursor stands behind the end of this line and no other: what is left are the others.
    have opens := TokenKind.not_isEnd going inner
    obtain ⟨rfl, read⟩ := after_of_pullLine pulled
    dsimp only [later]
    rw [ih, pullLine_eq, Cursor.ofTokens_tokens_of_not_isEnd opens, readLines_cons_of_ok read]
    rfl

/-- A text that ends with a line: a switch, a list of names, a tuple in brackets and one without
them, values, and a command without operands, some of them on joined lines. -/
def joinedLines : String :=
  "depthTestEnable \\\n true # on\ncolorWriteMask R |\\\n G\nprobe rgb (0, 0) 1 1 1\n" ++
    "uniform vec2 0 1 \\\n 2\nclear\n"

/-- A text pulled from one cursor gives what its logical lines give, as every line pulls what is
left on it and its own end and is read as it stands. So what stands behind a text that ends with a
line changes nothing in how the text is read, and it is read from the pipeline state and the line at
which the text ends. -/
theorem pull_append (pipeline : Pipeline) (first second : String) (firstLine : Nat)
    (ended : (Cursor.ofText first firstLine).EndsWithLine) (closed : ClosesComments first.toList) :
    (∀ (state : Pipeline) (token : Token) (cursor : Cursor),
      pullLine state token cursor =
        ⟨(readLine state ⟨token, cursor.restOfLine⟩).pipeline,
          cursor.behindLine (readLine state ⟨token, cursor.restOfLine⟩).operation⟩) ∧
    (∀ (state : Pipeline) (text : String) (line : Nat),
      pull state text line = readFrom state text line) ∧
    pull pipeline (first ++ second) firstLine =
      (pull pipeline first firstLine).andThen fun pipeline =>
        pull pipeline second (firstLine + first.toList.count '\n') := by
  have lines (state : Pipeline) (text : String) (line : Nat) :
      pull state text line = readFrom state text line :=
    pullFrom_eq state (Cursor.ofText text line)
  refine ⟨pullLine_eq, lines, ?_⟩
  simp only [lines]
  rw [readFrom, TokenLine.ofText_append ended closed, readLines_append]
  rfl

/-- The text in front of a line with an optional word and one that is refused. -/
theorem pull_append_joined :
    (Cursor.ofText joinedLines 3).EndsWithLine ∧ ClosesComments joinedLines.toList ∧
    pull Pipeline.default (joinedLines ++ "draw rect ortho 0 0 1 1\nclear 1\n") 3 =
      (pull Pipeline.default joinedLines 3).andThen fun pipeline =>
        pull pipeline "draw rect ortho 0 0 1 1\nclear 1\n"
          (3 + joinedLines.toList.count '\n') := by
  have ended : (Cursor.ofText joinedLines 3).EndsWithLine := by decide +kernel
  have closed : ClosesComments joinedLines.toList := closesComments_of_getLast (by decide +kernel)
  exact ⟨ended, closed, (pull_append _ _ _ _ ended closed).2.2⟩

/-- Inside a comment the last line of a text goes on in the text behind it, although the last token
before the comment is a line end. -/
theorem pull_append_open_comment :
    (Cursor.ofText "clear\n#" 1).EndsWithLine ∧
    (pull Pipeline.default "clear\n#" 1).failure = none ∧
    pull Pipeline.default ("clear\n#" ++ "clear\n") 1 ≠
      (pull Pipeline.default "clear\n#" 1).andThen fun pipeline =>
        pull pipeline "clear\n" (1 + "clear\n#".toList.count '\n') := by
  refine ⟨by decide +kernel, by decide +kernel, fun same => ?_⟩
  have fewer := congrArg (fun reading => reading.commands.length) same
  revert fewer
  decide +kernel

end Test

end GpuScript
