import GpuScript.Proofs.Result
import GpuScript.Proofs.Token.Line
import GpuScript.Test

/-!
# Test sections are read line by line

A test section is read from a pipeline state on, and the state is all that one line leaves to the
next. Reading lines behind other lines is therefore reading them from the state that those leave
(`Test.readLines_append`), and the lines of two texts one behind the other are those of the first
and those of the second (`TokenLine.ofText_append`), as long as the first text ends with a line: its
last token is a line end, and it does not end inside a comment.
-/

namespace GpuScript

/-- The last token before the end of data is a line end. -/
def Cursor.EndsWithLine (cursor : Cursor) : Prop :=
  cursor.tokens.dropLast.getLast?.map Token.kind = some .endOfLine

/-- The tokens of a text tell whether it ends with a line. -/
instance (cursor : Cursor) : Decidable cursor.EndsWithLine :=
  inferInstanceAs (Decidable (_ = _))

/-- A text that ends with a line has the same logical lines in front of any text, and what is
behind it has those that it has alone. -/
theorem TokenLine.ofText_append {first : String} {firstLine : Nat}
    (ended : (Cursor.ofText first firstLine).EndsWithLine) (closed : ClosesComments first.toList)
    (second : String) :
    ofText (first ++ second) firstLine =
      ofText first firstLine ++ ofText second (firstLine + first.toList.count '\n') := by
  obtain ⟨token, final, line⟩ := Option.map_eq_some_iff.mp ended
  obtain ⟨init, shape⟩ := List.getLast?_eq_some_iff.mp final
  have ends : token.kind.isEnd = true := by rw [line]; rfl
  have settled : (Cursor.ofText first firstLine).Settled := by
    refine Cursor.settled_of_endOfLine _ (fun other found => ?_) closed
    rw [final] at found
    exact Option.some.inj found ▸ line
  have whole : (Cursor.ofText (first ++ second) firstLine).tokens =
      init ++ token :: (Cursor.ofText second (firstLine + first.toList.count '\n')).tokens := by
    have split := settled.tokens_append second.toList
    rw [shape, List.append_assoc, List.singleton_append] at split
    rw [Cursor.ofText, String.toList_append]
    exact split
  have alone : ofText first firstLine = ofTokens init := by
    rw [ofText, Cursor.tokens_eq_dropLast, shape, ofTokens_append_singleton rfl,
      ofTokens_append_singleton ends]
  rw [ofText, whole, ofTokens_append_cons ends, alone, ofText]

namespace TestReading

/-- Goes on from the pipeline state at the end of a reading, unless a line was refused. -/
def andThen (reading : TestReading) (onward : Pipeline → TestReading) : TestReading :=
  match reading.failure with
  | some _ => reading
  | none =>
    let later := onward reading.pipeline
    { later with commands := reading.commands ++ later.commands }

/-- The first line that is refused ends readings that follow one another. -/
theorem failure_andThen (reading : TestReading) (onward : Pipeline → TestReading) :
    (reading.andThen onward).failure =
      reading.failure.or (onward reading.pipeline).failure := by
  cases own : reading.failure <;> simp only [andThen, own] <;> rfl

/-- It does not matter how readings that follow one another are grouped. -/
theorem andThen_assoc (reading : TestReading) (second third : Pipeline → TestReading) :
    (reading.andThen second).andThen third =
      reading.andThen fun pipeline => (second pipeline).andThen third := by
  cases own : reading.failure with
  | some failure => simp only [andThen, own]
  | none =>
    cases next : (second reading.pipeline).failure with
    | some failure => simp only [andThen, own, next]
    | none => simp only [andThen, own, next, List.append_assoc]

end TestReading

/-- The reading of a single line with its number. -/
def LineResult.reading (result : LineResult) (line : Nat) : TestReading :=
  match result.operation with
  | .error cause => ⟨[], result.pipeline, some ⟨line, cause⟩⟩
  | .ok operation => ⟨operation.toList.map (⟨line, ·⟩), result.pipeline, none⟩

namespace Test

/-- Lines are read one by one. -/
theorem readLines_cons (pipeline : Pipeline) (line : TokenLine) (rest : List TokenLine) :
    readLines pipeline (line :: rest) =
      ((readLine pipeline line).reading line.line).andThen fun pipeline =>
        readLines pipeline rest := by
  rw [readLines, LineResult.reading]
  cases (readLine pipeline line).operation with
  | error cause => rfl
  | ok operation => cases operation <;> rfl

/-- Lines after other lines are read from the pipeline state that those leave. -/
theorem readLines_append (pipeline : Pipeline) (before after : List TokenLine) :
    readLines pipeline (before ++ after) =
      (readLines pipeline before).andThen fun pipeline => readLines pipeline after := by
  induction before generalizing pipeline with
  | nil => rfl
  | cons line rest ih =>
    rw [List.cons_append, readLines_cons, readLines_cons, TestReading.andThen_assoc]
    simp only [ih]

/-- A line that is accepted leaves its pipeline state to the lines after it, and adds its command in
front of theirs. -/
theorem readLines_cons_of_ok {pipeline : Pipeline} {line : TokenLine}
    {operation : Option Operation} (accepted : (readLine pipeline line).operation = .ok operation)
    (rest : List TokenLine) :
    readLines pipeline (line :: rest) =
      { readLines (readLine pipeline line).pipeline rest with
        commands := operation.toList.map (⟨line.line, ·⟩) ++
          (readLines (readLine pipeline line).pipeline rest).commands } := by
  rw [readLines, accepted]
  cases operation <;> rfl

/-- The first of lines without one that is refused is accepted. -/
theorem exists_operation_of_readLines {pipeline : Pipeline} {line : TokenLine}
    {rest : List TokenLine} (accepted : (readLines pipeline (line :: rest)).failure = none) :
    ∃ operation, (readLine pipeline line).operation = .ok operation := by
  cases result : (readLine pipeline line).operation with
  | error cause =>
    rw [readLines, result] at accepted
    cases accepted
  | ok operation => exact ⟨operation, rfl⟩

/-- The line is a command: it opens with a word that names no property. -/
def opensCommand (line : TokenLine) : Bool :=
  match line.first.word? with
  | none => false
  | some name => (Property.ofName? name).isNone

/-- A line that is accepted gives an operation exactly when it is a command. -/
theorem isSome_of_readLine {pipeline : Pipeline} {line : TokenLine} {operation : Option Operation}
    (accepted : (readLine pipeline line).operation = .ok operation) :
    operation.isSome = opensCommand line := by
  unfold readLine at accepted
  split at accepted
  · cases accepted
  · rename_i name word
    have opens : opensCommand line = (Property.ofName? name).isNone := by
      simp only [opensCommand, word]
    rw [opens]
    split at accepted
    · rename_i property named
      unfold readProperty at accepted
      split at accepted
      · cases accepted
      · obtain ⟨_, _, rfl⟩ := map_eq_ok.mp accepted
        simp [named]
    · rename_i named
      obtain ⟨_, _, rfl⟩ := map_eq_ok.mp accepted
      simp [named]

/-- A command has the number of a line and is the operation that is read from it. -/
structure ReadFrom (line : TokenLine) (command : Command) : Prop where
  /-- The command has the number of the line. -/
  number : command.line = line.line
  /-- The operation is that of the line, in some pipeline state. -/
  operation : ∃ pipeline, (readLine pipeline line).operation = .ok (some command.operation)

/-- The commands of lines without one that is refused are read from the lines that are commands,
one by one. -/
theorem forall₂_readLines {pipeline : Pipeline} {lines : List TokenLine}
    (accepted : (readLines pipeline lines).failure = none) :
    List.Forall₂ ReadFrom (lines.filter opensCommand) (readLines pipeline lines).commands := by
  induction lines generalizing pipeline with
  | nil => exact .nil
  | cons line rest ih =>
    obtain ⟨operation, result⟩ := exists_operation_of_readLines accepted
    have kind := isSome_of_readLine result
    rw [readLines_cons_of_ok result] at accepted ⊢
    have later := ih accepted
    cases operation with
    | none => rwa [List.filter_cons_of_neg (by simp [← kind])]
    | some operation =>
      rw [List.filter_cons_of_pos (by simp [← kind])]
      exact .cons ⟨rfl, pipeline, result⟩ later

/-- A body is accepted if no line is refused, as what was read. -/
theorem parse_eq_ok_iff {text : String} {firstLine : Nat} {test : Test} :
    parse text firstLine = .ok test ↔ (read text firstLine).failure = none ∧
      ⟨(read text firstLine).commands, (read text firstLine).pipeline⟩ = test := by
  unfold parse
  cases result : (read text firstLine).failure with
  | none => simp [result]
  | some failure => simp [result]

/-- A command of a body that is accepted is read from one of its lines. -/
theorem exists_readFrom {text : String} {firstLine : Nat} {test : Test} {command : Command}
    (accepted : parse text firstLine = .ok test) (listed : command ∈ test.commands) :
    ∃ line ∈ TokenLine.ofText text firstLine, ReadFrom line command := by
  obtain ⟨clean, rfl⟩ := parse_eq_ok_iff.mp accepted
  obtain ⟨line, found, read⟩ := exists_of_mem_right (forall₂_readLines clean) listed
  exact ⟨line, List.mem_of_mem_filter found, read⟩

/-- Reads the body of a test section from a pipeline state on. -/
def readFrom (pipeline : Pipeline) (text : String) (firstLine : Nat) : TestReading :=
  readLines pipeline (TokenLine.ofText text firstLine)

end Test

end GpuScript
