import GpuScript.Command.Form
import GpuScript.Command.Setting

/-!
# Test sections

A test section is a list of logical lines. A line is a property line, which changes the pipeline
state for the lines after it, or a command line, which adds a command and leaves the state alone.
Reading stops at the first line that is refused.

A property takes its value as soon as that is read: a line that is refused because something
follows the value has changed the state.
-/

namespace GpuScript

/-- What a line of a test section gives: the pipeline state after it, and a command, nothing, or
the cause why the line is refused. -/
structure LineResult where
  /-- The pipeline state after the line. -/
  pipeline : Pipeline
  /-- The operation of a command line. -/
  operation : Except Command.Error (Option Operation)

/-- The commands of a test section and the pipeline state at its end. -/
structure Test where
  /-- The commands in order. -/
  commands : List Command
  /-- The pipeline state after the last line. -/
  pipeline : Pipeline
  deriving DecidableEq, BEq

/-- How far a test section was read. -/
structure TestReading where
  /-- The commands of the lines that were accepted. -/
  commands : List Command
  /-- The pipeline state after the last line that was looked at. -/
  pipeline : Pipeline
  /-- The line that was refused, if there is one. -/
  failure : Option (Located Command.Error)

namespace Test

/-- Reads a property line from the tokens after the name of the property. -/
def readProperty (pipeline : Pipeline) (property : Property) (tokens : List Token) : LineResult :=
  match Command.propertyValue property tokens with
  | .error cause => ⟨pipeline, .error cause⟩
  | .ok (value, rest) =>
    ⟨pipeline.set property value,
      (Command.finish (.extraPropertyOperand property) rest).map fun _ => none⟩

/-- Reads a line of a test section. -/
def readLine (pipeline : Pipeline) (line : TokenLine) : LineResult :=
  match line.first.word? with
  | none => ⟨pipeline, .error .nameNotWord⟩
  | some name =>
    match Property.ofName? name with
    | some property => readProperty pipeline property line.rest
    | none => ⟨pipeline, (Command.readOperation pipeline name line.rest).map some⟩

/-- Reads lines from a pipeline state on. -/
def readLines (pipeline : Pipeline) : List TokenLine → TestReading
  | [] => ⟨[], pipeline, none⟩
  | line :: rest =>
    let result := readLine pipeline line
    match result.operation with
    | .error cause => ⟨[], result.pipeline, some ⟨line.line, cause⟩⟩
    | .ok none => readLines result.pipeline rest
    | .ok (some operation) =>
      let reading := readLines result.pipeline rest
      { reading with commands := ⟨line.line, operation⟩ :: reading.commands }

/-- Reads the body of a test section whose first line has the given number. -/
def read (text : String) (firstLine : Nat) : TestReading :=
  readLines Pipeline.default (TokenLine.ofText text firstLine)

/-- The test section with a body, or the first line that is refused and why. -/
def parse (text : String) (firstLine : Nat) : Except (Located Command.Error) Test :=
  let reading := read text firstLine
  match reading.failure with
  | some failure => .error failure
  | none => .ok ⟨reading.commands, reading.pipeline⟩

end Test

end GpuScript
