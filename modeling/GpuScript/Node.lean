import GpuScript.Log
import GpuScript.Operation.Printer
import GpuScript.Script.Error
import GpuScript.Test

/-!
# Nodes

What a section of a script stands for. Every section is read on its own and gives one node or none:
a comment gives none, and neither do a require, an index and a vertex data section without content.
-/

namespace GpuScript

open Text

/-- The shader of a stage. -/
inductive ShaderSource where
  /-- Source text of the shading language. -/
  | glsl (text : String)
  /-- Assembly text. -/
  | assembly (text : String)
  /-- The words of an assembled shader. -/
  | words (values : List UInt32)
  /-- The vertex shader that hands its input on. -/
  | passthrough
  deriving DecidableEq

namespace ShaderSource

/-- What a summary calls a shader. -/
def name : ShaderSource → String
  | glsl _ => "GLSL"
  | assembly _ => "SPIR-V assembly"
  | words _ => "SPIR-V binary"
  | passthrough => "passthrough"

/-- The shader has no content. -/
def isEmpty : ShaderSource → Bool
  | glsl text => text.toList.all isBlank
  | assembly text => text.toList.all isBlank
  | words values => values.isEmpty
  | passthrough => false

end ShaderSource

/-- What a section of a script stands for. -/
inductive Node where
  /-- What the script needs from the device. -/
  | require (requirements : Requirements)
  /-- A shader. -/
  | shader (stage : Stage) (source : ShaderSource)
  /-- The data of the vertices. -/
  | vertexData (table : VertexTable)
  /-- The indices of the vertices. -/
  | indices (values : List UInt16)
  /-- The commands of a test. -/
  | test (body : Test)
  deriving DecidableEq, BEq

/-- What reading a section gives: the records on the way, and a node, nothing, or the reason why
the section is refused. -/
structure SectionReading where
  /-- The records in order. -/
  records : List LogRecord
  /-- The node, if there is one. -/
  result : Except ScriptError (Option Node)

namespace Node

/-- The summary of a node in one line. -/
def summary : Node → String
  | require requirements =>
    "require: " ++ decimalText requirements.requirements.length ++ " features, "
      ++ decimalText requirements.extensions.length ++ " extensions"
  | shader stage source => stage.name ++ " shader: " ++ source.name
  | vertexData table =>
    "vertex data: " ++ decimalText table.columns.length ++ " attributes, "
      ++ decimalText table.rows.length ++ " vertices"
  | indices values => "indices: " ++ decimalText values.length
  | test body => "test: " ++ decimalText body.commands.length ++ " commands"

/-- The test of a node, if it is one. -/
def test? : Node → Option Test
  | test body => some body
  | _ => none

/-- The node of a require section. -/
def readRequire (body : String) (firstLine : Nat) : Except ScriptError (Option Node) :=
  match Requirements.parse body firstLine with
  | .error error => .error (.ofLocated .requirement error)
  | .ok requirements =>
    .ok (if requirements.isEmpty then none else some (.require requirements))

/-- The node of an index section. -/
def readIndices (body : String) (firstLine : Nat) : Except ScriptError (Option Node) :=
  match Indices.parse body firstLine with
  | .error error => .error (.ofLocated .index error)
  | .ok values => .ok (if values.isEmpty then none else some (.indices values))

/-- The node of a vertex data section. -/
def readVertexData (body : String) (firstLine : Nat) : Except ScriptError (Option Node) :=
  match VertexTable.parse? body firstLine with
  | .error error => .error (.ofLocated .vertexTable error)
  | .ok table => .ok (table.map .vertexData)

/-- The shader of a shader section. -/
def readSource (format : ShaderFormat) (body : String) (firstLine : Nat) :
    Except ScriptError ShaderSource :=
  match format with
  | .glsl => .ok (.glsl body)
  | .assembly => .ok (.assembly body)
  | .words =>
    match ShaderWords.parse body firstLine with
    | .error error => .error (.ofLocated .shaderWord error)
    | .ok values => .ok (.words values)

/-- The record about a shader without content. -/
def emptyShaderRecord (stage : Stage) (firstLine : Nat) : LogRecord :=
  .atLine .warn (firstLine - 1) ("the " ++ stage.name ++ " shader section is empty")

/-- Reads a shader section, with a warning about a shader without content. -/
def readShader (stage : Stage) (format : ShaderFormat) (body : String) (firstLine : Nat) :
    SectionReading :=
  match readSource format body firstLine with
  | .error error => ⟨[], .error error⟩
  | .ok source =>
    ⟨if source.isEmpty then [emptyShaderRecord stage firstLine] else [],
      .ok (some (.shader stage source))⟩

/-- The record about a command. -/
def commandRecord (command : Command) : LogRecord :=
  .atLine .trace command.line command.operation.text

/-- Reads a test section, with a record about each command. -/
def readTest (body : String) (firstLine : Nat) : SectionReading :=
  let reading := Test.read body firstLine
  let records := reading.commands.map commandRecord
  match reading.failure with
  | some failure => ⟨records, .error (.ofLocated .command failure)⟩
  | none => ⟨records, .ok (some (.test ⟨reading.commands, reading.pipeline⟩))⟩

/-- Reads the body of a section. -/
def readBody (part : Section) : SectionReading :=
  match part.kind with
  | .comment => ⟨[], .ok none⟩
  | .require => ⟨[], readRequire part.body part.firstLine⟩
  | .shader stage format => readShader stage format part.body part.firstLine
  | .passthrough => ⟨[], .ok (some (.shader .vertex .passthrough))⟩
  | .vertexData => ⟨[], readVertexData part.body part.firstLine⟩
  | .indices => ⟨[], readIndices part.body part.firstLine⟩
  | .test => readTest part.body part.firstLine

/-- The record about a section. -/
def sectionRecord (part : Section) : LogRecord :=
  .atLine .debug (part.firstLine - 1) ("[" ++ part.kind.name ++ "] section")

/-- Reads a section, with a record about it. -/
def ofSection (part : Section) : SectionReading :=
  let reading := readBody part
  { reading with records := sectionRecord part :: reading.records }

end Node

end GpuScript
