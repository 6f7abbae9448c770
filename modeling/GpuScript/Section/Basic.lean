import GpuScript.Stage
import GpuScript.Text.Blank

/-!
# Sections

A script is a sequence of sections, each opened by a header line with the kind of the section in
square brackets. The kind is told by the words between the brackets alone, however many blanks
stand between them.
-/

namespace GpuScript

open Text

/-- How a shader is written in its section. -/
inductive ShaderFormat where
  /-- As source text of the shading language. -/
  | glsl
  /-- As assembly text. -/
  | assembly
  /-- As hexadecimal words of the assembled shader. -/
  | words
  deriving DecidableEq

/-- What a section holds. -/
inductive SectionKind where
  /-- Text that is not looked at. -/
  | comment
  /-- What the script needs from the device. -/
  | require
  /-- A shader. -/
  | shader (stage : Stage) (format : ShaderFormat)
  /-- Nothing: the vertex shader hands its input on. -/
  | passthrough
  /-- The data of the vertices. -/
  | vertexData
  /-- The indices of the vertices. -/
  | indices
  /-- The commands of a test. -/
  | test
  deriving DecidableEq

namespace SectionKind

/-- The kind of a shader section, by the words after the stage. -/
def ofShaderWords? (stage : Stage) : List String → Option SectionKind
  | ["shader"] => some (.shader stage .glsl)
  | ["shader", "spirv"] => some (.shader stage .assembly)
  | ["shader", "spirv", "hex"] => some (.shader stage .words)
  | ["shader", "binary"] => some (.shader stage .words)
  | ["shader", "passthrough"] => if stage = .vertex then some .passthrough else none
  | _ => none

/-- The kind of section that words name. -/
def ofWords? : List String → Option SectionKind
  | ["comment"] => some .comment
  | ["require"] => some .require
  | ["vertex", "data"] => some .vertexData
  | ["indices"] => some .indices
  | ["test"] => some .test
  | words =>
    Stage.all.findSome? fun stage =>
      (stage.words.isPrefixOf? words).bind (ofShaderWords? stage)

/-- What log records call a kind of section. -/
def name : SectionKind → String
  | comment => "comment"
  | require => "require"
  | shader stage .glsl => stage.name ++ " shader"
  | shader stage .assembly => stage.name ++ " shader spirv"
  | shader stage .words => stage.name ++ " shader binary"
  | passthrough => "vertex shader passthrough"
  | vertexData => "vertex data"
  | indices => "indices"
  | test => "test"

end SectionKind

/-- A section of a script. -/
structure Section where
  /-- What the section holds. -/
  kind : SectionKind
  /-- The text after the header line, line ends included. -/
  body : String
  /-- The number of the first line of the body. -/
  firstLine : Nat
  deriving DecidableEq

namespace Section

/-- Why a line is refused where sections are told apart. -/
inductive Error where
  /-- A header has no closing bracket. -/
  | missingBracket
  /-- Something follows the closing bracket of a header. -/
  | trailingData
  /-- No kind of section has the name. -/
  | unknownKind (name : String)
  /-- A line that belongs to no section has content. -/
  | strayText
  deriving DecidableEq

namespace Error

/-- The message for a cause. -/
def message : Error → String
  | missingBracket => "Missing ‘]’"
  | trailingData => "Trailing data after ‘]’"
  | unknownKind name => "Unknown section “" ++ name ++ "”"
  | strayText => "expected empty line"

end Error

/-- A line is a header when an opening bracket is its first character. -/
def isHeader : List Char → Bool
  | [] => false
  | first :: _ => first == '['

/-- The kind of section that a header line opens. -/
def kindOfHeader (line : List Char) : Except Error SectionKind :=
  if line.contains ']' then
    let header := trimEnd line
    if header.dropWhile (· ≠ ']') = [']'] then
      let name := (header.takeWhile (· ≠ ']')).drop 1
      match SectionKind.ofWords? ((words name).map String.ofList) with
      | some kind => .ok kind
      | none => .error (.unknownKind (String.ofList (trim name)))
    else
      .error .trailingData
  else
    .error .missingBracket

end Section

end GpuScript
