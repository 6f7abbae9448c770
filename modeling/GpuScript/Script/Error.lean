import GpuScript.Command.Error
import GpuScript.File.Refusal
import GpuScript.Indices
import GpuScript.Requirement
import GpuScript.Section.Basic
import GpuScript.ShaderWords
import GpuScript.VertexTable.Reader

/-!
# Errors of scripts

Why a script is refused: a line of it, or that it cannot be read at all.
-/

namespace GpuScript

/-- Why a line of a script is refused. -/
inductive LineError where
  /-- The replacements do not come to an end on the line. -/
  | endlessReplacement
  /-- The line is refused where sections are told apart. -/
  | splitting (cause : Section.Error)
  /-- The line of a require section is refused. -/
  | requirement (cause : Requirement.Error)
  /-- The line of a vertex data section is refused. -/
  | vertexTable (cause : VertexTable.Error)
  /-- A token of an index section is refused. -/
  | index (cause : Indices.Error)
  /-- A word of a hexadecimal shader is refused. -/
  | shaderWord (word : String)
  /-- The line of a test section is refused. -/
  | command (cause : Command.Error)
  deriving DecidableEq

namespace LineError

/-- The message for a cause. -/
def message : LineError → String
  | endlessReplacement => "The token replacements cause an infinite loop"
  | splitting cause => cause.message
  | requirement cause => cause.message
  | vertexTable cause => cause.message
  | index cause => cause.message
  | shaderWord word => ShaderWords.invalidMessage word
  | command cause => cause.message

end LineError

/-- Why a script is refused. -/
inductive ScriptError where
  /-- A line is refused. -/
  | line (error : Located LineError)
  /-- The file cannot be read. -/
  | unreadable (file : String) (refusal : FileRefusal)
  /-- The file has bytes that are no text. -/
  | invalidText (file : String)
  deriving DecidableEq

namespace ScriptError

/-- An error of a kind of section as an error of the script. -/
def ofLocated {α : Type} (wrap : α → LineError) (error : Located α) : ScriptError :=
  .line ⟨error.line, wrap error.cause⟩

/-- The line that is refused, if there is one. -/
def line? : ScriptError → Option Nat
  | line error => some error.line
  | _ => none

/-- The message without the line. -/
def message : ScriptError → String
  | line error => error.cause.message
  | unreadable file refusal => file ++ ": " ++ refusal.text
  | invalidText file => file ++ ": the script is not valid UTF-8"

/-- The whole text of an error. -/
def text (error : ScriptError) : String :=
  match error.line? with
  | some number => "line " ++ Text.decimalText number ++ ": " ++ error.message
  | none => error.message

end ScriptError

end GpuScript
