import GpuScript.Replacement
import GpuScript.Script.Error
import GpuScript.Text.Lines

/-!
# Sources of scripts

A source is a text or the name of a file, with the replacements that are applied to its lines. It
is read line by line: each physical line is decoded and has its tokens replaced on its own, and a
line that is refused ends the reading. A line that is empty after its replacements, line end
included, ends the reading as well, as the end of the text does.
-/

namespace GpuScript

open Text

/-- Where the text of a script is. -/
inductive Location where
  /-- The text itself. -/
  | text (text : String)
  /-- The file with a name. -/
  | file (name : String)
  deriving DecidableEq

/-- Where the text of a script is, and what is replaced in it. -/
structure Source where
  /-- Where the text is. -/
  location : Location
  /-- The replacements in the order in which they are tried. -/
  replacements : List Replacement
  deriving DecidableEq

namespace Source

/-- The name of a source in messages. -/
def name (source : Source) : String :=
  match source.location with
  | .text _ => "(string source)"
  | .file name => name

/-- The physical lines of a file; none for a line whose bytes are no text. -/
def decodeLines (contents : ByteArray) : List (Option (List Char)) :=
  (splitAfter (· == 10) contents.data.toList).map fun bytes =>
    (String.fromUTF8? ⟨bytes.toArray⟩).map String.toList

/-- The physical lines of a source; none for a line whose bytes are no text. -/
def physicalLines (files : Files) (source : Source) :
    Except ScriptError (List (Option (List Char))) :=
  match source.location with
  | .text text => .ok ((Text.physicalLines text.toList).map some)
  | .file name =>
    match files name with
    | .ok contents => .ok (decodeLines contents)
    | .error refusal => .error (.unreadable name refusal)

/-- The line with a number after its replacements. -/
def expand (source : Source) (number : Nat) (line : Option (List Char)) :
    Except ScriptError (List Char) :=
  match line with
  | none => .error (.invalidText source.name)
  | some line =>
    match Replacement.applyAll? source.replacements line with
    | some expanded => .ok expanded
    | none => .error (.line ⟨number, .endlessReplacement⟩)

/-- The lines from a number on as they are read: up to the first that is refused or empty. -/
def readLines (source : Source) (number : Nat) :
    List (Option (List Char)) → List (Except ScriptError (List Char))
  | [] => []
  | line :: rest =>
    match source.expand number line with
    | .error error => [.error error]
    | .ok [] => []
    | .ok expanded => .ok expanded :: source.readLines (number + 1) rest

/-- The lines of a source as they are read, or why it cannot be opened. -/
def lines (files : Files) (source : Source) :
    Except ScriptError (List (Except ScriptError (List Char))) :=
  (source.physicalLines files).map (source.readLines 1)

end Source

end GpuScript
