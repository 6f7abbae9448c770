import GpuScript.Log
import GpuScript.Source

/-!
# Splitting a script into sections

Every header line opens a section; the lines up to the next header are its body. Lines before the
first header, and lines after the header of a section without a body, must be blank. A lenient
reader passes over the lines before the first header with a warning for each that is not blank.
-/

namespace GpuScript.Section

open Text

/-- What the lines after a header belong to. -/
inductive Place where
  /-- No section has been opened. -/
  | start
  /-- The section that was opened last has no body. -/
  | closed
  /-- The section that was opened last has a body. -/
  | inside
  deriving DecidableEq

/-- What splitting gives: the records on the way, and the text that belongs to the section opened
before with the sections opened after it. -/
structure Splitting where
  /-- The records in order. -/
  records : List LogRecord
  /-- The text up to the first header, and the sections, or why the script is refused. -/
  result : Except ScriptError (List Char × List Section)

namespace Splitting

/-- The splitting with a line before its text. -/
def withLine (line : List Char) (splitting : Splitting) : Splitting :=
  { splitting with result := splitting.result.map fun (body, sections) => (line ++ body, sections) }

/-- The splitting with a record before its records. -/
def withRecord (record : LogRecord) (splitting : Splitting) : Splitting :=
  { splitting with records := record :: splitting.records }

/-- The splitting with a section before its sections: the text becomes the body of that section. -/
def withSection (kind : SectionKind) (firstLine : Nat) (splitting : Splitting) : Splitting :=
  { splitting with
    result := splitting.result.map fun (body, sections) =>
      ([], ⟨kind, String.ofList body, firstLine⟩ :: sections) }

/-- The splitting of a script that is refused. -/
def refused (error : ScriptError) : Splitting :=
  ⟨[], .error error⟩

end Splitting

/-- What a section of a kind makes of the lines after its header. -/
def placeAfter (kind : SectionKind) : Place :=
  match kind with
  | .passthrough => .closed
  | _ => .inside

/-- The record about a line that a lenient reader passes over. -/
def strayRecord (number : Nat) : LogRecord :=
  .atLine .warn number "ignoring text before the first section"

/-- Splits the lines from a number on. -/
def splitLines (strict : Bool) (place : Place) (number : Nat) :
    List (Except ScriptError (List Char)) → Splitting
  | [] => ⟨[], .ok ([], [])⟩
  | .error error :: _ => .refused error
  | .ok line :: rest =>
    if isHeader line then
      match kindOfHeader line with
      | .error cause => .refused (.line ⟨number, .splitting cause⟩)
      | .ok kind =>
        (splitLines strict (placeAfter kind) (number + 1) rest).withSection kind (number + 1)
    else
      match place with
      | .inside => (splitLines strict .inside (number + 1) rest).withLine line
      | .closed =>
        if isBlankLine line then splitLines strict .closed (number + 1) rest
        else .refused (.line ⟨number, .splitting .strayText⟩)
      | .start =>
        if isBlankLine line then
          splitLines strict .start (number + 1) rest
        else if strict then
          .refused (.line ⟨number, .splitting .strayText⟩)
        else
          (splitLines strict .start (number + 1) rest).withRecord (strayRecord number)

/-- Splits a source into its sections. -/
def split (files : Files) (strict : Bool) (source : Source) :
    List LogRecord × Except ScriptError (List Section) :=
  match source.lines files with
  | .error error => ([], .error error)
  | .ok lines =>
    let splitting := splitLines strict .start 1 lines
    (splitting.records, splitting.result.map Prod.snd)

end GpuScript.Section
