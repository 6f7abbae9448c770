import GpuScript.Config
import GpuScript.Node
import GpuScript.Section.Splitter

/-!
# Scripts

A script is the list of the nodes of its sections. It is split into sections first, so that an
error in a header anywhere is found before an error in a body; then the sections are read in order
up to the first that is refused.
-/

namespace GpuScript

/-- A script: a name and the nodes of the sections in order. -/
structure Script where
  /-- The name of the source. -/
  name : String
  /-- The nodes in order. -/
  nodes : List Node
  deriving DecidableEq, BEq

/-- How far a script was read. -/
structure ScriptReading where
  /-- The records in order. -/
  records : List LogRecord
  /-- The nodes of the sections before the first that was refused. -/
  nodes : List Node
  /-- Why the script was refused, if it was. -/
  failure : Option ScriptError

namespace ScriptReading

/-- The reading with the records of a section, and its node if it has one, in front. -/
def withSection (records : List LogRecord) (node : Option Node) (reading : ScriptReading) :
    ScriptReading :=
  { reading with
    records := records ++ reading.records
    nodes := node.toList ++ reading.nodes }

/-- Reads sections in order. -/
def ofSections : List Section → ScriptReading
  | [] => ⟨[], [], none⟩
  | part :: rest =>
    let reading := Node.ofSection part
    match reading.result with
    | .error error => ⟨reading.records, [], some error⟩
    | .ok node => (ofSections rest).withSection reading.records node

/-- Reads a source. -/
def ofSource (files : Files) (strict : Bool) (source : Source) : ScriptReading :=
  match Section.split files strict source with
  | (records, .error error) => ⟨records, [], some error⟩
  | (records, .ok sections) =>
    let reading := ofSections sections
    { reading with records := records ++ reading.records }

end ScriptReading

namespace Script

/-- The script of a source, or why it is refused, with the records on the way. -/
def load (files : Files) (config : Config) (source : Source) :
    List LogRecord × Except ScriptError Script :=
  let reading := ScriptReading.ofSource files config.strict source
  match reading.failure with
  | some error => (reading.records, .error error)
  | none => (reading.records, .ok ⟨source.name, reading.nodes⟩)

/-- The tests of a script in order. -/
def tests (script : Script) : List Test :=
  script.nodes.filterMap Node.test?

/-- The commands of all tests of a script in order. -/
def commands (script : Script) : List Command :=
  script.tests.flatMap Test.commands

end Script

end GpuScript
