import GpuScript.Script.Basic

/-!
# A reader that keeps its nodes

A reader has a list of nodes and adds to it, block by block, section by section or source by
source. A source is split into sections before the first of them is read, so a source whose
headers are refused adds nothing; a section that is refused adds nothing and ends the source, but
the nodes of the sections before it stay.
-/

namespace GpuScript

/-- A reader of scripts: how it reads, and the nodes so far. -/
structure ScriptReader where
  /-- How strictly sources are read. -/
  config : Config
  /-- The nodes in order. -/
  nodes : List Node
  deriving DecidableEq

/-- What a call of a reader gives. -/
structure ReaderStep where
  /-- The records of the call in order. -/
  records : List LogRecord
  /-- The reader after the call. -/
  reader : ScriptReader
  /-- Why the call failed, if it did. -/
  failure : Option ScriptError

namespace ScriptReader

/-- A reader without nodes. -/
def new (config : Config) : ScriptReader :=
  ⟨config, []⟩

/-- The reader with a node behind its nodes. -/
def push (reader : ScriptReader) (node : Node) : ScriptReader :=
  { reader with nodes := reader.nodes ++ [node] }

/-- Takes what reading a section gives. -/
def take (reader : ScriptReader) (reading : SectionReading) : ReaderStep :=
  match reading.result with
  | .error error => ⟨reading.records, reader, some error⟩
  | .ok none => ⟨reading.records, reader, none⟩
  | .ok (some node) => ⟨reading.records, reader.push node, none⟩

/-- Reads the body of a section. -/
def readBlock (reader : ScriptReader) (part : Section) : ReaderStep :=
  reader.take (Node.readBody part)

/-- Reads a section, with a record about it. -/
def readSection (reader : ScriptReader) (part : Section) : ReaderStep :=
  reader.take (Node.ofSection part)

/-- Reads sections in order, up to the first that is refused. -/
def readSections (reader : ScriptReader) : List Section → ReaderStep
  | [] => ⟨[], reader, none⟩
  | part :: rest =>
    let step := reader.readSection part
    match step.failure with
    | some _ => step
    | none =>
      let later := step.reader.readSections rest
      { later with records := step.records ++ later.records }

/-- Reads a source: splits it into sections and reads these. -/
def readSource (reader : ScriptReader) (files : Files) (source : Source) : ReaderStep :=
  match Section.split files reader.config.strict source with
  | (records, .error error) => ⟨records, reader, some error⟩
  | (records, .ok sections) =>
    let step := reader.readSections sections
    { step with records := records ++ step.records }

end ScriptReader

end GpuScript
