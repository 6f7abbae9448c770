import GpuScript.Proofs.Checked.Command
import GpuScript.Proofs.Checked.Requirement
import GpuScript.Proofs.Checked.Section
import GpuScript.Proofs.Checked.VertexTable
import GpuScript.Script.Basic

/-!
# Scripts without a part that is none

A script is loaded once more, and every part of a text, every entry of a table and every quotient
on the way is asked for where it is needed. Loading fails as a whole if one of them is none: if a
place is behind the end of a text, out of order or inside a character, if an index is not one of its
table, or if a divisor is zero. None of them ever is, and what is loaded is the script
(`load_checked`). The words of a shader are cut at blanks and take no part out of a text.
-/

namespace GpuScript.Checked

open Text

/-- The node of what a section says. -/
def nodeOf? {ε α : Type} (wrap : ε → LineError) (node : α → Option Node)
    (reading : Reading (Located ε) α) : Option (Except ScriptError (Option Node)) := do
  let result ← reading.run
  some ((result.mapError (ScriptError.ofLocated wrap)).map node)

/-- Reads the body of a section. -/
def readBody? (part : Section) : Option SectionReading :=
  match part.kind with
  | .comment => some ⟨[], .ok none⟩
  | .require => do
    let result ← nodeOf? .requirement
      (fun requirements => if requirements.isEmpty then none else some (.require requirements))
      (requirements? part.body part.firstLine)
    some ⟨[], result⟩
  | .shader stage format => some (Node.readShader stage format part.body part.firstLine)
  | .passthrough => some ⟨[], .ok (some (.shader .vertex .passthrough))⟩
  | .vertexData => do
    let result ← nodeOf? .vertexTable (fun table => table.map .vertexData)
      (vertexTable? part.body part.firstLine)
    some ⟨[], result⟩
  | .indices => do
    let result ← nodeOf? .index
      (fun values => if values.isEmpty then none else some (.indices values))
      (indices? part.body part.firstLine)
    some ⟨[], result⟩
  | .test => do
    let (reading, records) ← readTest? part.body part.firstLine
    match reading.failure with
    | some failure => some ⟨records, .error (.ofLocated .command failure)⟩
    | none => some ⟨records, .ok (some (.test ⟨reading.commands, reading.pipeline⟩))⟩

/-- Reads sections in order, with a record about each of them. -/
def readSections? : List Section → Option ScriptReading
  | [] => some ⟨[], [], none⟩
  | part :: rest => do
    let reading ← readBody? part
    let records := Node.sectionRecord part :: reading.records
    match reading.result with
    | .error error => some ⟨records, [], some error⟩
    | .ok node => do
      let later ← readSections? rest
      some (later.withSection records node)

/-- Reads a source. -/
def readSource? (files : Files) (strict : Bool) (source : Source) : Option ScriptReading := do
  let (records, sections) ← sections? files strict source
  match sections with
  | .error error => some ⟨records, [], some error⟩
  | .ok sections => do
    let reading ← readSections? sections
    some { reading with records := records ++ reading.records }

/-- The script of a source, or why it is refused, with the records on the way; nothing if any part
on the way is none. -/
def load? (files : Files) (config : Config) (source : Source) :
    Option (List LogRecord × Except ScriptError Script) := do
  let reading ← readSource? files config.strict source
  match reading.failure with
  | some error => some (reading.records, .error error)
  | none => some (reading.records, .ok ⟨source.name, reading.nodes⟩)

/-- The node of what is given. -/
theorem nodeOf?_given {ε α : Type} (wrap : ε → LineError) (node : α → Option Node)
    (result : Except (Located ε) α) :
    nodeOf? wrap node (given result) =
      some ((result.mapError (ScriptError.ofLocated wrap)).map node) :=
  rfl

/-- The body of a section is read without anything that is none. -/
theorem readBody?_eq (part : Section) : readBody? part = some (Node.readBody part) := by
  rw [readBody?, Node.readBody]
  cases part.kind with
  | comment => rfl
  | require =>
    dsimp only
    rw [requirements?_eq, nodeOf?_given, Node.readRequire]
    cases Requirements.parse part.body part.firstLine <;> rfl
  | shader stage format => rfl
  | passthrough => rfl
  | vertexData =>
    dsimp only
    rw [vertexTable?_eq, nodeOf?_given, Node.readVertexData]
    cases VertexTable.parse? part.body part.firstLine <;> rfl
  | indices =>
    dsimp only
    rw [indices?_eq, nodeOf?_given, Node.readIndices]
    cases Indices.parse part.body part.firstLine <;> rfl
  | test =>
    dsimp only
    rw [readTest?_eq, Node.readTest]
    dsimp only [Option.bind_eq_bind, Option.bind_some]
    cases (Test.read part.body part.firstLine).failure <;> rfl

/-- Sections are read without anything that is none. -/
theorem readSections?_eq (sections : List Section) :
    readSections? sections = some (ScriptReading.ofSections sections) := by
  induction sections with
  | nil => rfl
  | cons part rest ih =>
    rw [readSections?, readBody?_eq, ScriptReading.ofSections, ih, Node.ofSection]
    dsimp only [Option.bind_eq_bind, Option.bind_some]
    cases (Node.readBody part).result <;> rfl

/-- A source is read without anything that is none. -/
theorem readSource?_eq (files : Files) (strict : Bool) (source : Source) :
    readSource? files strict source = some (ScriptReading.ofSource files strict source) := by
  rw [readSource?, sections?_eq, ScriptReading.ofSource]
  dsimp only [Option.bind_eq_bind, Option.bind_some]
  rcases Section.split files strict source with ⟨records, error | sections⟩
  · rfl
  · dsimp only
    rw [readSections?_eq]
    rfl

/-- Whatever the files, the configuration, the text and the replacements of a source, every part of
a text that loading asks for is one, every index is one of its table and no divisor is zero. -/
theorem load_checked (files : Files) (config : Config) (source : Source) :
    load? files config source = some (Script.load files config source) := by
  rw [load?, readSource?_eq, Script.load]
  dsimp only [Option.bind_eq_bind, Option.bind_some]
  cases (ScriptReading.ofSource files config.strict source).failure <;> rfl

end GpuScript.Checked
