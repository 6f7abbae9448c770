import GpuScript.Proofs.Requirement.Pulling
import GpuScript.Proofs.Result
import GpuScript.Proofs.Script.LineNumbers
import GpuScript.Script.Reader

/-!
# What a reader adds

A call of a reader only ever adds nodes behind those that are there. A source whose headers are
refused adds none, whatever its bodies hold; another source adds the nodes of its sections in
order, up to the first that is refused (`ScriptReader.adds_readSource`). A section adds one node or
none, and its kind and its tokens alone tell which (`Section.hasNode`).
-/

namespace GpuScript

open Text

/-- A text has a token that is no end. -/
def Text.hasToken (text : String) (firstLine : Nat) : Bool :=
  (Cursor.ofText text firstLine).tokens.any fun token => !token.kind.isEnd

/-- A body has logical lines when it has a token. -/
theorem TokenLine.isEmpty_ofText (body : String) (firstLine : Nat) :
    (ofText body firstLine).isEmpty = !Text.hasToken body firstLine :=
  isEmpty_ofTokens _

/-- A vertex data section has a table when it has a logical line. -/
theorem VertexTable.isSome_of_parse? {body : String} {firstLine : Nat}
    {table : Option VertexTable} (accepted : parse? body firstLine = .ok table) :
    table.isSome = !(TokenLine.ofText body firstLine).isEmpty := by
  rw [parse?] at accepted
  cases found : TokenLine.ofText body firstLine with
  | nil =>
    rw [found] at accepted
    rw [← Except.ok.inj accepted]
    rfl
  | cons header others =>
    rw [found] at accepted
    obtain ⟨columns, _, later⟩ := bind_eq_ok.mp accepted
    obtain ⟨rows, _, last⟩ := bind_eq_ok.mp later
    rw [← Except.ok.inj last]
    rfl

/-- Whether a section that is accepted has a node: a comment never has one, a shader and a test
always have, and any other section has one when it has a token. -/
def Section.hasNode (part : Section) : Bool :=
  match part.kind with
  | .comment => false
  | .shader _ _ | .passthrough | .test => true
  | .require | .vertexData | .indices => Text.hasToken part.body part.firstLine

namespace Node

variable {body : String} {firstLine : Nat} {node : Option Node}

/-- A node is left out when there is nothing in it. -/
theorem isSome_ite (empty : Bool) (content : Node) :
    (if empty then none else some content).isSome = !empty := by
  cases empty <;> rfl

/-- A require section has a node when it has a token. -/
theorem isSome_of_readRequire (accepted : readRequire body firstLine = .ok node) :
    node.isSome = Text.hasToken body firstLine := by
  rw [readRequire] at accepted
  split at accepted
  · cases accepted
  · rename_i requirements parsed
    obtain ⟨entries, read, rfl⟩ := map_eq_ok.mp parsed
    have empty : (Requirements.ofEntries entries).isEmpty = !Text.hasToken body firstLine := by
      rw [Requirements.isEmpty_ofEntries, isEmpty_of_mapM_eq_ok read,
        TokenLine.isEmpty_ofText]
    rw [← Except.ok.inj accepted, isSome_ite, empty, Bool.not_not]

/-- An index section has a node when it has a token. -/
theorem isSome_of_readIndices (accepted : readIndices body firstLine = .ok node) :
    node.isSome = Text.hasToken body firstLine := by
  rw [readIndices] at accepted
  split at accepted
  · cases accepted
  · rename_i values parsed
    have empty : values.isEmpty = !Text.hasToken body firstLine := by
      rw [isEmpty_of_mapM_eq_ok parsed, Text.hasToken, Bool.eq_iff_iff]
      simp
    rw [← Except.ok.inj accepted, isSome_ite, empty, Bool.not_not]

/-- A vertex data section has a node when it has a token. -/
theorem isSome_of_readVertexData (accepted : readVertexData body firstLine = .ok node) :
    node.isSome = Text.hasToken body firstLine := by
  rw [readVertexData] at accepted
  split at accepted
  · cases accepted
  · rename_i table parsed
    rw [← Except.ok.inj accepted, Option.isSome_map, VertexTable.isSome_of_parse? parsed,
      TokenLine.isEmpty_ofText, Bool.not_not]

/-- Whether a section that is accepted has a node is told by its kind and its tokens. -/
theorem isSome_of_readBody {part : Section} (accepted : (readBody part).result = .ok node) :
    node.isSome = part.hasNode := by
  rw [readBody] at accepted
  unfold Section.hasNode
  cases kind : part.kind with
  | comment =>
    rw [kind] at accepted
    rw [← Except.ok.inj accepted]
    rfl
  | passthrough =>
    rw [kind] at accepted
    rw [← Except.ok.inj accepted]
    rfl
  | shader stage format =>
    rw [kind] at accepted
    simp only [readShader] at accepted
    split at accepted
    · cases accepted
    · rw [← Except.ok.inj accepted]
      rfl
  | test =>
    rw [kind] at accepted
    simp only [readTest] at accepted
    split at accepted
    · cases accepted
    · rw [← Except.ok.inj accepted]
      rfl
  | require =>
    rw [kind] at accepted
    exact isSome_of_readRequire accepted
  | indices =>
    rw [kind] at accepted
    exact isSome_of_readIndices accepted
  | vertexData =>
    rw [kind] at accepted
    exact isSome_of_readVertexData accepted

end Node

namespace ScriptReader

/-- The reader with nodes behind its nodes. -/
def add (reader : ScriptReader) (nodes : List Node) : ScriptReader :=
  { reader with nodes := reader.nodes ++ nodes }

/-- Nodes that are added in two parts are added as a whole. -/
theorem add_add (reader : ScriptReader) (first second : List Node) :
    (reader.add first).add second = reader.add (first ++ second) := by
  simp [add]

/-- What a call for one section does to a reader. A call fails when the body is refused, and then
it leaves the reader as it was; another call adds the node of the body, or nothing for a section
that has none. -/
def AddsFor (reader : ScriptReader) (part : Section) (step : ReaderStep) : Prop :=
  match step.failure with
  | some error => (Node.readBody part).result = .error error ∧ step.reader = reader
  | none => ∃ added, (Node.readBody part).result = .ok added ∧
      step.reader = reader.add added.toList ∧
      added.toList.length = if part.hasNode then 1 else 0

/-- What a call for several sections does to a reader. The sections before the first that is
refused are read, and their nodes are added in order; the first that is refused ends the call, and
the records are those of the sections up to it. -/
def AddsAll (reader : ScriptReader) (sections : List Section) (step : ReaderStep) : Prop :=
  ∃ before after, sections = before ++ after ∧
    step.records = (before ++ after.take 1).flatMap (fun part => (Node.ofSection part).records) ∧
    (∃ nodes, List.Forall₂ (fun part node => (Node.ofSection part).result = .ok node)
        before nodes ∧
      step.reader = reader.add (nodes.flatMap Option.toList)) ∧
    match after with
    | [] => step.failure = none
    | part :: _ => ∃ error, (Node.ofSection part).result = .error error ∧
        step.failure = some error

/-- The nodes of a reader grow by what reading a section gives, if it is accepted. -/
theorem take_of_ok {reading : SectionReading} {node : Option Node}
    (accepted : reading.result = .ok node) (reader : ScriptReader) :
    reader.take reading = ⟨reading.records, reader.add node.toList, none⟩ := by
  rw [take, accepted]
  cases node with
  | none => simp [add]
  | some node => rfl

/-- A reader stays as it is when a section is refused. -/
theorem take_of_error {reading : SectionReading} {error : ScriptError}
    (refused : reading.result = .error error) (reader : ScriptReader) :
    reader.take reading = ⟨reading.records, reader, some error⟩ := by
  rw [take, refused]

/-- What reading a section gives adds one node or none. -/
theorem addsFor_take {part : Section} {reading : SectionReading}
    (same : reading.result = (Node.readBody part).result) (reader : ScriptReader) :
    AddsFor reader part (reader.take reading) := by
  cases result : (Node.readBody part).result with
  | error error =>
    rw [take_of_error (same.trans result)]
    exact ⟨result, rfl⟩
  | ok node =>
    have given := Node.isSome_of_readBody result
    rw [take_of_ok (same.trans result)]
    refine ⟨node, result, rfl, ?_⟩
    rw [← given]
    cases node <;> rfl

/-- Sections are read in order, up to the first that is refused. -/
theorem addsAll_readSections (reader : ScriptReader) (sections : List Section) :
    AddsAll reader sections (reader.readSections sections) := by
  induction sections generalizing reader with
  | nil => exact ⟨[], [], rfl, rfl, ⟨[], .nil, by simp [readSections, add]⟩, rfl⟩
  | cons part rest ih =>
    cases result : (Node.ofSection part).result with
    | error error =>
      have step := take_of_error result reader
      have whole : reader.readSections (part :: rest) =
          ⟨(Node.ofSection part).records, reader, some error⟩ := by
        rw [readSections, readSection, step]
      rw [whole]
      refine ⟨[], part :: rest, rfl, by simp, ⟨[], .nil, by simp [add]⟩, error, result, rfl⟩
    | ok node =>
      have step := take_of_ok result reader
      obtain ⟨before, after, split, records, ⟨nodes, read, grown⟩, ending⟩ :=
        ih (reader.add node.toList)
      have whole : reader.readSections (part :: rest) =
          { (reader.add node.toList).readSections rest with
            records := (Node.ofSection part).records ++
              ((reader.add node.toList).readSections rest).records } := by
        rw [readSections, readSection, step]
      rw [whole]
      refine ⟨part :: before, after, by rw [split, List.cons_append], ?_,
        ⟨node :: nodes, .cons result read, ?_⟩, ending⟩
      · rw [records, List.cons_append, List.flatMap_cons]
      · rw [grown, add_add, List.flatMap_cons]

/-- A reader that is told to read a source splits it first. If the source cannot be split, the
call fails for that reason and the reader stays as it was, whatever the bodies of its sections
hold; otherwise the sections are read in order, up to the first that is refused. A call for a
single section leaves the reader as it was if it fails, and adds at most one node otherwise: none
for a comment, one for a shader or a test, and one for another section exactly when the section has
a token that is no end. -/
theorem adds_readSource (reader : ScriptReader) (files : Files) (source : Source) :
    (match Section.split files reader.config.strict source with
      | (records, .error error) =>
        reader.readSource files source = ⟨records, reader, some error⟩
      | (records, .ok sections) =>
        ∃ step, AddsAll reader sections step ∧
          reader.readSource files source = { step with records := records ++ step.records }) ∧
      ∀ part, AddsFor reader part (reader.readBlock part) ∧
        AddsFor reader part (reader.readSection part) := by
  constructor
  · rw [readSource]
    cases Section.split files reader.config.strict source with
    | mk records result =>
      cases result with
      | error error => rfl
      | ok sections => exact ⟨_, addsAll_readSections reader sections, rfl⟩
  · intro part
    have block : AddsFor reader part (reader.readBlock part) := addsFor_take rfl reader
    have whole : AddsFor reader part (reader.take (Node.ofSection part)) :=
      @addsFor_take part (Node.ofSection part) rfl reader
    exact ⟨block, whole⟩

/-- A reader adds the nodes of the sections of a script that are read. -/
theorem readSections_eq (reader : ScriptReader) (sections : List Section) :
    reader.readSections sections =
      ⟨(ScriptReading.ofSections sections).records,
        reader.add (ScriptReading.ofSections sections).nodes,
        (ScriptReading.ofSections sections).failure⟩ := by
  induction sections generalizing reader with
  | nil => simp [readSections, ScriptReading.ofSections, add]
  | cons part rest ih =>
    cases result : (Node.ofSection part).result with
    | error error =>
      have step := take_of_error result reader
      rw [ScriptReading.ofSections_cons_of_error result, readSections, readSection, step]
      simp [add]
    | ok node =>
      have step := take_of_ok result reader
      rw [ScriptReading.ofSections_cons_of_ok result, readSections, readSection, step]
      simp [ih, add_add, ScriptReading.withSection]

end ScriptReader

/-- Loading a script is reading its source with a reader that has no nodes yet. -/
theorem Script.load_eq_readSource (files : Files) (config : Config) (source : Source) :
    load files config source =
      let step := (ScriptReader.new config).readSource files source
      (step.records, match step.failure with
        | some error => .error error
        | none => .ok ⟨source.name, step.reader.nodes⟩) := by
  simp only [load, ScriptReading.ofSource, ScriptReader.readSource, ScriptReader.new]
  cases Section.split files config.strict source with
  | mk records result =>
    cases result with
    | error error => rfl
    | ok sections =>
      simp only [ScriptReader.readSections_eq, ScriptReader.add, List.nil_append]
      cases (ScriptReading.ofSections sections).failure <;> rfl

end GpuScript
