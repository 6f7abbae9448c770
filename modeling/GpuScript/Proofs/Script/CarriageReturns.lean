import GpuScript.Proofs.Section.Lines
import GpuScript.Proofs.Token.CarriageReturns
import GpuScript.Script.Basic

/-!
# Scripts with carriage returns

A script may end its lines with a carriage return and a line end. It is then read as the script
without the carriage returns is: it has the same nodes with the same line numbers and the same
records, or is refused for the same reason on the same line (`Script.load_crlf`). Only the text of a
shader is stored as it stands.

A carriage return is blank wherever sections are told apart, and no token has a part in it. So the
lines of the two scripts are split alike (`Section.split_crlf`), and each body gives the same node
(`Node.ofSection_crlf`).
-/

namespace GpuScript

open Text

/-- The text with a carriage return before each line end. -/
def Text.crlf (text : String) : String :=
  String.ofList (withReturns text.toList)

/-- The shader whose text has a carriage return before each line end; words have none. -/
def ShaderSource.crlf : ShaderSource → ShaderSource
  | glsl text => glsl (Text.crlf text)
  | assembly text => assembly (Text.crlf text)
  | other => other

/-- The node with carriage returns in the text of its shader, if it has one. -/
def Node.crlf : Node → Node
  | shader stage source => shader stage source.crlf
  | other => other

/-- The section with a carriage return before each line end of its body. -/
def Section.crlf (part : Section) : Section :=
  { part with body := Text.crlf part.body }

namespace Section

/-- A line opens a section with a carriage return if it does so without. -/
theorem isHeader_withReturns (line : List Char) :
    isHeader (withReturns line) = isHeader line := by
  rcases line with _ | ⟨first, rest⟩
  · rfl
  · by_cases ends : first = '\n'
    · subst ends
      rfl
    · rw [withReturns_cons ends]
      rfl

/-- A header names the same kind of section with a carriage return. -/
theorem kindOfHeader_withReturns {text line : List Char} (listed : line ∈ physicalLines text) :
    kindOfHeader (withReturns line) = kindOfHeader line := by
  have closes : (withReturns line).contains ']' = line.contains ']' := by
    rw [Bool.eq_iff_iff, List.contains_iff_mem, List.contains_iff_mem]
    exact mem_withReturns (by decide) line
  rw [kindOfHeader, kindOfHeader, closes, trimEnd_withReturns listed]

namespace Splitting

/-- The splitting with carriage returns in its text and in the bodies of its sections. -/
def crlf (splitting : Splitting) : Splitting :=
  { splitting with
    result := splitting.result.map fun (body, sections) =>
      (withReturns body, sections.map Section.crlf) }

/-- A line goes before the text with its own carriage return. -/
theorem withLine_crlf (line : List Char) (splitting : Splitting) :
    splitting.crlf.withLine (withReturns line) = (splitting.withLine line).crlf := by
  rw [withLine, withLine, crlf, crlf, map_map, map_map]
  simp only [withReturns_append]

/-- The text with its carriage returns becomes the body of a section. -/
theorem withSection_crlf (kind : SectionKind) (firstLine : Nat) (splitting : Splitting) :
    splitting.crlf.withSection kind firstLine = (splitting.withSection kind firstLine).crlf := by
  have body (text : List Char) :
      String.ofList (withReturns text) = Text.crlf (String.ofList text) := by
    rw [Text.crlf, String.toList_ofList]
  rw [withSection, withSection, crlf, crlf, map_map, map_map]
  simp only [body]
  rfl

end Splitting

/-- Lines with carriage returns are split as they are without. -/
theorem splitLines_withReturns {text : List Char} {lines : List (List Char)}
    (listed : ∀ line ∈ lines, line ∈ physicalLines text) (strict : Bool) (place : Place)
    (number : Nat) :
    splitLines strict place number ((lines.map withReturns).map .ok) =
      (splitLines strict place number (lines.map .ok)).crlf := by
  induction lines generalizing place number with
  | nil => rfl
  | cons line rest ih =>
    obtain ⟨own, others⟩ := List.forall_mem_cons.mp listed
    rw [List.map_cons, List.map_cons, List.map_cons, splitLines.eq_def,
      splitLines.eq_def _ _ _ (.ok line :: _)]
    simp only [isHeader_withReturns, kindOfHeader_withReturns own, isBlankLine_withReturns,
      ih others]
    split
    · split
      · rfl
      · exact Splitting.withSection_crlf _ _ _
    · split
      · exact Splitting.withLine_crlf _ _
      · split <;> rfl
      · split
        · rfl
        · split <;> rfl

/-- A source that holds a text with carriage returns has the sections of one that holds the text,
with carriage returns in their bodies. -/
theorem split_crlf {files : Files} {plain returned : Source} {text : String}
    (holds : plain.Holds files text) (holdsReturned : returned.Holds files (Text.crlf text))
    (strict : Bool) :
    split files strict returned =
      ((split files strict plain).1,
        (split files strict plain).2.map (List.map Section.crlf)) := by
  have lines : physicalLines (Text.crlf text).toList =
      (physicalLines text.toList).map withReturns := by
    rw [Text.crlf, String.toList_ofList, physicalLines_withReturns]
  rw [split, split, holds.lines_eq, holdsReturned.lines_eq, lines]
  dsimp only
  rw [splitLines_withReturns fun _ listed => listed, Splitting.crlf, map_map, map_map]

/-- The characters of a body are characters of the script. -/
theorem Sections.mem_of_mem_body {strict : Bool} {text : List Char} {sections : List Section}
    (found : Sections strict (physicalLines text) sections) {part : Section}
    (listed : part ∈ sections) {character : Char} (inside : character ∈ part.body.toList) :
    character ∈ text := by
  obtain ⟨header, _, opened⟩ := found.exists_header listed
  by_cases handsOn : part.kind = .passthrough
  · rw [(opened.closed handsOn).1] at inside
    cases inside
  · rw [opened.body handsOn] at inside
    obtain ⟨line, own, among⟩ := List.mem_flatten.mp inside
    have placed : line ∈ physicalLines text :=
      List.mem_of_mem_drop ((prefix_ownLines _).mem own)
    have whole : character ∈ (physicalLines text).flatten :=
      List.mem_flatten.mpr ⟨line, placed, among⟩
    rwa [physicalLines, flatten_splitAfter] at whole

end Section

/-- The words of a shader are the same with carriage returns. -/
theorem ShaderWords.parse_crlf (body : String) (firstLine : Nat) :
    parse (Text.crlf body) firstLine = parse body firstLine := by
  have same (lines : List (List Char)) (line : Nat) :
      readLines line (lines.map withReturns) = readLines line lines := by
    induction lines generalizing line with
    | nil => rfl
    | cons first rest ih =>
      rw [List.map_cons, readLines, readLines, beforeComment_withReturns, words_withReturns, ih]
  rw [parse, parse, Text.crlf, String.toList_ofList, physicalLines_withReturns, same]

section Bodies

variable {body : String} (free : '\r' ∉ body.toList) (firstLine : Nat)
include free

/-- The tokens of a body are the same with carriage returns. -/
theorem Cursor.tokens_crlf :
    (Cursor.ofText (Text.crlf body) firstLine).tokens = (Cursor.ofText body firstLine).tokens := by
  rw [Cursor.ofText, Cursor.ofText, Text.crlf, String.toList_ofList, tokens_withReturns free]

/-- The logical lines of a body are the same with carriage returns. -/
theorem TokenLine.ofText_crlf : ofText (Text.crlf body) firstLine = ofText body firstLine := by
  rw [ofText, ofText, Cursor.tokens_crlf free]

end Bodies

/-- The reading with carriage returns in the text of its shader. -/
def SectionReading.crlf (reading : SectionReading) : SectionReading :=
  { reading with result := reading.result.map (Option.map Node.crlf) }

namespace Node

/-- A text is empty with carriage returns if it is so without. -/
theorem isEmpty_crlf (source : ShaderSource) : source.crlf.isEmpty = source.isEmpty := by
  have blank (text : String) : (Text.crlf text).toList.all isBlank = text.toList.all isBlank := by
    rw [Text.crlf, String.toList_ofList, all_withReturns (by decide)]
  cases source with
  | glsl text => exact blank text
  | assembly text => exact blank text
  | words values => rfl
  | passthrough => rfl

/-- A shader is stored with its carriage returns and read without them. -/
theorem readSource_crlf (format : ShaderFormat) (body : String) (firstLine : Nat) :
    readSource format (Text.crlf body) firstLine =
      (readSource format body firstLine).map ShaderSource.crlf := by
  cases format with
  | glsl => rfl
  | assembly => rfl
  | words =>
    rw [readSource, readSource, ShaderWords.parse_crlf]
    cases ShaderWords.parse body firstLine <;> rfl

section Tokens

variable {body : String} (free : '\r' ∉ body.toList) (firstLine : Nat)
include free

/-- A require section gives the same node with carriage returns. -/
theorem readRequire_crlf : readRequire (Text.crlf body) firstLine =
    (readRequire body firstLine).map (Option.map crlf) := by
  rw [readRequire, readRequire, Requirements.parse, Requirements.parse,
    TokenLine.ofText_crlf free]
  split
  · rfl
  · split <;> rfl

/-- An index section gives the same node with carriage returns. -/
theorem readIndices_crlf : readIndices (Text.crlf body) firstLine =
    (readIndices body firstLine).map (Option.map crlf) := by
  rw [readIndices, readIndices, Indices.parse, Indices.parse, Cursor.tokens_crlf free]
  split
  · rfl
  · split <;> rfl

/-- A vertex data section gives the same node with carriage returns. -/
theorem readVertexData_crlf : readVertexData (Text.crlf body) firstLine =
    (readVertexData body firstLine).map (Option.map crlf) := by
  rw [readVertexData, readVertexData, VertexTable.parse?, VertexTable.parse?,
    TokenLine.ofText_crlf free]
  split
  · rfl
  · rename_i table _
    cases table <;> rfl

end Tokens

/-- The body of a section gives the same records and the same node with carriage returns, or is
refused for the same reason. -/
theorem readBody_crlf {part : Section} (free : '\r' ∉ part.body.toList) :
    readBody part.crlf = (readBody part).crlf := by
  obtain ⟨kind, body, firstLine⟩ := part
  cases kind with
  | comment => rfl
  | passthrough => rfl
  | require => exact congrArg (SectionReading.mk []) (readRequire_crlf free firstLine)
  | indices => exact congrArg (SectionReading.mk []) (readIndices_crlf free firstLine)
  | vertexData => exact congrArg (SectionReading.mk []) (readVertexData_crlf free firstLine)
  | test =>
    show readTest (Text.crlf body) firstLine = (readTest body firstLine).crlf
    have same : Test.read (Text.crlf body) firstLine = Test.read body firstLine := by
      rw [Test.read, Test.read, TokenLine.ofText_crlf free]
    rw [readTest, readTest, same]
    cases (Test.read body firstLine).failure <;> rfl
  | shader stage format =>
    show readShader stage format (Text.crlf body) firstLine =
      (readShader stage format body firstLine).crlf
    rw [readShader, readShader, readSource_crlf]
    cases readSource format body firstLine with
    | error error => rfl
    | ok source =>
      simp only [Except.map, isEmpty_crlf]
      rfl

/-- A section gives the same records and the same node with carriage returns, or is refused for the
same reason. -/
theorem ofSection_crlf {part : Section} (free : '\r' ∉ part.body.toList) :
    ofSection part.crlf = (ofSection part).crlf := by
  rw [ofSection, ofSection, readBody_crlf free]
  rfl

end Node

/-- The reading with carriage returns in the texts of its shaders. -/
def ScriptReading.crlf (reading : ScriptReading) : ScriptReading :=
  { reading with nodes := reading.nodes.map Node.crlf }

/-- Sections are read in the same way with carriage returns. -/
theorem ScriptReading.ofSections_crlf {sections : List Section}
    (free : ∀ part ∈ sections, '\r' ∉ part.body.toList) :
    ofSections (sections.map Section.crlf) = (ofSections sections).crlf := by
  induction sections with
  | nil => rfl
  | cons part rest ih =>
    obtain ⟨own, others⟩ := List.forall_mem_cons.mp free
    rw [List.map_cons, ofSections, ofSections, Node.ofSection_crlf own, ih others]
    simp only [SectionReading.crlf]
    cases (Node.ofSection part).result with
    | error error => rfl
    | ok node =>
      have nodes : (node.map Node.crlf).toList = node.toList.map Node.crlf := by
        cases node <;> rfl
      simp only [Except.map, withSection, crlf, nodes, List.map_append]

namespace Script

/-- A script without carriage returns is read in the same way with a carriage return before each of
its line ends: it gives the same records and the same nodes, apart from carriage returns in the
stored texts of shaders, or is refused for the same reason on the same line. -/
theorem load_crlf {files : Files} {plain returned : Source} {text : String}
    (holds : plain.Holds files text) (holdsReturned : returned.Holds files (Text.crlf text))
    (free : '\r' ∉ text.toList) (config : Config) :
    load files config returned =
      ((load files config plain).1, (load files config plain).2.map fun script =>
        ⟨returned.name, script.nodes.map Node.crlf⟩) := by
  have parts := Section.split_of_holds holds config.strict
  rw [load, load, ScriptReading.ofSource, ScriptReading.ofSource,
    Section.split_crlf holds holdsReturned]
  cases whole : Section.split files config.strict plain with
  | mk records result =>
    rw [whole] at parts
    cases result with
    | error error => rfl
    | ok sections =>
      have found := Section.splitLines_start_eq_ok_iff.mp parts.symm
      have bodies : ∀ part ∈ sections, '\r' ∉ part.body.toList :=
        fun part listed inside => free (found.mem_of_mem_body listed inside)
      simp only [Except.map, ScriptReading.ofSections_crlf bodies, ScriptReading.crlf]
      cases (ScriptReading.ofSections sections).failure <;> rfl

/-- A script in which a carriage return comes to stand in every place where it matters: behind
headers and words, in a continuation, in comments, before a body, in it and in the text of a
shader. -/
def mixedEnds : String :=
  "# none\n[ vertex shader ]\nmain\n\n[fragment shader spirv hex]\n07 0X1f # x\n\n" ++
    "[vertex data]\n0/R8_UINT\n\n1\n[test]\nclear \\\n depth 1 # last\nuniform int 0 -1\n"

/-- The script with carriage returns has the words of the one shader and the commands on the lines
of the script without, and only the text of the other shader shows the carriage returns. -/
theorem load_crlf_mixedEnds :
    let files : Files := fun _ => .ok .empty
    let source (text : String) : Source := ⟨.text text, []⟩
    (Source.Holds files (source mixedEnds) mixedEnds ∧
      Source.Holds files (source (Text.crlf mixedEnds)) (Text.crlf mixedEnds) ∧
      '\r' ∉ mixedEnds.toList) ∧
    load files Config.default (source (Text.crlf mixedEnds)) =
      ((load files Config.default (source mixedEnds)).1,
        (load files Config.default (source mixedEnds)).2.map fun script =>
          ⟨"(string source)", script.nodes.map Node.crlf⟩) ∧
    ∃ script, (load files Config.default (source (Text.crlf mixedEnds))).2 = .ok script ∧
      script.nodes.length = 4 ∧ script.commands.map Command.line = [13, 15] ∧
      script.nodes.take 2 = [.shader .vertex (.glsl "main\r\n\r\n"),
        .shader .fragment (.words [7, 31])] := by
  intro files source
  have holds (text : String) : (source text).Holds files text := Source.holds_text files text
  have free : '\r' ∉ mixedEnds.toList := by decide +kernel
  have same := load_crlf (holds mixedEnds) (holds (Text.crlf mixedEnds)) free Config.default
  have facts : (load files Config.default (source mixedEnds)).2.map (fun script =>
      (script.nodes.length, script.commands.map Command.line,
        (script.nodes.take 2).map Node.crlf)) =
      .ok (4, [13, 15], [.shader .vertex (.glsl "main\r\n\r\n"),
        .shader .fragment (.words [7, 31])]) := by decide +kernel
  obtain ⟨script, accepted, found⟩ := map_eq_ok.mp facts
  obtain ⟨count, lines, shaders⟩ : _ ∧ _ ∧ _ := by simpa only [Prod.mk.injEq] using found
  have tests : Node.test? ∘ Node.crlf = Node.test? := by
    funext node
    cases node <;> rfl
  refine ⟨⟨holds _, holds _, free⟩, same, ⟨"(string source)", script.nodes.map Node.crlf⟩, ?_, ?_,
    ?_, ?_⟩
  · rw [same, accepted]
    rfl
  · rw [List.length_map, count]
  · rw [← lines, commands, Script.tests, List.filterMap_map, tests]
    rfl
  · rw [← List.map_take, shaders]

end Script

end GpuScript
