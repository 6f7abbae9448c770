import GpuScript.Proofs.Command.Form
import GpuScript.Proofs.Token.Shift
import GpuScript.Script.Basic

/-!
# Sections that are counted on

Moving a section down by some lines adds their number to the line of each of its commands, or of the
error if it is refused, and changes nothing else (`Node.ofSection_shift`): every reader of a section
looks at the line numbers of its tokens for nothing but its errors and the numbers of its commands.
-/

namespace GpuScript

open Text

/-- What was read, with the tokens after it so many lines further down. -/
def shiftRest {α : Type} (count : Nat) (result : α × List Token) : α × List Token :=
  (result.1, result.2.map (Token.shift count))

/-- The reason about the line so many lines further down, if it is about a line. -/
def ScriptError.shift (count : Nat) : ScriptError → ScriptError
  | .line error => .line (error.shift count)
  | other => other

/-- The command so many lines further down. -/
def Command.shift (count : Nat) (command : Command) : Command :=
  { command with line := command.line + count }

/-- The node with its commands so many lines further down. -/
def Node.shift (count : Nat) : Node → Node
  | .test body => .test { body with commands := body.commands.map (Command.shift count) }
  | other => other

/-- The section so many lines further down. -/
def Section.shift (count : Nat) (part : Section) : Section :=
  { part with firstLine := part.firstLine + count }

variable (count : Nat)

namespace Requirement

variable (line : Nat) (tokens : List Token)

/-- The end of a line is the same further down. -/
theorem finish_shift (name : String) :
    finish name (tokens.map (Token.shift count)) =
      mapBoth (Located.shift count) id (finish name tokens) := by
  cases tokens <;> rfl

/-- A format is the same further down. -/
theorem readFormat_shift :
    readFormat (line + count) (tokens.map (Token.shift count)) =
      mapBoth (Located.shift count) (shiftRest count) (readFormat line tokens) := by
  cases tokens with
  | nil => rfl
  | cons token rest =>
    rw [List.map_cons, readFormat, readFormat, Token.text_shift]
    cases Format.ofName? token.text <;> rfl

/-- A size is the same further down. -/
theorem readSize_shift :
    readSize (line + count) (tokens.map (Token.shift count)) =
      mapBoth (Located.shift count) id (readSize line tokens) := by
  rcases tokens with _ | ⟨width, _ | ⟨height, _ | ⟨third, rest⟩⟩⟩
  · rfl
  · rfl
  · rw [List.map_cons, List.map_cons, List.map_nil, readSize, readSize, Token.kind_shift,
      Token.kind_shift]
    cases width.kind.word32? <;> cases height.kind.word32? <;> rfl
  · rfl

/-- A version is the same further down. -/
theorem readVersion_shift :
    readVersion (line + count) (tokens.map (Token.shift count)) =
      mapBoth (Located.shift count) id (readVersion line tokens) := by
  rcases tokens with _ | ⟨token, _ | ⟨second, rest⟩⟩
  · rfl
  · rw [List.map_cons, List.map_nil, readVersion, readVersion, Token.text_shift]
    cases versionOf? token.text <;> rfl
  · rfl

end Requirement

namespace RequireEntry

open Requirement

/-- A named line of a require section is the same further down. -/
theorem readNamed_shift (line : Nat) (name : String) (tokens : List Token) :
    readNamed (line + count) name (tokens.map (Token.shift count)) =
      mapBoth (Located.shift count) id (readNamed line name tokens) := by
  have formats (wrap : Format → RequireEntry) :
      (readFormat (line + count) (tokens.map (Token.shift count)) >>= fun read =>
        finish name read.2 >>= fun _ => .ok (wrap read.1)) =
        mapBoth (Located.shift count) id (readFormat line tokens >>= fun read =>
          finish name read.2 >>= fun _ => .ok (wrap read.1)) := by
    rw [readFormat_shift]
    refine bind_mapBoth _ fun read => ?_
    dsimp only [shiftRest]
    rw [finish_shift]
    exact bind_mapBoth _ fun _ => rfl
  have finishes (entry : RequireEntry) :
      (finish name (tokens.map (Token.shift count)) >>= fun _ => .ok entry) =
        mapBoth (Located.shift count) id (finish name tokens >>= fun _ => .ok entry) := by
    rw [finish_shift]
    exact bind_mapBoth _ fun _ => rfl
  unfold readNamed
  split
  · exact formats fun format => .requirement (.framebuffer format)
  · exact formats fun format => .requirement (.depthStencil format)
  · rw [readSize_shift]
    cases readSize line tokens <;> rfl
  · rw [readVersion_shift]
    cases readVersion line tokens <;> rfl
  · split
    · exact finishes _
    · split
      · exact finishes _
      · rfl

/-- A line of a require section is the same further down. -/
theorem readLine_shift (line : TokenLine) :
    readLine (line.shift count) = mapBoth (Located.shift count) id (readLine line) := by
  have first : (line.shift count).first.word? = line.first.word? := rfl
  rw [readLine, readLine, first]
  cases line.first.word? with
  | none => rfl
  | some name => exact readNamed_shift count line.line name line.rest

end RequireEntry

/-- A require section is the same further down. -/
theorem Requirements.parse_add (text : String) (firstLine : Nat) :
    parse text (firstLine + count) =
      mapBoth (Located.shift count) id (parse text firstLine) := by
  have entries := mapM_map_mapBoth (RequireEntry.readLine_shift count)
    (TokenLine.ofText text firstLine)
  rw [parse, parse, TokenLine.ofText_add, entries]
  cases (TokenLine.ofText text firstLine).mapM RequireEntry.readLine <;> rfl

/-- An index section is the same further down. -/
theorem Indices.parse_add (text : String) (firstLine : Nat) :
    parse text (firstLine + count) =
      mapBoth (Located.shift count) id (parse text firstLine) := by
  have index (token : Token) :
      read (token.shift count) = mapBoth (Located.shift count) id (read token) := by
    have value : ofToken (token.shift count) = ofToken token := rfl
    rw [read, read, value]
    cases ofToken token <;> rfl
  rw [parse, parse, Cursor.tokens_ofText_add, List.filter_map]
  exact mapM_map_mapBoth index _

/-- The words of a shader are the same further down. -/
theorem ShaderWords.parse_add (text : String) (firstLine : Nat) :
    parse text (firstLine + count) =
      mapBoth (Located.shift count) id (parse text firstLine) := by
  have word (line : Nat) (word : List Char) :
      read (line + count) (id word) = mapBoth (Located.shift count) id (read line word) := by
    rw [read, read, id]
    cases value? word <;> rfl
  have lines (lines : List (List Char)) (line : Nat) :
      readLines (line + count) lines =
        mapBoth (Located.shift count) id (readLines line lines) := by
    induction lines generalizing line with
    | nil => rfl
    | cons first rest ih =>
      have own := mapM_map_mapBoth (word line) (words (beforeComment first))
      rw [List.map_id] at own
      rw [readLines, readLines, own, Nat.add_right_comm, ih]
      refine bind_mapBoth _ fun values => ?_
      exact bind_mapBoth _ fun others => rfl
  exact lines _ firstLine

namespace VertexTable

/-- The columns of a header line are the same further down. -/
theorem readColumns_shift (start : Nat) (tokens : List Token) :
    readColumns start (tokens.map (Token.shift count)) =
      mapBoth (Located.shift count) id (readColumns start tokens) := by
  induction tokens generalizing start with
  | nil => rfl
  | cons token rest ih =>
    rw [List.map_cons, readColumns, readColumns, Token.text_shift]
    cases readColumn start token.text with
    | error cause => rfl
    | ok column =>
      dsimp only
      rw [ih]
      cases readColumns column.stop rest <;> rfl

/-- A value of a cell is the same further down. -/
theorem readValue_shift (line : Nat) (base : BaseType) (bits : Nat) (allowHex : Bool)
    (tokens : List Token) :
    readValue (line + count) base bits allowHex (tokens.map (Token.shift count)) =
      mapBoth (Located.shift count) (shiftRest count)
        (readValue line base bits allowHex tokens) := by
  cases tokens with
  | nil => rfl
  | cons token rest =>
    have value : Value.ofToken? base bits (token.shift count) = Value.ofToken? base bits token :=
      rfl
    rw [List.map_cons, readValue, readValue, Token.kind_shift, value]
    split
    · cases allowHex <;> rfl
    · rfl
    · rfl

/-- The values of a cell are the same further down. -/
theorem readParts_shift (line : Nat) (parts : List Part) (tokens : List Token) :
    readParts (line + count) parts (tokens.map (Token.shift count)) =
      mapBoth (Located.shift count) (shiftRest count) (readParts line parts tokens) := by
  induction parts generalizing tokens with
  | nil => rfl
  | cons part parts ih =>
    rw [readParts, readParts, readValue_shift]
    refine bind_mapBoth _ fun (value, rest) => ?_
    dsimp only [shiftRest]
    rw [ih]
    exact bind_mapBoth _ fun _ => rfl

/-- A cell is the same further down. -/
theorem readCell_shift (line : Nat) (format : Format) (tokens : List Token) :
    readCell (line + count) format (tokens.map (Token.shift count)) =
      mapBoth (Located.shift count) (shiftRest count) (readCell line format tokens) := by
  rw [readCell, readCell]
  cases format.packedBits with
  | none => exact readParts_shift count line format.parts tokens
  | some bits =>
    dsimp only
    rw [readValue_shift]
    exact bind_mapBoth _ fun _ => rfl

/-- The cells of a row are the same further down. -/
theorem readCells_shift (line : Nat) (columns : List Column) (tokens : List Token) :
    readCells (line + count) columns (tokens.map (Token.shift count)) =
      mapBoth (Located.shift count) id (readCells line columns tokens) := by
  induction columns generalizing tokens with
  | nil => cases tokens <;> rfl
  | cons column columns ih =>
    rw [readCells, readCells, readCell_shift]
    refine bind_mapBoth _ fun (cell, rest) => ?_
    dsimp only [shiftRest]
    rw [ih]
    exact bind_mapBoth _ fun _ => rfl

/-- A vertex data section is the same further down. -/
theorem parse?_add (text : String) (firstLine : Nat) :
    parse? text (firstLine + count) =
      mapBoth (Located.shift count) id (parse? text firstLine) := by
  have row (columns : List Column) (line : TokenLine) :
      readRow columns (line.shift count) =
        mapBoth (Located.shift count) id (readRow columns line) :=
    readCells_shift count line.line columns line.tokens
  rw [parse?, parse?, TokenLine.ofText_add]
  cases TokenLine.ofText text firstLine with
  | nil => rfl
  | cons header lines =>
    rw [List.map_cons, ofLines?, ofLines?, TokenLine.tokens_shift, readColumns_shift]
    refine bind_mapBoth _ fun columns => ?_
    dsimp only [id]
    rw [mapM_map_mapBoth (row columns)]
    exact bind_mapBoth _ fun _ => rfl

end VertexTable

/-- The reading of a test section so many lines further down. -/
def TestReading.shift (reading : TestReading) : TestReading where
  commands := reading.commands.map (Command.shift count)
  pipeline := reading.pipeline
  failure := reading.failure.map (Located.shift count)

namespace Test

/-- A line of a test section says the same further down. -/
theorem readLine_shift (pipeline : Pipeline) (line : TokenLine) :
    readLine pipeline (line.shift count) = readLine pipeline line := by
  rw [← readLine_unplaced, TokenLine.unplaced_shift, readLine_unplaced]

/-- The lines of a test section are the same further down. -/
theorem readLines_shift (pipeline : Pipeline) (lines : List TokenLine) :
    readLines pipeline (lines.map (TokenLine.shift count)) =
      (readLines pipeline lines).shift count := by
  induction lines generalizing pipeline with
  | nil => rfl
  | cons line rest ih =>
    rw [List.map_cons, readLines, readLines, readLine_shift]
    cases (readLine pipeline line).operation with
    | error cause => rfl
    | ok operation =>
      cases operation with
      | none => exact ih _
      | some operation =>
        dsimp only
        rw [ih]
        rfl

/-- A test section is the same further down. -/
theorem read_add (text : String) (firstLine : Nat) :
    read text (firstLine + count) = (read text firstLine).shift count := by
  rw [read, read, TokenLine.ofText_add, readLines_shift]

end Test

namespace Node

/-- The body of a section is the same further down. -/
theorem readBody_shift (part : Section) :
    (readBody (part.shift count)).result =
      mapBoth (ScriptError.shift count) (Option.map (Node.shift count)) (readBody part).result := by
  obtain ⟨kind, body, firstLine⟩ := part
  cases kind with
  | comment | passthrough => rfl
  | require =>
    change readRequire body (firstLine + count) = mapBoth _ _ (readRequire body firstLine)
    rw [readRequire, readRequire, Requirements.parse_add]
    cases Requirements.parse body firstLine with
    | error error => rfl
    | ok requirements =>
      dsimp only [mapBoth, id]
      cases requirements.isEmpty <;> rfl
  | shader stage format =>
    have source : readSource format body (firstLine + count) =
        mapBoth (ScriptError.shift count) id (readSource format body firstLine) := by
      cases format with
      | glsl | assembly => rfl
      | words =>
        rw [readSource, readSource, ShaderWords.parse_add]
        cases ShaderWords.parse body firstLine <;> rfl
    change (readShader stage format body (firstLine + count)).result =
      mapBoth _ _ (readShader stage format body firstLine).result
    rw [readShader, readShader, source]
    cases readSource format body firstLine <;> rfl
  | vertexData =>
    change readVertexData body (firstLine + count) = mapBoth _ _ (readVertexData body firstLine)
    rw [readVertexData, readVertexData, VertexTable.parse?_add]
    cases VertexTable.parse? body firstLine with
    | error error => rfl
    | ok table => cases table <;> rfl
  | indices =>
    change readIndices body (firstLine + count) = mapBoth _ _ (readIndices body firstLine)
    rw [readIndices, readIndices, Indices.parse_add]
    cases Indices.parse body firstLine with
    | error error => rfl
    | ok values =>
      dsimp only [mapBoth, id]
      cases values.isEmpty <;> rfl
  | test =>
    change (readTest body (firstLine + count)).result =
      mapBoth _ _ (readTest body firstLine).result
    rw [readTest, readTest, Test.read_add]
    cases failed : (Test.read body firstLine).failure with
    | none =>
      simp only [TestReading.shift, failed]
      rfl
    | some failure =>
      simp only [TestReading.shift, failed]
      rfl

/-- A section gives the same node further down, with the lines of its commands counted on, or is
refused for the same reason. -/
theorem ofSection_shift (part : Section) :
    (ofSection (part.shift count)).result =
      mapBoth (ScriptError.shift count) (Option.map (Node.shift count)) (ofSection part).result :=
  readBody_shift count part

end Node

end GpuScript
