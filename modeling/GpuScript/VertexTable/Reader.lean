import GpuScript.Text.Blank
import GpuScript.Token.Line
import GpuScript.VertexTable.Basic

/-!
# Reading vertex tables

The first logical line of a vertex data section names the columns, each by a location and either a
format or two types: the type of the stored components and the type that the shader declares.
Every other logical line is a row, read cell by cell. A section without logical lines has no table.
-/

namespace GpuScript.VertexTable

open Text

/-- Why a vertex data section is refused. -/
inductive Error where
  /-- The location of a column is not an unsigned word. -/
  | invalidLocation (header : String)
  /-- A column has a location only. -/
  | missingFormat (header : String)
  /-- A column has more than three parts. -/
  | extraHeaderPart (header : String)
  /-- No format has the name. -/
  | unknownFormat (name : String)
  /-- No type of stored components has the name. -/
  | unknownStoredType (name : String)
  /-- No type that shaders declare has the name. -/
  | unknownDeclaredType (name : String)
  /-- A vector has a number of components other than two, three or four. -/
  | invalidVectorSize (name : String)
  /-- No format stores a declared type in this way. -/
  | invalidCombination (stored declared : String)
  /-- A row ends before its last cell is full. -/
  | tooFewCells
  /-- A row goes on after its last cell. -/
  | extraCells
  /-- A token is no value of its cell. -/
  | invalidValue
  deriving DecidableEq

namespace Error

/-- The message for a cause. -/
def message : Error → String
  | invalidLocation header => "Invalid attrib location in " ++ header
  | missingFormat header =>
    "Column headers must be in the form location/format. Got: " ++ header
  | extraHeaderPart header => "Extra data at end of column header: " ++ header
  | unknownFormat name => "Unknown format: " ++ name
  | unknownStoredType name => "Unknown GL type: " ++ name
  | unknownDeclaredType name => "Unknown GLSL type: " ++ name
  | invalidVectorSize name => "Invalid vec size: " ++ name
  | invalidCombination stored declared => "Invalid type combo: " ++ stored ++ "/" ++ declared
  | tooFewCells => "Too few cells in given vertex data row"
  | extraCells => "Extra data at end of vertex data row"
  | invalidValue => "Invalid vertex data value"

end Error

/-- The types of stored components: the mode and the size of each. -/
def storedTypes : List (String × Mode × Nat) :=
  [("byte", .sint, 8), ("ubyte", .uint, 8), ("short", .sint, 16), ("ushort", .uint, 16),
    ("int", .sint, 32), ("uint", .uint, 32), ("half", .sfloat, 16), ("float", .sfloat, 32),
    ("double", .sfloat, 64)]

/-- The mode and the size of a type of stored components. -/
def storedType (name : String) : Except Error (Mode × Nat) :=
  match storedTypes.find? fun entry => entry.1 == name with
  | some entry => .ok entry.2
  | none => .error (.unknownStoredType name)

/-- The name of a vector type without the letter for the kind of its components. -/
def vectorPart : List Char → List Char
  | [] => []
  | first :: rest => if first = 'i' ∨ first = 'u' ∨ first = 'd' then rest else first :: rest

/-- The number of components of a type that shaders declare. -/
def componentCount (name : String) : Except Error Nat :=
  if ["int", "uint", "float", "double"].contains name then
    .ok 1
  else
    match "vec".toList.isPrefixOf? (vectorPart name.toList) with
    | none => .error (.unknownDeclaredType name)
    | some size =>
      match (unsigned? 10 UInt64.size size).filter fun count => 2 ≤ count ∧ count ≤ 4 with
      | some count => .ok count
      | none => .error (.invalidVectorSize name)

/-- The format that stores a declared type in components of a type. -/
def combinedFormat (stored declared : String) : Except Error Format := do
  let (mode, bits) ← storedType stored
  let count ← componentCount declared
  match Format.ofVector? bits mode count with
  | some format => .ok format
  | none => .error (.invalidCombination stored declared)

/-- The format that the parts of a column header after its location stand for. -/
def headerFormat (header : String) : List String → Except Error Format
  | [] => .error (.missingFormat header)
  | [name] =>
    match Format.ofName? name with
    | some format => .ok format
    | none => .error (.unknownFormat name)
  | [stored, declared] => combinedFormat stored declared
  | _ => .error (.extraHeaderPart header)

/-- The column that a header stands for, placed after the byte at which the column before it
ends. -/
def readColumn (start : Nat) (header : String) : Except Error Column := do
  let parts := pieces (· == '/') header.toList
  match parts.head?.bind word32? with
  | none => .error (.invalidLocation header)
  | some location =>
    let format ← headerFormat header (parts.tail.map String.ofList)
    .ok ⟨location, format, alignUp start format.alignment⟩

/-- The columns that the tokens of a header line stand for, the first one placed after a byte. -/
def readColumns (start : Nat) : List Token → Except (Located Error) (List Column)
  | [] => .ok []
  | token :: rest =>
    match readColumn start token.text with
    | .error cause => .error ⟨token.line, cause⟩
    | .ok column => (readColumns column.stop rest).map (column :: ·)

/-- A value of a cell and the tokens after it, for a row that starts on a line. -/
def readValue (line : Nat) (base : BaseType) (bits : Nat) (allowHex : Bool) :
    List Token → Except (Located Error) (Value × List Token)
  | [] => .error ⟨line, .tooFewCells⟩
  | token :: rest =>
    match token.kind, Value.ofToken? base bits token with
    | .hex _, some value =>
      if allowHex then .ok (value, rest) else .error ⟨token.line, .invalidValue⟩
    | _, some value => .ok (value, rest)
    | _, none => .error ⟨token.line, .invalidValue⟩

/-- The values of the parts of a cell and the tokens after them. -/
def readParts (line : Nat) : List Part → List Token → Except (Located Error) (Cell × List Token)
  | [], tokens => .ok ([], tokens)
  | part :: parts, tokens => do
    let (value, tokens) ← readValue line part.mode.base part.bits false tokens
    let (values, tokens) ← readParts line parts tokens
    .ok (value :: values, tokens)

/-- A cell and the tokens after it. Only the word of a packed format may be hexadecimal. -/
def readCell (line : Nat) (format : Format) (tokens : List Token) :
    Except (Located Error) (Cell × List Token) :=
  match format.packedBits with
  | some bits => do
    let (value, tokens) ← readValue line .unsigned bits true tokens
    .ok ([value], tokens)
  | none => readParts line format.parts tokens

/-- The cells of a row, which takes all tokens of its line. -/
def readCells (line : Nat) : List Column → List Token → Except (Located Error) (List Cell)
  | [], [] => .ok []
  | [], _ :: _ => .error ⟨line, .extraCells⟩
  | column :: columns, tokens => do
    let (cell, tokens) ← readCell line column.format tokens
    let cells ← readCells line columns tokens
    .ok (cell :: cells)

/-- The row on a line. -/
def readRow (columns : List Column) (line : TokenLine) : Except (Located Error) (List Cell) :=
  readCells line.line columns line.tokens

/-- The table on the logical lines of a section; none without logical lines. -/
def ofLines? : List TokenLine → Except (Located Error) (Option VertexTable)
  | [] => .ok none
  | header :: lines => do
    let columns ← readColumns 0 header.tokens
    let rows ← lines.mapM (readRow columns)
    .ok (some ⟨columns, rows, strideOf columns⟩)

/-- The table in the body of a section whose first line has the given number. -/
def parse? (text : String) (firstLine : Nat) : Except (Located Error) (Option VertexTable) :=
  ofLines? (TokenLine.ofText text firstLine)

end GpuScript.VertexTable
