import GpuScript.Proofs.Checked.Result
import GpuScript.Proofs.Checked.Table
import GpuScript.Proofs.Checked.Token
import GpuScript.VertexTable.Reader

/-!
# Vertex tables at places and indices

The first letter of the name of a vector type is taken away at a place, the columns of a row are
taken at their indices, and a column is aligned by a quotient whose divisor is never zero
(`alignUp?_eq`). The formats of the columns are those of the table (`mem_of_headerFormat`), so their
parts are in their slots. A table is read without anything that is none (`vertexTable?_eq`).
-/

namespace GpuScript.Checked

open Text VertexTable

/-- The quotient of a number, rounded up; nothing if the divisor is zero. -/
def divCeil? (value divisor : Nat) : Option Nat :=
  if divisor = 0 then none else some ((value + (divisor - 1)) / divisor)

/-- The first multiple of an alignment that is not below a value. -/
def alignUp? (value alignment : Nat) : Option Nat := do
  let count ← divCeil? value (max alignment 1)
  some (count * max alignment 1)

/-- The name of a vector type without the letter for the kind of its components. -/
def vectorPart? : List Char → Option (List Char)
  | [] => some []
  | first :: rest =>
    if first = 'i' ∨ first = 'u' ∨ first = 'd' then
      slice? (first :: rest) 1 (byteLength (first :: rest))
    else
      some (first :: rest)

/-- The number of components of a type that shaders declare. -/
def componentCount? (name : String) : Reading Error Nat :=
  if ["int", "uint", "float", "double"].contains name then
    given (.ok 1)
  else do
    let part ← ask (vectorPart? name.toList)
    match "vec".toList.isPrefixOf? part with
    | none => given (.error (.unknownDeclaredType name))
    | some size =>
      match (unsigned? 10 UInt64.size size).filter fun count => 2 ≤ count ∧ count ≤ 4 with
      | some count => given (.ok count)
      | none => given (.error (.invalidVectorSize name))

/-- The format that stores a declared type in components of a type. -/
def combinedFormat? (stored declared : String) : Reading Error Format := do
  let (mode, bits) ← given (storedType stored)
  let count ← componentCount? declared
  let found ← ask (firstVector? bits mode count Format.all.toList)
  match found with
  | some format => given (.ok format)
  | none => given (.error (.invalidCombination stored declared))

/-- The format that the parts of a column header after its location stand for. -/
def headerFormat? (header : String) : List String → Reading Error Format
  | [] => given (.error (.missingFormat header))
  | [name] => do
    let found ← ask (lookUp? Format.table name)
    match found with
    | some format => given (.ok format)
    | none => given (.error (.unknownFormat name))
  | [stored, declared] => combinedFormat? stored declared
  | _ => given (.error (.extraHeaderPart header))

/-- The column that a header stands for, placed after the byte at which the column before it
ends. -/
def readColumn? (start : Nat) (header : String) : Reading Error Column :=
  let parts := pieces (· == '/') header.toList
  match parts.head?.bind word32? with
  | none => given (.error (.invalidLocation header))
  | some location => do
    let format ← headerFormat? header (parts.tail.map String.ofList)
    let alignment ← ask (alignment? format)
    let offset ← ask (alignUp? start alignment)
    given (.ok ⟨location, format, offset⟩)

/-- The first byte after a column. -/
def stop? (column : Column) : Option Nat := do
  let size ← size? column.format
  some (column.offset + size)

/-- The columns that the tokens of a header line stand for, the first one placed after a byte. -/
def readColumns? (start : Nat) : List Token → Reading (Located Error) (List Column)
  | [] => given (.ok [])
  | token :: rest => do
    let column ← onError (fun cause => ⟨token.line, cause⟩) (readColumn? start token.text)
    let stop ← ask (stop? column)
    let columns ← readColumns? stop rest
    given (.ok (column :: columns))

/-- The widest alignment of columns and of what is before them. -/
def widest? : Nat → List Column → Option Nat
  | widest, [] => some widest
  | widest, column :: columns => do
    let alignment ← alignment? column.format
    widest? (max widest alignment) columns

/-- The number of bytes from one vertex to the next. -/
def strideOf? (columns : List Column) : Option Nat := do
  let stop ← match columns.getLast? with
    | none => some 0
    | some column => stop? column
  let widest ← widest? 1 columns
  alignUp? stop widest

/-- A cell and the tokens after it. -/
def readCell? (line : Nat) (format : Format) (tokens : List Token) :
    Reading (Located Error) (Cell × List Token) :=
  match format.packedBits with
  | some _ => given (readCell line format tokens)
  | none => do
    let parts ← ask (parts? format)
    given (readParts line parts tokens)

/-- The cells of a row for a number of columns from an index on. -/
def readCells? (line : Nat) (columns : List Column) :
    Nat → Nat → List Token → Reading (Located Error) (List Cell)
  | _, 0, tokens => given (readCells line [] tokens)
  | index, count + 1, tokens => do
    let column ← ask columns[index]?
    let (cell, tokens) ← readCell? line column.format tokens
    let cells ← readCells? line columns (index + 1) count tokens
    given (.ok (cell :: cells))

/-- The row on a line. -/
def readRow? (columns : List Column) (line : TokenLine) : Reading (Located Error) (List Cell) :=
  readCells? line.line columns 0 columns.length line.tokens

/-- The table on the logical lines of a section. -/
def ofLines? : List TokenLine → Reading (Located Error) (Option VertexTable)
  | [] => given (.ok none)
  | header :: lines => do
    let columns ← readColumns? 0 header.tokens
    let stride ← ask (strideOf? columns)
    let rows ← lines.mapM (readRow? columns)
    given (.ok (some ⟨columns, rows, stride⟩))

/-- The table in the body of a section whose first line has the given number. -/
def vertexTable? (text : String) (firstLine : Nat) :
    Reading (Located Error) (Option VertexTable) := do
  let lines ← ask (tokenLines? text firstLine)
  ofLines? lines

/-- The divisor of an alignment is never zero. -/
theorem alignUp?_eq (value alignment : Nat) :
    alignUp? value alignment = some (alignUp value alignment) := by
  have positive : max alignment 1 ≠ 0 := by omega
  rw [alignUp?, divCeil?, if_neg positive]
  rfl

/-- The letter that is taken away has one byte. -/
theorem vectorPart?_eq (name : List Char) : vectorPart? name = some (vectorPart name) := by
  cases name with
  | nil => rfl
  | cons first rest =>
    rw [vectorPart?, vectorPart]
    by_cases letter : first = 'i' ∨ first = 'u' ∨ first = 'd'
    · have one : byteLength [first] = 1 := by
        rcases letter with rfl | rfl | rfl <;> rfl
      have part := slice?_rest [first] rest
      rw [one] at part
      rw [if_pos letter, if_pos letter]
      exact part
    · rw [if_neg letter, if_neg letter]

/-- The number of components is found without a part that is none. -/
theorem componentCount?_eq (name : String) :
    componentCount? name = given (componentCount name) := by
  rw [componentCount?, componentCount, vectorPart?_eq, ask_some, given_ok_bind]
  by_cases scalar : ["int", "uint", "float", "double"].contains name = true
  · rw [if_pos scalar, if_pos scalar]
  · rw [if_neg scalar, if_neg scalar]
    cases "vec".toList.isPrefixOf? (vectorPart name.toList) with
    | none => rfl
    | some size =>
      dsimp only
      cases (unsigned? 10 UInt64.size size).filter _ <;> rfl

/-- A format for two types is found without anything that is none. -/
theorem combinedFormat?_eq (stored declared : String) :
    combinedFormat? stored declared = given (combinedFormat stored declared) := by
  have all : ∀ format ∈ Format.all.toList, format ∈ Format.table.entries := fun format listed =>
    Array.mem_toList_iff.mp listed
  refine given_bind _ fun ⟨mode, bits⟩ _ => ?_
  dsimp only
  rw [componentCount?_eq]
  refine given_bind _ fun count _ => ?_
  rw [firstVector?_eq bits mode count all, ask_some, given_ok_bind, Format.ofVector?]
  cases Format.all.toList.find? (Format.isVector bits mode count) <;> rfl

/-- The format of a header is found without anything that is none. -/
theorem headerFormat?_eq (header : String) (parts : List String) :
    headerFormat? header parts = given (headerFormat header parts) := by
  rcases parts with _ | ⟨name, _ | ⟨declared, _ | ⟨third, rest⟩⟩⟩
  · rfl
  · rw [headerFormat?, headerFormat, lookUp?_eq, ask_some, given_ok_bind, Format.ofName?]
    cases Format.table.find? name <;> rfl
  · exact combinedFormat?_eq name declared
  · rfl

/-- The format of a header is one of the table. -/
theorem mem_of_headerFormat {header : String} {parts : List String} {format : Format}
    (found : headerFormat header parts = .ok format) : format ∈ Format.table.entries := by
  rcases parts with _ | ⟨name, _ | ⟨declared, _ | ⟨third, rest⟩⟩⟩
  · cases found
  · rw [headerFormat] at found
    cases own : Format.ofName? name with
    | none => simp [own] at found
    | some format =>
      rw [own] at found
      exact Except.ok.inj found ▸ SortedTable.mem_of_find? own
  · obtain ⟨⟨mode, bits⟩, -, rest⟩ := bind_eq_ok.mp found
    obtain ⟨count, -, last⟩ := bind_eq_ok.mp rest
    cases own : Format.ofVector? bits mode count with
    | none => simp [own] at last
    | some format =>
      rw [own] at last
      exact Except.ok.inj last ▸ Array.mem_toList_iff.mp (List.mem_of_find?_eq_some own)
  · cases found

/-- A column is read without anything that is none. -/
theorem readColumn?_eq (start : Nat) (header : String) :
    readColumn? start header = given (readColumn start header) := by
  rw [readColumn?, readColumn]
  cases (pieces (· == '/') header.toList).head?.bind word32? with
  | none => rfl
  | some location =>
    dsimp only
    rw [headerFormat?_eq]
    refine given_bind _ fun format found => ?_
    have listed := mem_of_headerFormat found
    rw [alignment?_eq listed, ask_some, given_ok_bind, alignUp?_eq]
    rfl

/-- The format of a column is one of the table. -/
theorem mem_of_readColumn {start : Nat} {header : String} {column : Column}
    (found : readColumn start header = .ok column) : column.format ∈ Format.table.entries := by
  rw [readColumn] at found
  split at found
  · cases found
  · obtain ⟨format, own, made⟩ := bind_eq_ok.mp found
    exact Except.ok.inj made ▸ mem_of_headerFormat own

/-- The end of a column with a format of the table is found. -/
theorem stop?_eq {column : Column} (listed : column.format ∈ Format.table.entries) :
    stop? column = some column.stop := by
  rw [stop?, size?_eq listed]
  rfl

/-- Columns are read without anything that is none. -/
theorem readColumns?_eq (start : Nat) (tokens : List Token) :
    readColumns? start tokens = given (readColumns start tokens) := by
  induction tokens generalizing start with
  | nil => rfl
  | cons token rest ih =>
    rw [readColumns?, readColumn?_eq, onError_given, readColumns]
    cases own : readColumn start token.text with
    | error cause => rfl
    | ok column =>
      have listed := mem_of_readColumn own
      rw [Except.mapError, given_ok_bind, stop?_eq listed, ask_some, given_ok_bind, ih]
      exact given_bind_ok _ _

/-- The formats of columns are those of the table. -/
theorem mem_of_readColumns {start : Nat} {tokens : List Token} {columns : List Column}
    (found : readColumns start tokens = .ok columns) :
    ∀ column ∈ columns, column.format ∈ Format.table.entries := by
  induction tokens generalizing start columns with
  | nil =>
    rw [← Except.ok.inj found]
    simp
  | cons token rest ih =>
    rw [readColumns] at found
    cases own : readColumn start token.text with
    | error cause => simp [own] at found
    | ok column =>
      rw [own] at found
      obtain ⟨later, inner, rfl⟩ := map_eq_ok.mp found
      exact List.forall_mem_cons.mpr ⟨mem_of_readColumn own, ih inner⟩

/-- The widest alignment of columns is found. -/
theorem widest?_eq (widest : Nat) {columns : List Column}
    (listed : ∀ column ∈ columns, column.format ∈ Format.table.entries) :
    widest? widest columns =
      some (columns.foldl (fun widest column => max widest column.format.alignment) widest) := by
  induction columns generalizing widest with
  | nil => rfl
  | cons column columns ih =>
    obtain ⟨own, others⟩ := List.forall_mem_cons.mp listed
    rw [widest?, alignment?_eq own]
    exact ih _ others

/-- The stride of columns is found. -/
theorem strideOf?_eq {columns : List Column}
    (listed : ∀ column ∈ columns, column.format ∈ Format.table.entries) :
    strideOf? columns = some (strideOf columns) := by
  rw [strideOf?, strideOf, widest?_eq 1 listed]
  cases last : columns.getLast? with
  | none => exact alignUp?_eq _ _
  | some column =>
    have own := listed column (List.mem_of_getLast? last)
    dsimp only
    rw [stop?_eq own]
    exact alignUp?_eq _ _

/-- A cell of a format in the table is read without anything that is none. -/
theorem readCell?_eq (line : Nat) {format : Format} (listed : format ∈ Format.table.entries)
    (tokens : List Token) :
    readCell? line format tokens = given (readCell line format tokens) := by
  rw [readCell?, parts?_eq listed, ask_some]
  cases packed : format.packedBits with
  | some bits => rfl
  | none =>
    rw [readCell, packed]
    rfl

/-- The columns from an index on are there, so their cells are read without anything that is
none. -/
theorem readCells?_append (line : Nat) {columns : List Column}
    (listed : ∀ column ∈ columns, column.format ∈ Format.table.entries)
    {before after : List Column} (split : columns = before ++ after) (tokens : List Token) :
    readCells? line columns before.length after.length tokens =
      given (readCells line after tokens) := by
  induction after generalizing before tokens with
  | nil => rfl
  | cons column rest ih =>
    have here : columns[before.length]? = some column := by simp [split]
    have own := listed column (split ▸ by simp)
    have onward : columns = (before ++ [column]) ++ rest := by simp [split]
    have behind := ih onward
    rw [List.length_append, List.length_singleton] at behind
    rw [List.length_cons, readCells?, here, ask_some, given_ok_bind, readCell?_eq line own,
      readCells]
    refine given_bind _ fun ⟨cell, tokens⟩ _ => ?_
    dsimp only
    rw [behind]
    exact given_bind _ fun cells _ => rfl

/-- A row is read without anything that is none. -/
theorem readRow?_eq {columns : List Column}
    (listed : ∀ column ∈ columns, column.format ∈ Format.table.entries) (line : TokenLine) :
    readRow? columns line = given (readRow columns line) := by
  have all : columns = [] ++ columns := rfl
  exact readCells?_append line.line listed all line.tokens

/-- A table is read from its lines without anything that is none. -/
theorem ofLines?_eq (lines : List TokenLine) :
    Checked.ofLines? lines = given (VertexTable.ofLines? lines) := by
  cases lines with
  | nil => rfl
  | cons header lines =>
    rw [Checked.ofLines?, readColumns?_eq, VertexTable.ofLines?]
    refine given_bind _ fun columns found => ?_
    have listed := mem_of_readColumns found
    rw [strideOf?_eq listed, ask_some, given_ok_bind,
      mapM_given fun line _ => readRow?_eq listed line]
    exact given_bind _ fun rows _ => rfl

/-- Whatever the text, its table is read without anything that is none. -/
theorem vertexTable?_eq (text : String) (firstLine : Nat) :
    vertexTable? text firstLine = given (VertexTable.parse? text firstLine) := by
  rw [vertexTable?, tokenLines?_eq, ask_some, given_ok_bind, ofLines?_eq]
  rfl

end GpuScript.Checked
