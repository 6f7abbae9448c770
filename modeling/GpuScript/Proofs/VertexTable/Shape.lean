import GpuScript.Proofs.Result
import GpuScript.Proofs.Token.Runs
import GpuScript.Proofs.Value.Storage
import GpuScript.Proofs.VertexTable.Pulling
import Mathlib.Data.List.Flatten

/-!
# The shape of vertex tables

A table has one row for each logical line after its header line, a row has one cell for each
column, and a cell has the values that the format of its column asks for. The tokens of a logical
line give the values of its row one by one (`VertexTable.RowOf`), so that a row depends on nothing
but the header line and its own line, also when the values are pulled from one cursor that knows
nothing of lines (`VertexTable.shape_of_parse?`).
-/

namespace GpuScript

/-- The kind of number and the number of bits of each value in a cell of a column: one unsigned
word for a packed format, else what the parts of the format hold. -/
def Column.slots (column : Column) : List (BaseType × Nat) :=
  match column.format.packedBits with
  | some bits => [(.unsigned, bits)]
  | none => column.format.parts.map fun part => (part.mode.base, part.bits)

/-- A cell has as many values as its column asks for, each stored as its place in the cell asks
for. -/
structure Column.Holds (column : Column) (cell : Cell) : Prop where
  /-- The number of values. -/
  count : cell.length = column.valueCount
  /-- How the values are stored. -/
  typed : List.Forall₂ (fun slot value => Value.StoredAs slot.1 slot.2 value) column.slots cell

namespace VertexTable

/-- Tokens give values one by one, each for a place with a kind of number and a number of bits. -/
structure Gives (slots : List (BaseType × Nat)) (tokens : List Token) (values : List Value) :
    Prop where
  /-- There is a token for each place. -/
  count : tokens.length = slots.length
  /-- The token gives the value for its place. -/
  each : values.map some =
    List.zipWith (fun slot token => Value.ofToken? slot.1 slot.2 token) slots tokens

/-- A row is that of a logical line: it has one cell for each column, and the tokens of the line
give the values of its cells from the first to the last. -/
structure RowOf (columns : List Column) (line : TokenLine) (row : List Cell) : Prop where
  /-- The cells are those of the columns. -/
  cells : List.Forall₂ Column.Holds columns row
  /-- The values are those of the tokens. -/
  values : Gives (columns.flatMap Column.slots) line.tokens row.flatten

end VertexTable

/-- Packed and other formats have a place for each of their values. -/
theorem Column.length_slots (column : Column) : column.slots.length = column.valueCount := by
  unfold slots valueCount
  cases column.format.packedBits with
  | none => exact List.length_map _
  | some bits => rfl

namespace VertexTable

open Value

variable {slots others : List (BaseType × Nat)} {tokens rest : List Token} {values : List Value}

namespace Gives

/-- No tokens give no values. -/
theorem nil : Gives [] [] [] where
  count := rfl
  each := rfl

/-- A token gives a value in front of others. -/
theorem cons {kind : BaseType} {bits : Nat} {token : Token} {value : Value}
    (own : ofToken? kind bits token = some value) (later : Gives slots tokens values) :
    Gives ((kind, bits) :: slots) (token :: tokens) (value :: values) where
  count := by rw [List.length_cons, List.length_cons, later.count]
  each := by rw [List.map_cons, List.zipWith_cons_cons, own, later.each]

/-- Tokens of two lists give the values of both. -/
theorem append {more : List Value} (first : Gives slots tokens values)
    (second : Gives others rest more) :
    Gives (slots ++ others) (tokens ++ rest) (values ++ more) where
  count := by rw [List.length_append, List.length_append, first.count, second.count]
  each := by
    rw [List.map_append, first.each, second.each, List.zipWith_append first.count.symm]

/-- There is a value for each place. -/
theorem length (given : Gives slots tokens values) : values.length = slots.length := by
  have same := congrArg List.length given.each
  have count := given.count
  rw [List.length_map, List.length_zipWith] at same
  omega

/-- Every value is stored as its place asks for. -/
theorem typed (given : Gives slots tokens values) :
    List.Forall₂ (fun slot value => StoredAs slot.1 slot.2 value) slots values := by
  induction slots generalizing tokens values with
  | nil =>
    have empty : values = [] := List.length_eq_zero_iff.mp given.length
    rw [empty]
    exact .nil
  | cons slot slots ih =>
    obtain ⟨count, each⟩ := given
    cases tokens with
    | nil => cases count
    | cons token tokens =>
      cases values with
      | nil => cases each
      | cons value values =>
        rw [List.map_cons, List.zipWith_cons_cons] at each
        obtain ⟨own, later⟩ := List.cons.inj each
        exact .cons (storedAs_of_ofToken? own.symm) (ih ⟨Nat.succ.inj count, later⟩)

/-- The values do not depend on where the tokens stand. -/
theorem eq_of_unplaced {again : List Value} (given : Gives slots tokens values)
    (other : Gives slots rest again)
    (same : rest.map Token.unplaced = tokens.map Token.unplaced) : again = values := by
  have placeless (list : List Token) :
      List.zipWith (fun slot token => ofToken? slot.1 slot.2 token) slots list =
        List.zipWith (fun slot token => ofToken? slot.1 slot.2 token) slots
          (list.map Token.unplaced) := by
    rw [List.zipWith_map_right]
    rfl
  have whole : again.map some = values.map some := by
    rw [other.each, given.each, placeless rest, placeless tokens, same]
  exact List.map_injective_iff.mpr (fun _ _ => Option.some.inj) whole

end Gives

/-- The cells of a row are told apart by the numbers of their values. -/
theorem map_length_of_holds {columns : List Column} {row : List Cell}
    (cells : List.Forall₂ Column.Holds columns row) :
    row.map List.length = columns.map Column.valueCount := by
  induction cells with
  | nil => rfl
  | cons own later ih => rw [List.map_cons, List.map_cons, own.count, ih]

/-- A logical line has one row only, wherever it stands. -/
theorem RowOf.unique {columns : List Column} {line same : TokenLine} {row again : List Cell}
    (first : RowOf columns line row) (second : RowOf columns same again)
    (alike : same.unplaced = line.unplaced) : again = row := by
  have flat := first.values.eq_of_unplaced second.values (TokenLine.tokens_of_unplaced alike)
  have widths : again.map List.length = row.map List.length := by
    rw [map_length_of_holds second.cells, map_length_of_holds first.cells]
  exact List.eq_iff_flatten_eq.mpr ⟨flat, widths⟩

/-- A value that is read takes one token. -/
theorem readValue_eq_ok {line : Nat} {kind : BaseType} {bits : Nat} {allowHex : Bool}
    {value : Value} (accepted : readValue line kind bits allowHex tokens = .ok (value, rest)) :
    ∃ token, tokens = token :: rest ∧ ofToken? kind bits token = some value := by
  cases tokens with
  | nil => cases accepted
  | cons token others =>
    rw [readValue] at accepted
    split at accepted
    · rename_i found
      split at accepted
      · obtain ⟨rfl, rfl⟩ := Prod.mk.inj (Except.ok.inj accepted)
        exact ⟨token, rfl, found⟩
      · cases accepted
    · rename_i found _
      obtain ⟨rfl, rfl⟩ := Prod.mk.inj (Except.ok.inj accepted)
      exact ⟨token, rfl, found⟩
    · cases accepted

/-- The parts of a cell take one token each. -/
theorem readParts_eq_ok {line : Nat} {parts : List Part} {cell : Cell}
    (accepted : readParts line parts tokens = .ok (cell, rest)) :
    ∃ own, tokens = own ++ rest ∧
      Gives (parts.map fun part => (part.mode.base, part.bits)) own cell := by
  induction parts generalizing tokens cell with
  | nil =>
    obtain ⟨rfl, rfl⟩ := Prod.mk.inj (Except.ok.inj accepted)
    exact ⟨[], rfl, .nil⟩
  | cons part parts ih =>
    obtain ⟨⟨value, left⟩, first, accepted⟩ := bind_eq_ok.mp accepted
    obtain ⟨⟨values, last⟩, second, accepted⟩ := bind_eq_ok.mp accepted
    obtain ⟨rfl, rfl⟩ := Prod.mk.inj (Except.ok.inj accepted)
    obtain ⟨token, rfl, found⟩ := readValue_eq_ok first
    obtain ⟨own, rfl, given⟩ := ih second
    exact ⟨token :: own, rfl, given.cons found⟩

/-- A cell takes the tokens that give its values, and no others. -/
theorem readCell_eq_ok {line : Nat} {column : Column} {cell : Cell}
    (accepted : readCell line column.format tokens = .ok (cell, rest)) :
    ∃ own, tokens = own ++ rest ∧ Gives column.slots own cell := by
  rw [readCell] at accepted
  unfold Column.slots
  cases packed : column.format.packedBits with
  | none =>
    rw [packed] at accepted
    exact readParts_eq_ok accepted
  | some bits =>
    rw [packed] at accepted
    obtain ⟨⟨value, left⟩, first, accepted⟩ := bind_eq_ok.mp accepted
    obtain ⟨rfl, rfl⟩ := Prod.mk.inj (Except.ok.inj accepted)
    obtain ⟨token, rfl, found⟩ := readValue_eq_ok first
    exact ⟨[token], rfl, Gives.nil.cons found⟩

/-- The cells of a row are those of the columns, and their values those of the tokens. -/
theorem readCells_eq_ok {line : Nat} {columns : List Column} {row : List Cell}
    (accepted : readCells line columns tokens = .ok row) :
    List.Forall₂ Column.Holds columns row ∧
      Gives (columns.flatMap Column.slots) tokens row.flatten := by
  induction columns generalizing tokens row with
  | nil =>
    cases tokens with
    | cons token others => cases accepted
    | nil =>
      rw [← Except.ok.inj accepted]
      exact ⟨.nil, .nil⟩
  | cons column columns ih =>
    obtain ⟨⟨cell, left⟩, first, others⟩ := bind_eq_ok.mp accepted
    obtain ⟨cells, second, last⟩ := bind_eq_ok.mp others
    obtain ⟨own, rfl, given⟩ := readCell_eq_ok first
    obtain ⟨held, later⟩ := ih second
    have count : cell.length = column.valueCount := by
      rw [given.length, column.length_slots]
    rw [← Except.ok.inj last, List.flatMap_cons, List.flatten_cons]
    exact ⟨.cons ⟨count, given.typed⟩ held, given.append later⟩

/-- There is a column for each token of the header line. -/
theorem length_of_readColumns {start : Nat} {columns : List Column}
    (accepted : readColumns start tokens = .ok columns) : columns.length = tokens.length := by
  induction tokens generalizing start columns with
  | nil =>
    rw [← Except.ok.inj accepted]
    rfl
  | cons token rest ih =>
    rw [readColumns] at accepted
    split at accepted
    · cases accepted
    · obtain ⟨others, later, rfl⟩ := map_eq_ok.mp accepted
      rw [List.length_cons, List.length_cons, ih later]

/-- The columns depend on the texts of the tokens only. -/
theorem readColumns_of_texts {start : Nat} {columns : List Column}
    (accepted : readColumns start tokens = .ok columns)
    (same : rest.map Token.text = tokens.map Token.text) :
    readColumns start rest = .ok columns := by
  induction tokens generalizing start columns rest with
  | nil =>
    have empty : rest = [] := List.map_eq_nil_iff.mp same
    rw [empty]
    exact accepted
  | cons token others ih =>
    cases rest with
    | nil => cases same
    | cons first more =>
      rw [List.map_cons, List.map_cons] at same
      obtain ⟨head, tail⟩ := List.cons.inj same
      rw [readColumns] at accepted ⊢
      rw [head]
      split at accepted
      · cases accepted
      · rename_i column own
        obtain ⟨later, read, rfl⟩ := map_eq_ok.mp accepted
        exact map_eq_ok.mpr ⟨later, ih read tail, rfl⟩

/-- The table of a body has a column for each token of its header line and a row for each logical
line after it. -/
theorem parse?_eq_ok {text : String} {firstLine : Nat} {table : VertexTable}
    (accepted : parse? text firstLine = .ok (some table)) :
    ∃ header lines, TokenLine.ofText text firstLine = header :: lines ∧
      readColumns 0 header.tokens = .ok table.columns ∧
      List.Forall₂ (RowOf table.columns) lines table.rows := by
  rw [parse?] at accepted
  cases found : TokenLine.ofText text firstLine with
  | nil =>
    rw [found] at accepted
    cases accepted
  | cons header lines =>
    rw [found] at accepted
    obtain ⟨columns, first, others⟩ := bind_eq_ok.mp accepted
    obtain ⟨rows, second, last⟩ := bind_eq_ok.mp others
    rw [← Option.some.inj (Except.ok.inj last)]
    have rowOf (line : TokenLine) (row : List Cell) (read : readRow columns line = .ok row) :
        RowOf columns line row := by
      obtain ⟨cells, given⟩ := readCells_eq_ok read
      exact ⟨cells, given⟩
    exact ⟨header, lines, rfl, first, (forall₂_of_mapM_eq_ok second).imp rowOf⟩

/-- A table whose columns and cells are pulled from one cursor is the same, as no cell pulls a token
behind its line. The logical lines of a body are its runs of physical lines that have a token. The
first of them gives the columns of a table, one for each token, and every other one gives a row: one
cell for each column, and in it the values that the format of the column asks for. In another body
with the same header line the columns are the same, and a logical line that stands in both gives the
same row in both. -/
theorem shape_of_parse? {text : String} {firstLine : Nat} {table : VertexTable}
    (accepted : parse? text firstLine = .ok (some table)) :
    pull? text firstLine = .ok (some table) ∧ ∃ header lines,
      (TokenLine.runs text firstLine).filterMap TokenLine.ofRun? = header :: lines ∧
      table.columns.length = header.tokens.length ∧
      List.Forall₂ (RowOf table.columns) lines table.rows ∧
      ∀ other otherLine again head rest, parse? other otherLine = .ok (some again) →
        (TokenLine.runs other otherLine).filterMap TokenLine.ofRun? = head :: rest →
        head.unplaced = header.unplaced →
          again.columns = table.columns ∧
          ∀ (place otherPlace : Nat) line same, lines[place]? = some line →
            rest[otherPlace]? = some same → same.unplaced = line.unplaced →
              again.rows[otherPlace]? = table.rows[place]? := by
  obtain ⟨header, lines, found, columns, rows⟩ := parse?_eq_ok accepted
  rw [TokenLine.ofText_eq_filterMap_runs] at found
  refine ⟨(pull?_eq text firstLine).trans accepted, header, lines, found,
    length_of_readColumns columns, rows, ?_⟩
  intro other otherLine again head rest read split alike
  obtain ⟨_, _, whole, others, cells⟩ := parse?_eq_ok read
  rw [TokenLine.ofText_eq_filterMap_runs, split] at whole
  obtain ⟨rfl, rfl⟩ := List.cons.inj whole
  have texts : head.tokens.map Token.text = header.tokens.map Token.text := by
    have tokens := TokenLine.tokens_of_unplaced alike
    have inner := congrArg (List.map Token.text) tokens
    rw [List.map_map, List.map_map] at inner
    exact inner
  have columnsAgree : again.columns = table.columns := by
    have given := readColumns_of_texts columns texts
    rw [others] at given
    exact Except.ok.inj given
  refine ⟨columnsAgree, ?_⟩
  intro place otherPlace line same one two twin
  rw [columnsAgree] at cells
  obtain ⟨row, stands, own⟩ := exists_getElem?_of_forall₂ rows one
  obtain ⟨second, there, given⟩ := exists_getElem?_of_forall₂ cells two
  rw [stands, there, own.unique given twin]

/-- A body with a packed column and one with two parts, and a row that a continuation joins. -/
def mixedCells : String :=
  "# two columns\n0/A8B8G8R8_UINT_PACK32 1/R8G8_SNORM\n\n0xff00 \\\n -1 2 # first\n7 128 0\n"

/-- A body with the same header line and the second row of the other body. -/
def movedCells : String :=
  "0/A8B8G8R8_UINT_PACK32 \\\n 1/R8G8_SNORM\n 7, 128, 0 # second\n"

/-- Both bodies have a table, the first also when it is pulled. The columns are the same, and so is
the row that is in both. -/
theorem shape_of_parse?_mixedCells :
    ∃ table again, parse? mixedCells 1 = .ok (some table) ∧
      pull? mixedCells 1 = .ok (some table) ∧ parse? movedCells 9 = .ok (some again) ∧
      table.rows.length = 2 ∧
      (∃ row, table.rows[0]? = some row ∧ List.Forall₂ Column.Holds table.columns row) ∧
      again.columns = table.columns ∧ again.rows[0]? = table.rows[1]? := by
  have tables : (parse? mixedCells 1).toOption.join.isSome ∧
      (parse? movedCells 9).toOption.join.isSome := by
    decide +kernel
  have headers : ((TokenLine.runs movedCells 9).filterMap TokenLine.ofRun?)[0]?.map
      TokenLine.unplaced =
        ((TokenLine.runs mixedCells 1).filterMap TokenLine.ofRun?)[0]?.map
          TokenLine.unplaced := by
    decide +kernel
  have twins : ((TokenLine.runs mixedCells 1).filterMap TokenLine.ofRun?).length = 3 ∧
      ((TokenLine.runs movedCells 9).filterMap TokenLine.ofRun?).length = 2 ∧
      ((TokenLine.runs movedCells 9).filterMap TokenLine.ofRun?)[1]?.map TokenLine.unplaced =
        ((TokenLine.runs mixedCells 1).filterMap TokenLine.ofRun?)[2]?.map
          TokenLine.unplaced := by
    decide +kernel
  have exists_table {text : String} {firstLine : Nat}
      (found : (parse? text firstLine).toOption.join.isSome) :
      ∃ table, parse? text firstLine = .ok (some table) := by
    cases read : parse? text firstLine with
    | error error =>
      rw [read] at found
      cases found
    | ok table =>
      rw [read] at found
      obtain ⟨only, rfl⟩ := Option.isSome_iff_exists.mp found
      exact ⟨only, rfl⟩
  obtain ⟨table, read⟩ := exists_table tables.1
  obtain ⟨again, reread⟩ := exists_table tables.2
  obtain ⟨pulled, header, lines, split, _, rows, others⟩ := shape_of_parse? read
  obtain ⟨_, head, rest, moved, _⟩ := shape_of_parse? reread
  rw [split, moved] at headers twins
  obtain ⟨three, two, same⟩ := twins
  obtain ⟨first, second, rfl⟩ := List.length_eq_two.mp (Nat.succ.inj three)
  obtain ⟨twin, rfl⟩ := List.length_eq_one_iff.mp (Nat.succ.inj two)
  obtain ⟨columns, independent⟩ :=
    others movedCells 9 again head [twin] reread moved (Option.some.inj headers)
  have row := independent 1 0 second twin rfl rfl (Option.some.inj same)
  have opens : [first, second][0]? = some first := rfl
  obtain ⟨top, stands, own⟩ := exists_getElem?_of_forall₂ rows opens
  exact ⟨table, again, read, pulled, reread, rows.length_eq.symm, ⟨top, stands, own.cells⟩,
    columns, row⟩

end VertexTable

end GpuScript
