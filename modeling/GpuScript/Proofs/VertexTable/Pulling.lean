import GpuScript.Proofs.Token.Pulling
import GpuScript.VertexTable.Reader

/-!
# Vertex tables read from one cursor

A vertex table can be read without its logical lines at hand: one cursor runs through the body, the
columns are pulled from it up to the end of the header line, and for every row each value of each
cell pulls one token. No cell reads past its line, as an end of a line is no value and stops the row
(`VertexTable.pullCell_pulledAs`): a row that is accepted leaves the cursor behind its own line
(`VertexTable.pullCells_eq`), and the table is the same as when the body is cut into lines first
(`VertexTable.pull?_eq`).
-/

namespace GpuScript.VertexTable

open Cursor

/-- The column that a token stands for, behind those before it, and the byte at which it ends. -/
def addColumn (before : List Column × Nat) (token : Token) :
    Except (Located Error) (List Column × Nat) :=
  match readColumn before.2 token.text with
  | .error cause => .error ⟨token.line, cause⟩
  | .ok column => .ok (before.1 ++ [column], column.stop)

/-- The columns on the rest of a line, and the end of the line. -/
def pullColumns (cursor : Cursor) : Except (Located Error) (List Column × Cursor) :=
  (pullEach addColumn ([], 0) cursor).map fun (columns, after) => (columns.1, after)

/-- A value of a cell, for a row that starts on a line. -/
def pullValue (line : Nat) (base : BaseType) (bits : Nat) (allowHex : Bool) :
    Cursor → Except (Located Error) (Value × Cursor) :=
  pullOperand fun token =>
    if token.kind.isEnd then
      .error ⟨line, .tooFewCells⟩
    else
      match token.kind with
      | .hex _ =>
        if allowHex then orError ⟨token.line, .invalidValue⟩ (Value.ofToken? base bits token)
        else .error ⟨token.line, .invalidValue⟩
      | _ => orError ⟨token.line, .invalidValue⟩ (Value.ofToken? base bits token)

/-- The values of the parts of a cell. -/
def pullParts (line : Nat) : List Part → Cursor → Except (Located Error) (Cell × Cursor)
  | [], cursor => .ok ([], cursor)
  | part :: parts, cursor => do
    let (value, after) ← pullValue line part.mode.base part.bits false cursor
    let (values, after) ← pullParts line parts after
    .ok (value :: values, after)

/-- A cell. -/
def pullCell (line : Nat) (format : Format) (cursor : Cursor) :
    Except (Located Error) (Cell × Cursor) :=
  match format.packedBits with
  | some bits => do
    let (value, after) ← pullValue line .unsigned bits true cursor
    .ok ([value], after)
  | none => pullParts line format.parts cursor

/-- The cells of a row, and the end of its line. -/
def pullCells (line : Nat) :
    List Column → Cursor → Except (Located Error) (List Cell × Cursor)
  | [], cursor => pullEnd ⟨line, .extraCells⟩ [] cursor
  | column :: columns, cursor => do
    let (cell, after) ← pullCell line column.format cursor
    let (cells, after) ← pullCells line columns after
    .ok (cell :: cells, after)

variable (cursor : Cursor)

/-- Columns that are added one by one are those that the tokens stand for, in order. -/
theorem foldlM_addColumn (before : List Column) (start : Nat) (tokens : List Token) :
    (tokens.foldlM addColumn (before, start)).map Prod.fst =
      (readColumns start tokens).map (before ++ ·) := by
  induction tokens generalizing before start with
  | nil =>
    rw [List.foldlM_nil, readColumns, Except.map, List.append_nil]
    rfl
  | cons token rest ih =>
    rw [List.foldlM_cons, addColumn, readColumns]
    cases readColumn start token.text with
    | error cause => rfl
    | ok column =>
      rw [ok_bind, ih, map_map]
      simp only [List.append_assoc, List.singleton_append]

/-- The columns are pulled as they are read, and the end of their line. -/
theorem pullColumns_eq :
    pullColumns cursor = cursor.behindLine (readColumns 0 cursor.restOfLine) := by
  rw [pullColumns, pullEach_eq, map_behindLine, foldlM_addColumn]
  cases readColumns 0 cursor.restOfLine <;> rfl

/-- A value is pulled as it is read. -/
theorem pullValue_pulledAs (line : Nat) (base : BaseType) (bits : Nat) (allowHex : Bool) :
    cursor.PulledAs (pullValue line base bits allowHex cursor)
      (readValue line base bits allowHex cursor.restOfLine) := by
  refine pullOperand_pulledAs (fun token final => ⟨⟨line, .tooFewCells⟩, if_pos final, rfl⟩)
    (fun token rest inner => ?_) cursor
  rw [if_neg (Bool.eq_false_iff.mp inner), readValue]
  cases token.kind with
  | hex word =>
    cases allowHex <;> cases Value.ofToken? base bits token <;> rfl
  | endOfData | endOfLine | word | integer _ | double _ | openBracket | closeBracket | percent =>
    cases Value.ofToken? base bits token <;> rfl

/-- The parts of a cell are pulled as they are read. -/
theorem pullParts_pulledAs (line : Nat) (parts : List Part) :
    cursor.PulledAs (pullParts line parts cursor) (readParts line parts cursor.restOfLine) := by
  induction parts generalizing cursor with
  | nil => exact .stay []
  | cons part parts ih =>
    exact (pullValue_pulledAs cursor line _ _ _).bind fun value after =>
      (ih after).bind fun values _ => .stay (value :: values)

/-- A cell is pulled as it is read. -/
theorem pullCell_pulledAs (line : Nat) (format : Format) :
    cursor.PulledAs (pullCell line format cursor) (readCell line format cursor.restOfLine) := by
  rw [pullCell, readCell]
  cases format.packedBits with
  | none => exact pullParts_pulledAs cursor line format.parts
  | some bits => exact (pullValue_pulledAs cursor line _ _ _).bind fun value _ => .stay [value]

/-- The cells of a row are pulled as they are read, and the end of its line. -/
theorem pullCells_eq (line : Nat) (columns : List Column) :
    pullCells line columns cursor =
      cursor.behindLine (readCells line columns cursor.restOfLine) := by
  induction columns generalizing cursor with
  | nil =>
    rw [pullCells, pullEnd_eq]
    cases cursor.restOfLine <;> rfl
  | cons column columns ih =>
    refine (pullCell_pulledAs cursor line column.format).bind_line fun cell after => ?_
    dsimp only
    rw [ih after]
    cases readCells line columns after.restOfLine <;> rfl

/-- A row that is accepted leaves less text than there was before it. -/
theorem length_lt_of_behindLine {α : Type} {cursor after : Cursor}
    {read : Except (Located Error) α} {value : α}
    (going : ¬ cursor.next.1.kind.isEnd = true)
    (pulled : cursor.behindLine read = .ok (value, after)) :
    after.rest.length < cursor.rest.length := by
  obtain ⟨_, _, same⟩ := map_eq_ok.mp pulled
  obtain ⟨_, rfl⟩ := Prod.mk.inj same
  rw [skipLine_of_not_isEnd going]
  exact Nat.lt_of_le_of_lt cursor.next.2.length_skipLine_le (length_next_lt_of_not_isEnd going)

/-- The rows at a cursor, for a table with columns. -/
def pullRows (columns : List Column) (cursor : Cursor) :
    Except (Located Error) (List (List Cell)) :=
  if ended : cursor.peek.kind = .endOfData then
    .ok []
  else if final : cursor.peek.kind = .endOfLine then
    have := length_next_lt cursor ended
    pullRows columns cursor.next.2
  else
    match pulled : pullCells cursor.peek.line columns cursor with
    | .error error => .error error
    | .ok (row, after) =>
      have := length_lt_of_behindLine (TokenKind.not_isEnd ended final)
        ((pullCells_eq cursor cursor.peek.line columns).symm.trans pulled)
      (pullRows columns after).map (row :: ·)
  termination_by cursor.rest.length

/-- The table at a cursor; none without logical lines. -/
def pullFrom? (cursor : Cursor) : Except (Located Error) (Option VertexTable) :=
  if ended : cursor.peek.kind = .endOfData then
    .ok none
  else if cursor.peek.kind = .endOfLine then
    have := length_next_lt cursor ended
    pullFrom? cursor.next.2
  else do
    let (columns, after) ← pullColumns cursor
    let rows ← pullRows columns after
    .ok (some ⟨columns, rows, strideOf columns⟩)
  termination_by cursor.rest.length

/-- The table in the body of a section whose first line has the given number, read from one
cursor. -/
def pull? (text : String) (firstLine : Nat) : Except (Located Error) (Option VertexTable) :=
  pullFrom? (Cursor.ofText text firstLine)

/-- The logical lines at a cursor that is not at an end are the line there and those behind it. -/
theorem exists_ofTokens_tokens {cursor : Cursor} (going : ¬ cursor.next.1.kind.isEnd = true) :
    ∃ line, line.line = cursor.peek.line ∧ line.tokens = cursor.restOfLine ∧
      TokenLine.ofTokens cursor.tokens = line :: TokenLine.ofTokens cursor.skipLine.2.tokens := by
  refine ⟨⟨cursor.next.1, cursor.next.2.restOfLine⟩, rfl, ?_, ?_⟩
  · rw [restOfLine_of_not_isEnd going]
    rfl
  · rw [ofTokens_tokens_of_not_isEnd going, skipLine_of_not_isEnd going]

/-- The rows at a cursor are those of the logical lines there. -/
theorem pullRows_eq (columns : List Column) :
    pullRows columns cursor = (TokenLine.ofTokens cursor.tokens).mapM (readRow columns) := by
  fun_induction pullRows columns cursor with
  | case1 cursor ended =>
    rw [ofTokens_tokens_of_endOfData ended]
    rfl
  | case2 cursor going final shorter ih =>
    rw [ih, ofTokens_tokens_of_isEnd (TokenKind.isEnd_iff.mpr (.inr final))]
  | case3 cursor going inner error pulled =>
    obtain ⟨line, number, tokens, lines⟩ :=
      exists_ofTokens_tokens (TokenKind.not_isEnd going inner)
    rw [pullCells_eq, ← number, ← tokens] at pulled
    rw [lines, List.mapM_cons, readRow, map_eq_error.mp pulled]
    rfl
  | case4 cursor going inner row after pulled _ ih =>
    -- The cursor stands behind the end of this row and no other: what is left are the others.
    obtain ⟨line, number, tokens, lines⟩ :=
      exists_ofTokens_tokens (TokenKind.not_isEnd going inner)
    rw [pullCells_eq, ← number, ← tokens] at pulled
    obtain ⟨_, own, same⟩ := map_eq_ok.mp pulled
    obtain ⟨rfl, rfl⟩ := Prod.mk.inj same
    rw [ih, lines, List.mapM_cons, readRow, own, ok_bind]
    cases (TokenLine.ofTokens cursor.skipLine.2.tokens).mapM (readRow columns) <;> rfl

/-- The table at a cursor is that of the logical lines there. -/
theorem pullFrom?_eq : pullFrom? cursor = ofLines? (TokenLine.ofTokens cursor.tokens) := by
  fun_induction pullFrom? cursor with
  | case1 cursor ended =>
    rw [ofTokens_tokens_of_endOfData ended]
    rfl
  | case2 cursor going final shorter ih =>
    rw [ih, ofTokens_tokens_of_isEnd (TokenKind.isEnd_iff.mpr (.inr final))]
  | case3 cursor going inner =>
    obtain ⟨header, _, tokens, lines⟩ :=
      exists_ofTokens_tokens (TokenKind.not_isEnd going inner)
    rw [lines, ofLines?, tokens, pullColumns_eq]
    cases readColumns 0 cursor.restOfLine with
    | error error => rfl
    | ok columns =>
      rw [behindLine, Except.map, ok_bind, ok_bind]
      dsimp only
      rw [pullRows_eq]

/-- However a body is read, from one cursor or cut into lines first, it has the same table. -/
theorem pull?_eq (text : String) (firstLine : Nat) : pull? text firstLine = parse? text firstLine :=
  pullFrom?_eq (Cursor.ofText text firstLine)

end GpuScript.VertexTable
