import GpuScript.Proofs.Checked.VertexTable
import GpuScript.Proofs.VertexTable.Shape
import Mathlib.Order.Bounds.Basic
import Mathlib.Order.MinMax

/-!
# Places of columns

The columns of a header line are placed one behind the other. Each starts at the least multiple of
its alignment that does not lie within the column before it, so columns come in order and never
overlap; and a vertex takes the least multiple of the widest alignment that holds all columns
(`VertexTable.placed_of_readColumns`).

The induction is on the tokens of the header line. What carries it is the byte at which the column
before the next one ends, which need not be a multiple of any alignment.
-/

namespace GpuScript

/-- Rounding up gives the least multiple of an alignment that is not below a value. -/
theorem isLeast_alignUp {alignment : Nat} (positive : 0 < alignment) (value : Nat) :
    IsLeast {place | alignment ∣ place ∧ value ≤ place} (alignUp value alignment) := by
  have step : max alignment 1 = alignment := Nat.max_eq_left positive
  simp only [alignUp, step]
  refine ⟨⟨Nat.dvd_mul_left _ _, ?_⟩, ?_⟩
  · have whole := Nat.div_add_mod' (value + (alignment - 1)) alignment
    have short := Nat.mod_lt (value + (alignment - 1)) positive
    omega
  · rintro place ⟨⟨factor, rfl⟩, enough⟩
    have quotient : (value + (alignment - 1)) / alignment < factor + 1 := by
      rw [Nat.div_lt_iff_lt_mul positive, Nat.add_mul, Nat.one_mul, Nat.mul_comm factor]
      omega
    rw [Nat.mul_comm alignment]
    exact Nat.mul_le_mul_right _ (Nat.le_of_lt_succ quotient)

namespace Format

/-- The alignments of the formats. -/
theorem alignment_mem : ∀ format ∈ table.entries, format.alignment ∈ [1, 2, 3, 4, 8] := by
  decide +kernel

/-- Every format has an alignment. -/
theorem alignment_pos {format : Format} (listed : format ∈ table.entries) :
    0 < format.alignment := by
  have own := alignment_mem format listed
  simp only [List.mem_cons, List.not_mem_nil, or_false] at own
  omega

/-- A cell of any format takes at least a byte. -/
theorem size_pos : ∀ format ∈ table.entries, 0 < format.size := by
  decide +kernel

end Format

/-- The column starts at the first byte from a given one on that its alignment allows. -/
def Column.PlacedFrom (start : Nat) (column : Column) : Prop :=
  IsLeast {place | column.format.alignment ∣ place ∧ start ≤ place} column.offset

namespace VertexTable

/-- The first byte after the last of some columns; without columns the byte they would start
from. -/
def stopFrom (start : Nat) (columns : List Column) : Nat :=
  (columns.getLast?.map Column.stop).getD start

@[simp]
theorem stopFrom_nil (start : Nat) : stopFrom start [] = start :=
  rfl

@[simp]
theorem stopFrom_cons (start : Nat) (column : Column) (columns : List Column) :
    stopFrom start (column :: columns) = stopFrom column.stop columns := by
  cases columns with
  | nil => rfl
  | cons next columns => simp [stopFrom, List.getLast?_cons]

/-- The widest alignment of some columns. -/
def widestOf (columns : List Column) : Nat :=
  columns.foldl (fun widest column => max widest column.format.alignment) 1

/-- The stride holds all columns and is a multiple of the widest alignment. -/
theorem strideOf_eq (columns : List Column) :
    strideOf columns = alignUp (stopFrom 0 columns) (widestOf columns) :=
  rfl

/-- Columns with formats of the table are placed one behind the other from a byte on. -/
inductive Placed : Nat → List Column → Prop where
  /-- There are no columns. -/
  | nil {start : Nat} : Placed start []
  /-- A column is placed from the byte on, and the others from its end on. -/
  | cons {start : Nat} {column : Column} {columns : List Column}
    (listed : column.format ∈ Format.table.entries) (own : column.PlacedFrom start)
    (others : Placed column.stop columns) : Placed start (column :: columns)

namespace Placed

variable {start : Nat} {columns : List Column}

/-- A column is placed from the end of the one before it on. -/
theorem placedFrom {before after : List Column} {column : Column}
    (placed : Placed start (before ++ column :: after)) :
    column.PlacedFrom (stopFrom start before) := by
  induction before generalizing start with
  | nil =>
    cases placed with
    | cons _ own _ => exact own
  | cons first before ih =>
    cases placed with
    | cons _ _ others =>
      rw [stopFrom_cons]
      exact ih others

/-- The formats of the columns are those of the table. -/
theorem listed (placed : Placed start columns) :
    ∀ column ∈ columns, column.format ∈ Format.table.entries := by
  induction placed with
  | nil => simp
  | cons own _ _ ih => exact List.forall_mem_cons.mpr ⟨own, ih⟩

/-- No column starts before the byte that the first one is placed from. -/
theorem le_offset (placed : Placed start columns) :
    ∀ column ∈ columns, start ≤ column.offset := by
  induction placed with
  | nil => simp
  | cons _ own _ ih =>
    have first := own.1.2
    refine List.forall_mem_cons.mpr ⟨first, fun column later => ?_⟩
    exact first.trans ((Nat.le_add_right _ _).trans (ih column later))

/-- A column ends behind its start, and before any later column starts. -/
theorem pairwise (placed : Placed start columns) :
    columns.Pairwise fun earlier later =>
      earlier.offset < earlier.stop ∧ earlier.stop ≤ later.offset := by
  induction placed with
  | nil => exact .nil
  | cons listed _ others ih =>
    have wide := Format.size_pos _ listed
    refine .cons (fun later among => ⟨?_, others.le_offset later among⟩) ih
    exact Nat.lt_add_of_pos_right wide

/-- Every column starts at a multiple of its alignment. -/
theorem dvd_offset (placed : Placed start columns) :
    ∀ column ∈ columns, column.format.alignment ∣ column.offset := by
  induction placed with
  | nil => simp
  | cons _ own _ ih => exact List.forall_mem_cons.mpr ⟨own.1.1, ih⟩

end Placed

/-- A column that is read is placed from the byte that it was read with. -/
theorem placedFrom_of_readColumn {start : Nat} {header : String} {column : Column}
    (accepted : readColumn start header = .ok column) : column.PlacedFrom start := by
  have listed := Checked.mem_of_readColumn accepted
  rw [readColumn] at accepted
  split at accepted
  · cases accepted
  · obtain ⟨format, _, made⟩ := bind_eq_ok.mp accepted
    obtain rfl := Except.ok.inj made
    exact isLeast_alignUp (Format.alignment_pos listed) start

/-- The columns of a header line are placed one behind the other. -/
theorem placed_of_accepted {start : Nat} {tokens : List Token} {columns : List Column}
    (accepted : readColumns start tokens = .ok columns) : Placed start columns := by
  induction tokens generalizing start columns with
  | nil =>
    rw [← Except.ok.inj accepted]
    exact .nil
  | cons token rest ih =>
    rw [readColumns] at accepted
    split at accepted
    · cases accepted
    · rename_i column own
      obtain ⟨others, later, rfl⟩ := map_eq_ok.mp accepted
      exact .cons (Checked.mem_of_readColumn own) (placedFrom_of_readColumn own) (ih later)

/-- The widest of some alignments is one of them or the least there is, and none of them is
wider. -/
theorem foldl_max_alignment (least : Nat) (columns : List Column) :
    let widest := columns.foldl (fun widest column => max widest column.format.alignment) least
    (widest = least ∨ ∃ column ∈ columns, column.format.alignment = widest) ∧
      least ≤ widest ∧ ∀ column ∈ columns, column.format.alignment ≤ widest := by
  induction columns generalizing least with
  | nil => simp
  | cons first columns ih =>
    obtain ⟨attained, above, bound⟩ := ih (max least first.format.alignment)
    intro widest
    refine ⟨?_, (Nat.le_max_left _ _).trans above, ?_⟩
    · rcases attained with same | ⟨column, among, same⟩
      · rcases max_choice least first.format.alignment with kept | wider
        · exact .inl (same.trans kept)
        · exact .inr ⟨first, List.mem_cons_self, (same.trans wider).symm⟩
      · exact .inr ⟨column, List.mem_cons_of_mem _ among, same⟩
    · exact List.forall_mem_cons.mpr ⟨(Nat.le_max_right _ _).trans above, bound⟩

/-- The widest alignment of columns is that of one of them, and none of them has a wider one. -/
theorem isGreatest_widestOf {columns : List Column} (nonempty : columns ≠ [])
    (listed : ∀ column ∈ columns, column.format ∈ Format.table.entries) :
    IsGreatest {alignment | ∃ column ∈ columns, column.format.alignment = alignment}
      (widestOf columns) := by
  obtain ⟨attained, above, bound⟩ := foldl_max_alignment 1 columns
  refine ⟨?_, fun alignment ⟨column, among, same⟩ => same ▸ bound column among⟩
  rcases attained with same | found
  · -- An alignment of one is that of any column, since none of them is narrower.
    obtain ⟨first, others, rfl⟩ := List.exists_cons_of_ne_nil nonempty
    have narrow := bound first List.mem_cons_self
    have positive := Format.alignment_pos (listed first List.mem_cons_self)
    exact ⟨first, List.mem_cons_self, by unfold widestOf; omega⟩
  · exact found

/-- Columns have a widest alignment, also if there are none. -/
theorem widestOf_pos (columns : List Column) : 0 < widestOf columns :=
  (foldl_max_alignment 1 columns).2.1

/-- The columns of a header line are placed from the first byte of a vertex on, each at the least
multiple of its alignment that is not below the end of the column before it. So they come in order
and never overlap. The stride is the least multiple of the widest alignment of a column that is not
below the end of the last column. A table with the header line has these columns and this stride. -/
theorem placed_of_readColumns {header : TokenLine} {columns : List Column}
    (accepted : readColumns 0 header.tokens = .ok columns) :
    (∀ before column after, columns = before ++ column :: after →
      IsLeast {place | column.format.alignment ∣ place ∧ stopFrom 0 before ≤ place}
        column.offset) ∧
    (columns.Pairwise fun earlier later =>
      earlier.offset < earlier.stop ∧ earlier.stop ≤ later.offset) ∧
    (∃ widest,
      IsGreatest {alignment | ∃ column ∈ columns, column.format.alignment = alignment} widest ∧
      IsLeast {bytes | widest ∣ bytes ∧ stopFrom 0 columns ≤ bytes} (strideOf columns)) ∧
    ∀ text firstLine lines table, TokenLine.ofText text firstLine = header :: lines →
      parse? text firstLine = .ok (some table) →
        table.columns = columns ∧ table.stride = strideOf columns := by
  have placed := placed_of_accepted accepted
  have nonempty : columns ≠ [] := by
    have count := length_of_readColumns accepted
    rintro rfl
    cases count
  refine ⟨?_, placed.pairwise, ?_, ?_⟩
  · rintro before column after rfl
    exact placed.placedFrom
  · refine ⟨widestOf columns, isGreatest_widestOf nonempty placed.listed, ?_⟩
    rw [strideOf_eq]
    exact isLeast_alignUp (widestOf_pos columns) _
  · intro text firstLine lines table opens read
    rw [parse?, opens, ofLines?, accepted, ok_bind] at read
    obtain ⟨rows, _, made⟩ := bind_eq_ok.mp read
    obtain rfl := Option.some.inj (Except.ok.inj made)
    exact ⟨rfl, rfl⟩

/-- The columns of a text that is a header line only, as far as they have been looked at. -/
theorem exists_columns_of_map {α : Type} {view : List Column → α} {seen : α} {text : String}
    (read : (TokenLine.ofText text 1).map (fun line => (readColumns 0 line.tokens).map view) =
      [.ok seen]) :
    ∃ header columns, TokenLine.ofText text 1 = [header] ∧
      readColumns 0 header.tokens = .ok columns ∧ view columns = seen := by
  obtain ⟨header, opens, result⟩ := List.map_eq_singleton_iff.mp read
  obtain ⟨columns, accepted, same⟩ := map_eq_ok.mp result
  exact ⟨header, columns, opens, accepted, same⟩

/-- A header line with an alignment that is no power of two. -/
def oddSizes : String :=
  "1/R8_UNORM, 2/D24_UNORM_S8_UINT 3/R16_UNORM # seven bytes of data\n"

/-- The second column leaves out two bytes and the third one, and so does the vertex two bytes. -/
theorem placed_of_readColumns_oddSizes :
    ∃ header columns, TokenLine.ofText oddSizes 1 = [header] ∧
      readColumns 0 header.tokens = .ok columns ∧
      columns.map (fun column => (column.offset, column.stop)) = [(0, 1), (3, 7), (8, 10)] ∧
      (columns.Pairwise fun earlier later =>
        earlier.offset < earlier.stop ∧ earlier.stop ≤ later.offset) ∧
      ∃ widest,
        IsGreatest {alignment | ∃ column ∈ columns, column.format.alignment = alignment} widest ∧
        IsLeast {bytes | widest ∣ bytes ∧ stopFrom 0 columns ≤ bytes} 12 := by
  have read : (TokenLine.ofText oddSizes 1).map (fun line =>
      (readColumns 0 line.tokens).map fun columns =>
        (columns.map (fun column => (column.offset, column.stop)), strideOf columns)) =
      [.ok ([(0, 1), (3, 7), (8, 10)], 12)] := by decide +kernel
  obtain ⟨header, columns, opens, accepted, made⟩ := exists_columns_of_map read
  obtain ⟨offsets, stride⟩ := Prod.mk.inj made
  obtain ⟨_, apart, ⟨widest, greatest, least⟩, _⟩ := placed_of_readColumns accepted
  exact ⟨header, columns, opens, accepted, offsets, apart, widest, greatest, stride ▸ least⟩

end VertexTable

end GpuScript
