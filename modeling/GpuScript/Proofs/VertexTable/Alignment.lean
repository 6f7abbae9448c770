import GpuScript.Proofs.VertexTable.Placement

/-!
# Alignment in every vertex

A column lies at a multiple of its alignment in the first vertex. In the others it does if the
stride is a multiple of its alignment too, which the stride is made to be for the widest alignment
only. All alignments but one are powers of two, and such an alignment divides every wider one. The
format with 24 bits of depth has an alignment of three bytes: beside columns whose alignment is even
it stays aligned only in vertices that start at a multiple of six (`VertexTable.aligned_iff`).
-/

namespace GpuScript

namespace Format

/-- The format whose depth takes three bytes is the only one with that alignment. -/
theorem alignment_eq_three_iff :
    ∀ format ∈ table.entries, format.alignment = 3 ↔ format.name = "D24_UNORM_S8_UINT" := by
  decide +kernel

/-- An alignment divides a wider one, unless one of them is three and the other is even. -/
theorem alignment_dvd_or {narrow wide : Format} (first : narrow ∈ table.entries)
    (second : wide ∈ table.entries) (le : narrow.alignment ≤ wide.alignment) :
    narrow.alignment ∣ wide.alignment ∨ narrow.alignment = 2 ∧ wide.alignment = 3 ∨
      narrow.alignment = 3 ∧ 2 ∣ wide.alignment := by
  have all : ∀ narrow ∈ [1, 2, 3, 4, 8], ∀ wide ∈ [1, 2, 3, 4, 8], narrow ≤ wide →
      narrow ∣ wide ∨ narrow = 2 ∧ wide = 3 ∨ narrow = 3 ∧ 2 ∣ wide := by decide
  exact all _ (alignment_mem narrow first) _ (alignment_mem wide second) le

end Format

namespace VertexTable

variable {columns : List Column}

/-- The stride is a multiple of the widest alignment. -/
theorem widestOf_dvd_strideOf (columns : List Column) : widestOf columns ∣ strideOf columns := by
  rw [strideOf_eq]
  exact (isLeast_alignUp (widestOf_pos columns) _).1.1

/-- In a vertex a column is aligned exactly if the start of the vertex is a multiple of its
alignment. -/
theorem dvd_add_offset_iff (placed : Placed 0 columns) {column : Column} (among : column ∈ columns)
    (start : Nat) :
    column.format.alignment ∣ start + column.offset ↔ column.format.alignment ∣ start :=
  (Nat.dvd_add_iff_left (placed.dvd_offset column among)).symm

/-- A multiple of the widest alignment is one of every alignment, unless an alignment of three
stands beside an even one; then a multiple of six is. -/
theorem dvd_of_widestOf_dvd (placed : Placed 0 columns) {start : Nat}
    (whole : widestOf columns ∣ start)
    (apart : (∀ column ∈ columns, column.format.alignment ≠ 3) ∨
      (∀ column ∈ columns, ¬ 2 ∣ column.format.alignment) ∨ 6 ∣ start) :
    ∀ column ∈ columns, column.format.alignment ∣ start := by
  intro column among
  obtain ⟨⟨widest, there, same⟩, bound⟩ :=
    isGreatest_widestOf (List.ne_nil_of_mem among) placed.listed
  have le := bound ⟨column, among, rfl⟩
  rw [← same] at whole le
  have own := placed.listed column among
  have other := placed.listed widest there
  -- Only three and an even alignment do not divide one another, in either order of their widths.
  rcases Format.alignment_dvd_or own other le with divides | ⟨two, three⟩ | ⟨three, even⟩
  · exact Nat.dvd_trans divides whole
  · rcases apart with noThree | noEven | six
    · exact absurd three (noThree widest there)
    · exact absurd ⟨1, two⟩ (noEven column among)
    · rw [two]
      exact Nat.dvd_trans (by decide) six
  · rcases apart with noThree | noEven | six
    · exact absurd three (noThree column among)
    · exact absurd even (noEven widest there)
    · rw [three]
      exact Nat.dvd_trans (by decide) six

/-- All columns of a header line are aligned in every vertex exactly if the stride is a multiple of
each of their alignments. In one vertex they all are unless `D24_UNORM_S8_UINT` stands beside a
format with an even alignment; then they are exactly if the vertex starts at a multiple of six. -/
theorem aligned_iff {header : TokenLine} (accepted : readColumns 0 header.tokens = .ok columns) :
    ((∀ row, ∀ column ∈ columns,
        column.format.alignment ∣ row * strideOf columns + column.offset) ↔
      ∀ column ∈ columns, column.format.alignment ∣ strideOf columns) ∧
    ∀ row, (∀ column ∈ columns,
        column.format.alignment ∣ row * strideOf columns + column.offset) ↔
      (∀ column ∈ columns, column.format.name ≠ "D24_UNORM_S8_UINT") ∨
        (∀ column ∈ columns, ¬ 2 ∣ column.format.alignment) ∨ 6 ∣ row * strideOf columns := by
  have placed := placed_of_accepted accepted
  have three (column : Column) (among : column ∈ columns) :
      column.format.alignment = 3 ↔ column.format.name = "D24_UNORM_S8_UINT" :=
    Format.alignment_eq_three_iff _ (placed.listed column among)
  constructor
  · constructor
    · intro aligned column among
      have second := (dvd_add_offset_iff placed among _).mp (aligned 1 column among)
      rwa [Nat.one_mul] at second
    · intro whole row column among
      have start := Nat.dvd_mul_left_of_dvd (whole column among) row
      exact (dvd_add_offset_iff placed among _).mpr start
  intro row
  constructor
  · intro aligned
    by_contra other
    push Not at other
    obtain ⟨⟨deep, first, named⟩, ⟨word, second, even⟩, odd⟩ := other
    have byThree := (dvd_add_offset_iff placed first _).mp (aligned deep first)
    have byTwo := Nat.dvd_trans even ((dvd_add_offset_iff placed second _).mp (aligned word second))
    rw [(three deep first).mpr named] at byThree
    omega
  · intro apart column among
    have whole := Nat.dvd_mul_left_of_dvd (widestOf_dvd_strideOf columns) row
    refine (dvd_add_offset_iff placed among _).mpr ?_
    refine dvd_of_widestOf_dvd placed whole (apart.imp_left ?_) column among
    exact fun plain column among same => plain column among ((three column among).mp same)

/-- A column whose alignment is three bytes beside one whose alignment is four. -/
def depthBesideWord : String :=
  "0/D24_UNORM_S8_UINT 1/R32_UINT\n"

/-- The second vertex starts at byte eight, which is no multiple of three, so not all of its columns
are aligned. In the fourth vertex all are. -/
theorem aligned_iff_depthBesideWord :
    ∃ header columns, TokenLine.ofText depthBesideWord 1 = [header] ∧
      readColumns 0 header.tokens = .ok columns ∧ strideOf columns = 8 ∧
      (¬ ∀ column ∈ columns, column.format.alignment ∣ 1 * 8 + column.offset) ∧
      ∀ column ∈ columns, column.format.alignment ∣ 3 * 8 + column.offset := by
  have read : (TokenLine.ofText depthBesideWord 1).map (fun line =>
      (readColumns 0 line.tokens).map fun columns =>
        (columns.map fun column => (column.format.name, column.format.alignment),
          strideOf columns)) = [.ok ([("D24_UNORM_S8_UINT", 3), ("R32_UINT", 4)], 8)] := by
    decide +kernel
  obtain ⟨header, columns, opens, accepted, made⟩ := exists_columns_of_map read
  obtain ⟨formats, stride⟩ := Prod.mk.inj made
  have inVertex := (aligned_iff accepted).2
  rw [stride] at inVertex
  have two : columns.length = 2 := by simpa using congrArg List.length formats
  obtain ⟨deep, word, rfl⟩ := List.length_eq_two.mp two
  simp only [List.map_cons, List.map_nil, List.cons.injEq, Prod.mk.injEq] at formats
  refine ⟨header, _, opens, accepted, stride, fun aligned => ?_, ?_⟩
  · rcases (inVertex 1).mp aligned with noDepth | noEven | six
    · exact noDepth deep List.mem_cons_self formats.1.1
    · exact noEven word (by simp) ⟨2, formats.2.1.2⟩
    · exact absurd six (by decide)
  · exact (inVertex 3).mpr (.inr (.inr (by decide)))

end VertexTable

end GpuScript
