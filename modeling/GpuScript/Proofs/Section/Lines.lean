import GpuScript.Proofs.Section.Splitting
import GpuScript.Proofs.Token.Line

/-!
# The lines of a section

A section covers the lines of its script after its header and before the next one. The body of a
section has its physical lines on exactly these lines (`OpenedBy.covers_of_getElem?`), and the
sections of a script cover their lines in order (`Sections.pairwise_covers`).
-/

namespace GpuScript.Section

open Text

/-- The number is that of a line of a script after the header of a section and before the next
header. -/
structure Covers (lines : List (List Char)) (part : Section) (number : Nat) : Prop where
  /-- The line stands after the header. -/
  after : part.firstLine ≤ number
  /-- The line is one of those up to the next header. -/
  before : number < part.firstLine + (ownLines (lines.drop (part.firstLine - 1))).length

/-- A header stands on the line with its number. -/
theorem getElem?_of_mem_headers {lines : List (List Char)} {header : List Char × Nat}
    (listed : header ∈ headers 1 lines) :
    0 < header.2 ∧ lines[header.2 - 1]? = some header.1 ∧ isHeader header.1 = true := by
  obtain ⟨placed, opens⟩ := List.mem_filter.mp listed
  obtain ⟨low, place⟩ := List.mem_zipIdx_iff_le_and_getElem?_sub.mp placed
  exact ⟨low, place, opens⟩

/-- The headers of a script stand on its lines in order. -/
theorem pairwise_headers (number : Nat) (lines : List (List Char)) :
    (headers number lines).Pairwise fun earlier later => earlier.2 < later.2 := by
  induction lines generalizing number with
  | nil => exact List.Pairwise.nil
  | cons line rest ih =>
    cases opens : isHeader line with
    | true =>
      rw [headers_cons_of_isHeader opens]
      refine List.pairwise_cons.mpr ⟨fun header listed => ?_, ih (number + 1)⟩
      have placed := (List.mem_filter.mp listed).1
      exact (List.mem_zipIdx_iff_le_and_getElem?_sub.mp placed).1
    | false => exact headers_cons opens rest number ▸ ih (number + 1)

/-- The lines up to the first header stand at the front of a script. -/
theorem prefix_ownLines (lines : List (List Char)) : ownLines lines <+: lines :=
  List.takeWhile_prefix _

/-- None of the lines up to the first header is a header. -/
theorem isHeader_of_mem_ownLines {lines : List (List Char)} {line : List Char}
    (listed : line ∈ ownLines lines) : isHeader line = false := by
  simpa using List.all_eq_true.mp List.all_takeWhile line listed

/-- Lines of a text from a line on and up to the next header are lines. -/
theorem areLines_ownLines {lines : List (List Char)} (whole : AreLines lines) (passed : Nat) :
    AreLines (ownLines (lines.drop passed)) := by
  obtain ⟨after, split⟩ := prefix_ownLines (lines.drop passed)
  have left : AreLines (lines.take passed ++ lines.drop passed) := by
    rwa [List.take_append_drop]
  exact AreLines.left (split ▸ left.right)

namespace Covers

variable {lines : List (List Char)} {part : Section} {number : Nat}

/-- The line that a section covers is one of its own lines. -/
theorem getElem?_ownLines (covers : part.Covers lines number) (opened : 0 < part.firstLine) :
    ∃ line, (ownLines (lines.drop (part.firstLine - 1)))[number - part.firstLine]? = some line ∧
      lines[number - 1]? = some line := by
  have inside : number - part.firstLine < (ownLines (lines.drop (part.firstLine - 1))).length := by
    have least := covers.after
    have most := covers.before
    omega
  have place := List.prefix_iff_getElem?.mp (prefix_ownLines (lines.drop (part.firstLine - 1)))
    (number - part.firstLine) inside
  have index : part.firstLine - 1 + (number - part.firstLine) = number - 1 := by
    have least := covers.after
    omega
  rw [List.getElem?_drop, index] at place
  exact ⟨_, List.getElem?_eq_getElem inside, place⟩

/-- A line that a section covers is a line of the script. -/
theorem le_length (covers : part.Covers lines number) (opened : 0 < part.firstLine) :
    0 < number ∧ number ≤ lines.length := by
  have least := covers.after
  obtain ⟨line, _, placed⟩ := covers.getElem?_ownLines opened
  obtain ⟨below, _⟩ := List.getElem?_eq_some_iff.mp placed
  omega

/-- A line that a section covers is no header. -/
theorem not_isHeader (covers : part.Covers lines number) (opened : 0 < part.firstLine)
    {line : List Char} (placed : lines[number - 1]? = some line) : isHeader line = false := by
  obtain ⟨own, listed, same⟩ := covers.getElem?_ownLines opened
  obtain rfl := Option.some.inj (same.symm.trans placed)
  exact isHeader_of_mem_ownLines (List.mem_of_getElem? listed)

/-- A section covers all lines from its first one to a line that it covers. -/
theorem anti (covers : part.Covers lines number) {earlier : Nat}
    (low : part.firstLine ≤ earlier) (high : earlier ≤ number) : part.Covers lines earlier :=
  ⟨low, Nat.lt_of_le_of_lt high covers.before⟩

end Covers

namespace OpenedBy

variable {lines : List (List Char)} {header : List Char × Nat} {part : Section}

/-- A line that a section covers stands before the header of a later section. -/
theorem lt_of_covers (opened : OpenedBy lines header part) {later : List Char × Nat}
    (listed : later ∈ headers 1 lines) (ordered : header.2 < later.2) {number : Nat}
    (covers : part.Covers lines number) : number < later.2 := by
  have first := opened.firstLine
  obtain ⟨_, placed, opens⟩ := getElem?_of_mem_headers listed
  by_cases beyond : number < later.2
  · exact beyond
  · have between := covers.anti (by omega) (Nat.le_of_not_lt beyond)
    have plain := between.not_isHeader (by omega) placed
    simp [opens] at plain

/-- The physical lines of a body are those that its section covers. -/
theorem physicalLines_body (opened : OpenedBy lines header part) (whole : AreLines lines)
    (other : part.kind ≠ .passthrough) :
    physicalLines part.body.toList = ownLines (lines.drop (part.firstLine - 1)) := by
  rw [opened.body other, opened.firstLine]
  exact areLines_ownLines whole header.2

/-- The lines of a body are covered, and they stand on the lines of the script with their
numbers. -/
theorem covers_of_getElem? (opened : OpenedBy lines header part) (whole : AreLines lines)
    (other : part.kind ≠ .passthrough) {index : Nat} {line : List Char}
    (placed : (physicalLines part.body.toList)[index]? = some line) :
    part.Covers lines (part.firstLine + index) ∧
      lines[part.firstLine + index - 1]? = some line := by
  have first := opened.firstLine
  rw [opened.physicalLines_body whole other] at placed
  obtain ⟨inside, _⟩ := List.getElem?_eq_some_iff.mp placed
  have covers : part.Covers lines (part.firstLine + index) := ⟨by omega, by omega⟩
  obtain ⟨own, listed, same⟩ := covers.getElem?_ownLines (by omega)
  rw [Nat.add_sub_cancel_left, placed] at listed
  exact ⟨covers, by rw [same, ← listed]⟩

end OpenedBy

namespace Sections

variable {strict : Bool} {lines : List (List Char)} {sections : List Section}

/-- Every section is opened by a header. -/
theorem exists_header (found : Sections strict lines sections) {part : Section}
    (listed : part ∈ sections) : ∃ header ∈ headers 1 lines, OpenedBy lines header part :=
  exists_of_mem_right found.opened listed

/-- Sections that headers open in order cover their lines in order. -/
theorem pairwise_covers_of_opened {all : List (List Char × Nat)}
    (opened : List.Forall₂ (OpenedBy lines) all sections)
    (listed : ∀ header ∈ all, header ∈ headers 1 lines)
    (ordered : all.Pairwise fun earlier later => earlier.2 < later.2) :
    sections.Pairwise fun earlier later => ∀ first second,
      earlier.Covers lines first → later.Covers lines second → first < second := by
  induction opened with
  | nil => exact List.Pairwise.nil
  | cons own others ih =>
    obtain ⟨before, after⟩ := List.pairwise_cons.mp ordered
    obtain ⟨_, among⟩ := List.forall_mem_cons.mp listed
    refine List.pairwise_cons.mpr ⟨fun part later first second covers beyond => ?_, ih among after⟩
    obtain ⟨header, found, opens⟩ := exists_of_mem_right others later
    have low := own.lt_of_covers (among header found) (before header found) covers
    have high := beyond.after
    have line := opens.firstLine
    omega

/-- The sections of a script cover their lines in order. -/
theorem pairwise_covers (found : Sections strict lines sections) :
    sections.Pairwise fun earlier later => ∀ first second,
      earlier.Covers lines first → later.Covers lines second → first < second :=
  pairwise_covers_of_opened found.opened (fun _ listed => listed) (pairwise_headers 1 lines)

end Sections

end GpuScript.Section
