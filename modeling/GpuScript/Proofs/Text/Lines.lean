import GpuScript.Text.Blank
import GpuScript.Text.Lines

/-!
# The lines of a text

A line end closes its physical line and opens the next one, so a text is taken apart line by line
from its front (`lines_induction`). A list of lines is a cut of its own text exactly when no line
but the last lacks its end, and then every run of the lines is one as well: what stands on the
lines of a part of a text stands on the lines of the whole.
-/

namespace GpuScript.Text

section Runs

variable {α : Type} {closes : α → Bool}

/-- The elements that a list opens with are taken whole up to the first of another kind. -/
theorem span_append {keeps : α → Bool} {before rest : List α}
    (kept : ∀ element ∈ before, keeps element = true)
    (stops : ∀ first ∈ rest.head?, keeps first = false) :
    (before ++ rest).takeWhile keeps = before ∧ (before ++ rest).dropWhile keeps = rest := by
  rw [List.takeWhile_append_of_pos kept, List.dropWhile_append_of_pos kept]
  cases rest with
  | nil => simp
  | cons first rest =>
    have other : ¬ keeps first = true := by simp [stops first rfl]
    rw [List.takeWhile_cons_of_neg other, List.dropWhile_cons_of_neg other, List.append_nil]
    exact ⟨rfl, rfl⟩

/-- A list is cut where the elements of a kind at its front end. -/
theorem exists_span (keeps : α → Bool) (elements : List α) :
    ∃ before rest, elements = before ++ rest ∧ (∀ element ∈ before, keeps element = true) ∧
      ∀ first ∈ rest.head?, keeps first = false := by
  refine ⟨elements.takeWhile keeps, elements.dropWhile keeps,
    List.takeWhile_append_dropWhile.symm,
    fun element listed => List.all_eq_true.mp List.all_takeWhile element listed, ?_⟩
  intro first opens
  have stops := List.head?_dropWhile_not keeps elements
  rw [Option.mem_def.mp opens] at stops
  simpa using stops

/-- A run ends at the first element that closes. -/
theorem splitAfter_append_cons {run : List α} (open_ : ∀ element ∈ run, closes element = false)
    {last : α} (ends : closes last = true) (rest : List α) :
    splitAfter closes (run ++ last :: rest) = (run ++ [last]) :: splitAfter closes rest := by
  induction run with
  | nil => rw [List.nil_append, splitAfter, if_pos ends, List.nil_append]
  | cons first others ih =>
    have plain := open_ first List.mem_cons_self
    have inner := ih fun element listed => open_ element (List.mem_cons_of_mem _ listed)
    rw [List.cons_append, splitAfter, if_neg (by simp [plain]), inner]
    rfl

/-- A list without an element that closes is its only run. -/
theorem splitAfter_of_open {run : List α} (nonempty : run ≠ [])
    (open_ : ∀ element ∈ run, closes element = false) : splitAfter closes run = [run] := by
  induction run with
  | nil => contradiction
  | cons first others ih =>
    have plain := open_ first List.mem_cons_self
    rw [splitAfter, if_neg (by simp [plain])]
    cases others with
    | nil => rfl
    | cons second rest =>
      rw [ih (by simp) fun element listed => open_ element (List.mem_cons_of_mem _ listed)]

/-- No element of a run closes but the last one. -/
theorem exists_last_of_mem_splitAfter {elements run : List α}
    (listed : run ∈ splitAfter closes elements) :
    ∃ init last, run = init ++ [last] ∧ ∀ element ∈ init, closes element = false := by
  induction elements generalizing run with
  | nil => cases listed
  | cons element rest ih =>
    rw [splitAfter] at listed
    by_cases ends : closes element = true
    · rw [if_pos ends] at listed
      rcases List.mem_cons.mp listed with rfl | later
      · exact ⟨[], element, rfl, by simp⟩
      · exact ih later
    · rw [if_neg ends] at listed
      have plain := Bool.eq_false_iff.mpr ends
      cases inner : splitAfter closes rest with
      | nil =>
        rw [inner] at listed
        exact ⟨[], element, List.mem_singleton.mp listed, by simp⟩
      | cons first others =>
        rw [inner] at listed
        rcases List.mem_cons.mp listed with rfl | later
        · obtain ⟨init, last, rfl, open_⟩ := ih (inner ▸ List.mem_cons_self)
          exact ⟨element :: init, last, rfl, List.forall_mem_cons.mpr ⟨plain, open_⟩⟩
        · exact ih (inner ▸ List.mem_cons_of_mem _ later)

/-- Every run that another one follows ends with an element that closes. -/
theorem pairwise_splitAfter (closes : α → Bool) (elements : List α) :
    (splitAfter closes elements).Pairwise fun run _ =>
      ∃ init last, run = init ++ [last] ∧ closes last = true := by
  induction elements with
  | nil => exact List.Pairwise.nil
  | cons element rest ih =>
    rw [splitAfter]
    by_cases ends : closes element = true
    · rw [if_pos ends]
      exact List.pairwise_cons.mpr ⟨fun _ _ => ⟨[], element, rfl, ends⟩, ih⟩
    · rw [if_neg ends]
      cases inner : splitAfter closes rest with
      | nil => exact List.pairwise_singleton _ _
      | cons first others =>
        rw [inner] at ih
        obtain ⟨own, later⟩ := List.pairwise_cons.mp ih
        refine List.pairwise_cons.mpr ⟨fun other listed => ?_, later⟩
        obtain ⟨init, last, split, closing⟩ := own other listed
        exact ⟨element :: init, last, congrArg (element :: ·) split, closing⟩

end Runs

/-- No character of a text without a line end closes a line. -/
theorem beq_newline_of_not_mem {line : List Char} (open_ : '\n' ∉ line) :
    ∀ character ∈ line, (character == '\n') = false := by
  rintro character listed
  exact beq_false_of_ne fun same => open_ (same ▸ listed)

/-- A closed line is cut off before whatever follows it. -/
theorem physicalLines_cons {line : List Char} (open_ : '\n' ∉ line) (rest : List Char) :
    physicalLines (line ++ '\n' :: rest) = (line ++ ['\n']) :: physicalLines rest :=
  splitAfter_append_cons (beq_newline_of_not_mem open_) rfl rest

/-- A text without a line end is its only line. -/
theorem physicalLines_of_open {line : List Char} (nonempty : line ≠ []) (open_ : '\n' ∉ line) :
    physicalLines line = [line] :=
  splitAfter_of_open nonempty (beq_newline_of_not_mem open_)

/-- A text that holds a line end is a closed line and what follows it. -/
theorem exists_closed_line {text : List Char} (ended : '\n' ∈ text) :
    ∃ line rest, '\n' ∉ line ∧ text = line ++ '\n' :: rest := by
  obtain ⟨line, rest, rfl, first⟩ := List.eq_append_cons_of_mem ended
  exact ⟨line, rest, first, rfl⟩

/-- Induction on a text by its physical lines, from the front. -/
theorem lines_induction {motive : List Char → Prop} (empty : motive [])
    (last : ∀ line, line ≠ [] → '\n' ∉ line → motive line)
    (closed : ∀ line rest, '\n' ∉ line → motive rest → motive (line ++ '\n' :: rest))
    (text : List Char) : motive text := by
  by_cases ended : '\n' ∈ text
  · obtain ⟨line, rest, open_, split⟩ := exists_closed_line ended
    have shorter : rest.length < text.length := by
      simp only [split, List.length_append, List.length_cons]
      omega
    exact split ▸ closed line rest open_ (lines_induction empty last closed rest)
  · by_cases nonempty : text = []
    · exact nonempty ▸ empty
    · exact last text nonempty ended
termination_by text.length

/-- A list of lines is what its own text is cut into. -/
def AreLines (lines : List (List Char)) : Prop :=
  physicalLines lines.flatten = lines

/-- The physical lines of a text are the lines of what they make up. -/
theorem areLines_physicalLines (text : List Char) : AreLines (physicalLines text) := by
  rw [AreLines]
  exact congrArg physicalLines (flatten_splitAfter _ text)

/-- The first line of several is closed, and the others are lines. -/
theorem AreLines.tail {line : List Char} {rest : List (List Char)}
    (lines : AreLines (line :: rest)) :
    AreLines rest ∧ (rest ≠ [] → ∃ content, '\n' ∉ content ∧ line = content ++ ['\n']) := by
  rw [AreLines, List.flatten_cons] at lines
  by_cases ended : '\n' ∈ line ++ rest.flatten
  · obtain ⟨content, others, open_, split⟩ := exists_closed_line ended
    rw [split, physicalLines_cons open_] at lines
    obtain ⟨rfl, same⟩ := List.cons.inj lines
    have tails : others = rest.flatten := by simpa using split.symm
    exact ⟨by rw [AreLines, ← tails, same], fun _ => ⟨content, open_, rfl⟩⟩
  · have nonempty : line ++ rest.flatten ≠ [] := by
      intro vanishes
      rw [vanishes] at lines
      simp [physicalLines, splitAfter] at lines
    rw [physicalLines_of_open nonempty ended] at lines
    obtain ⟨_, rfl⟩ := List.cons.inj lines
    exact ⟨rfl, fun absurd_ => absurd rfl absurd_⟩

/-- A closed line in front of lines makes lines. -/
theorem AreLines.cons {content : List Char} {rest : List (List Char)} (open_ : '\n' ∉ content)
    (lines : AreLines rest) : AreLines ((content ++ ['\n']) :: rest) := by
  rw [AreLines, List.flatten_cons, List.append_assoc, List.singleton_append,
    physicalLines_cons open_, lines]

/-- What is left after the first lines of a text are lines. -/
theorem AreLines.right {before after : List (List Char)} (lines : AreLines (before ++ after)) :
    AreLines after := by
  induction before with
  | nil => exact lines
  | cons line rest ih => exact ih lines.tail.1

/-- The first lines of a text are lines. -/
theorem AreLines.left {before after : List (List Char)} (lines : AreLines (before ++ after)) :
    AreLines before := by
  induction before with
  | nil => rfl
  | cons line rest ih =>
    obtain ⟨others, closed⟩ := lines.tail
    by_cases final : rest ++ after = []
    · obtain ⟨rfl, rfl⟩ := List.append_eq_nil_iff.mp final
      exact lines
    · obtain ⟨content, open_, rfl⟩ := closed final
      exact (ih others).cons open_

/-- Some of the lines of a text are lines. -/
theorem AreLines.sublist {lines kept : List (List Char)} (part : kept.Sublist lines)
    (whole : AreLines lines) : AreLines kept := by
  induction part with
  | slnil => rfl
  | cons line _ ih => exact ih whole.tail.1
  | @cons_cons kept lines line part ih =>
    obtain ⟨others, closed⟩ := whole.tail
    by_cases final : lines = []
    · subst final
      obtain rfl : kept = [] := List.sublist_nil.mp part
      exact whole
    · obtain ⟨content, open_, rfl⟩ := closed final
      exact (ih others).cons open_

/-- A physical line is not empty, and it has no line end but at its end. -/
theorem physicalLine_cases {text line : List Char} (listed : line ∈ physicalLines text) :
    line ≠ [] ∧ ('\n' ∉ line ∨ ∃ content, '\n' ∉ content ∧ line = content ++ ['\n']) := by
  induction text using lines_induction with
  | empty => simp [physicalLines, splitAfter] at listed
  | last only nonempty open_ =>
    rw [physicalLines_of_open nonempty open_, List.mem_singleton] at listed
    exact listed ▸ ⟨nonempty, Or.inl open_⟩
  | closed content rest open_ ih =>
    rw [physicalLines_cons open_] at listed
    rcases List.mem_cons.mp listed with rfl | later
    · exact ⟨by simp, Or.inr ⟨content, open_, rfl⟩⟩
    · exact ih later

end GpuScript.Text
