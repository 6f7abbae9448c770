import GpuScript.Proofs.Section.Lines
import GpuScript.Proofs.Text.Lines

/-!
# Lenient reading

A lenient reader passes over the lines before the first header. It reads a script as a strict
reader reads the script with a blank line for each of these lines: the sections are the same, with
their bodies and first lines, and so is the refusal.

The two readers differ at the start only. No section has been opened there, and none of the places
after a header is the start (`placeAfter_ne_start`), so from the first header on they go the same
way (`splitLines_of_ne_start`).
-/

namespace GpuScript.Section

open Text

/-- Other lines have a blank line for each line before the first header, and are the same from
that header on. -/
def Blanked (lines others : List (List Char)) : Prop :=
  ∃ blanks : List (List Char), blanks.length = (ownLines lines).length ∧
    (∀ blank ∈ blanks, blank.all isBlank = true) ∧
    others = blanks ++ lines.drop (ownLines lines).length

/-- The text with a line end alone for each line before the first header. -/
def blankPreamble (text : String) : String :=
  let lines := physicalLines text.toList
  let own := (ownLines lines).length
  String.ofList (List.replicate own ['\n'] ++ lines.drop own).flatten

/-- Blank characters and nothing else make a blank line. -/
theorem isBlankLine_of_all {line : List Char} (blank : line.all isBlank = true) :
    isBlankLine line = true := by
  refine List.all_eq_true.mpr fun character listed => ?_
  exact List.all_eq_true.mp blank character ((List.takeWhile_sublist _).mem listed)

/-- An opening bracket is not blank. -/
theorem isHeader_of_all {line : List Char} (blank : line.all isBlank = true) :
    isHeader line = false := by
  cases line with
  | nil => rfl
  | cons first rest =>
    have own := List.all_eq_true.mp blank first List.mem_cons_self
    refine beq_false_of_ne ?_
    rintro rfl
    exact absurd own (by decide)

/-- A script that opens with a header is blanked as it stands. -/
theorem blanked_cons_of_isHeader {line : List Char} {rest others : List (List Char)}
    (opens : isHeader line = true) : Blanked (line :: rest) others ↔ others = line :: rest := by
  rw [Blanked, ownLines_cons_of_isHeader opens]
  constructor
  · rintro ⟨blanks, none_, -, rfl⟩
    rw [List.length_eq_zero_iff.mp none_]
    rfl
  · rintro rfl
    exact ⟨[], rfl, by simp, rfl⟩

/-- A line before the first header is blanked, and then those after it. -/
theorem blanked_cons {line : List Char} {rest others : List (List Char)}
    (plain : isHeader line = false) :
    Blanked (line :: rest) others ↔
      ∃ blank later, blank.all isBlank = true ∧ Blanked rest later ∧ others = blank :: later := by
  rw [Blanked, ownLines_cons plain]
  constructor
  · rintro ⟨blanks, same, blank, rfl⟩
    obtain ⟨first, more, rfl⟩ := List.exists_cons_of_length_eq_add_one same
    obtain ⟨own, among⟩ := List.forall_mem_cons.mp blank
    exact ⟨first, _, own, ⟨more, Nat.succ.inj same, among, rfl⟩, rfl⟩
  · rintro ⟨first, _, own, ⟨more, same, among, rfl⟩, rfl⟩
    exact ⟨first :: more, congrArg (· + 1) same, List.forall_mem_cons.mpr ⟨own, among⟩, rfl⟩

/-- A line end alone for each line before the first header blanks these lines. -/
theorem blanked_blankPreamble (text : String) :
    Blanked (physicalLines text.toList) (physicalLines (blankPreamble text).toList) := by
  have closed (count : Nat) {lines : List (List Char)} (whole : AreLines lines) :
      AreLines (List.replicate count ['\n'] ++ lines) := by
    induction count with
    | zero => exact whole
    | succ count ih =>
      have empty : '\n' ∉ ([] : List Char) := List.not_mem_nil
      exact ih.cons empty
  have kept : AreLines ((physicalLines text.toList).drop
      (ownLines (physicalLines text.toList)).length) := by
    have whole := areLines_physicalLines text.toList
    rw [← List.take_append_drop (ownLines (physicalLines text.toList)).length
      (physicalLines text.toList)] at whole
    exact whole.right
  refine ⟨List.replicate _ ['\n'], List.length_replicate, ?_, ?_⟩
  · intro blank listed
    rw [List.eq_of_mem_replicate listed]
    rfl
  · rw [blankPreamble, String.toList_ofList]
    exact closed _ kept

/-- After a header no section is still to be opened. -/
theorem placeAfter_ne_start (kind : SectionKind) : placeAfter kind ≠ .start := by
  cases kind <;> nofun

/-- Whether the reader is strict makes no difference once a section has been opened. -/
theorem splitLines_of_ne_start {place : Place} (opened : place ≠ .start) (strict other : Bool)
    (number : Nat) (lines : List (Except ScriptError (List Char))) :
    splitLines strict place number lines = splitLines other place number lines := by
  induction lines generalizing place number with
  | nil => rfl
  | cons line rest ih =>
    cases line with
    | error error => rfl
    | ok line =>
      have header (kind : SectionKind) := ih (placeAfter_ne_start kind) (number + 1)
      have later := ih opened (number + 1)
      cases place with
      | start => contradiction
      | closed => simp only [splitLines, header, later]
      | inside => simp only [splitLines, header, later]

/-- A header is split off in the same way whether or not the reader is strict. -/
theorem splitLines_header_strict {line : List Char} (opens : isHeader line = true)
    (strict other : Bool) (place : Place) (number : Nat)
    (rest : List (Except ScriptError (List Char))) :
    splitLines strict place number (.ok line :: rest) =
      splitLines other place number (.ok line :: rest) := by
  have header (kind : SectionKind) :=
    splitLines_of_ne_start (placeAfter_ne_start kind) strict other (number + 1) rest
  simp only [splitLines, opens, if_true, header]

/-- A strict reader goes on after a blank line at the start. -/
theorem splitLines_start_of_all {line : List Char} (blank : line.all isBlank = true)
    (strict : Bool) (number : Nat) (rest : List (Except ScriptError (List Char))) :
    splitLines strict .start number (.ok line :: rest) =
      splitLines strict .start (number + 1) rest := by
  rw [splitLines, isHeader_of_all blank, isBlankLine_of_all blank]
  rfl

/-- A lenient reader goes on after any line at the start that is no header. -/
theorem result_splitLines_lenient {line : List Char} (plain : isHeader line = false)
    (number : Nat) (rest : List (Except ScriptError (List Char))) :
    (splitLines false .start number (.ok line :: rest)).result =
      (splitLines false .start (number + 1) rest).result := by
  rw [splitLines, plain]
  cases isBlankLine line <;> rfl

/-- A lenient reader splits lines as a strict one splits them with the lines before the first
header blanked. -/
theorem result_splitLines_of_blanked {lines others : List (List Char)}
    (blanked : Blanked lines others) (number : Nat) :
    (splitLines false .start number (lines.map .ok)).result =
      (splitLines true .start number (others.map .ok)).result := by
  induction lines generalizing others number with
  | nil =>
    obtain ⟨blanks, none_, -, rfl⟩ := blanked
    rw [List.length_eq_zero_iff.mp none_]
    rfl
  | cons line rest ih =>
    by_cases opens : isHeader line = true
    · rw [(blanked_cons_of_isHeader opens).mp blanked, List.map_cons,
        splitLines_header_strict opens false true]
    · have plain := Bool.eq_false_iff.mpr opens
      obtain ⟨blank, later, own, among, rfl⟩ := (blanked_cons plain).mp blanked
      calc
        (splitLines false .start number ((line :: rest).map .ok)).result
        _ = (splitLines false .start (number + 1) (rest.map .ok)).result :=
          result_splitLines_lenient plain number _
        _ = (splitLines true .start (number + 1) (later.map .ok)).result := ih among (number + 1)
        _ = (splitLines true .start number ((blank :: later).map .ok)).result :=
          congrArg Splitting.result (splitLines_start_of_all own true number _).symm

/-- What a strict reader finds, a lenient reader finds as well. -/
theorem Sections.lenient {lines : List (List Char)} {sections : List Section}
    (found : Sections true lines sections) : Sections false lines sections :=
  ⟨found.opened, nofun⟩

/-- A lenient reader splits a script as a strict one splits the script with the lines before the
first header blanked, and every script can be blanked so. What a strict reader accepts, a lenient
one accepts with the same sections. -/
theorem split_lenient {files : Files} {source : Source} {text : String}
    (holds : source.Holds files text) :
    (∀ other blanked, Source.Holds files other blanked →
      Blanked (physicalLines text.toList) (physicalLines blanked.toList) →
      (split files false source).2 = (split files true other).2) ∧
    Blanked (physicalLines text.toList) (physicalLines (blankPreamble text).toList) ∧
    ∀ sections, (split files true source).2 = .ok sections →
      (split files false source).2 = .ok sections := by
  refine ⟨fun other blanked held blanks => ?_, blanked_blankPreamble text,
    fun sections accepted => ?_⟩
  · rw [split_of_holds holds, split_of_holds held]
    exact congrArg (·.map Prod.snd) (result_splitLines_of_blanked blanks 1)
  · have found := (split_eq_ok_iff holds true sections).mp accepted
    exact (split_eq_ok_iff holds false sections).mpr found.lenient

/-- A script with text on the lines before its first header, one of them like a header. -/
def looseScript : String :=
  "stray text\n [test]\n# none\n[vertex shader passthrough]\n\n[test]\nclear\n"

/-- A lenient reader finds the sections of a script that a strict one refuses. -/
theorem split_looseScript :
    Source.Holds (fun _ => .ok .empty) ⟨.text looseScript, []⟩ looseScript ∧
    (split (fun _ => .ok .empty) true ⟨.text looseScript, []⟩).2 =
      .error (.line ⟨1, .splitting .strayText⟩) ∧
    (split (fun _ => .ok .empty) false ⟨.text looseScript, []⟩).2 =
      (split (fun _ => .ok .empty) true ⟨.text (blankPreamble looseScript), []⟩).2 ∧
    (split (fun _ => .ok .empty) true ⟨.text (blankPreamble looseScript), []⟩).2 =
      .ok [⟨.passthrough, "", 5⟩, ⟨.test, "clear\n", 7⟩] := by
  have holds := Source.holds_text (fun _ => .ok .empty) looseScript
  obtain ⟨same, blanks, -⟩ := split_lenient holds
  have blanked := Source.holds_text (fun _ => .ok .empty) (blankPreamble looseScript)
  exact ⟨holds, rfl, same _ _ blanked blanks, rfl⟩

end GpuScript.Section
