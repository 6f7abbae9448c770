import GpuScript.Proofs.Result
import GpuScript.Proofs.Source
import GpuScript.Section.Splitter

/-!
# What the sections of a script are

The lines of a script alone tell what its sections are: one for each header line, in order, with
the lines up to the next header (`Sections`). Splitting finds exactly these sections, and refuses
the scripts that have none (`split_eq_ok_iff`).

The induction is on the lines that are left. A place says what becomes of the lines up to the next
header (`Place.Takes`), and the lines from there on belong to the sections of the headers that are
left.
-/

namespace GpuScript.Section

open Text

/-- The lines up to the first header. -/
def ownLines (lines : List (List Char)) : List (List Char) :=
  lines.takeWhile fun line => !isHeader line

/-- The header lines with their numbers, when the first line has the given number. -/
def headers (number : Nat) (lines : List (List Char)) : List (List Char × Nat) :=
  (lines.zipIdx number).filter fun header => isHeader header.1

/-- A section of a script is opened by a header line with its number. -/
structure OpenedBy (lines : List (List Char)) (header : List Char × Nat) (part : Section) :
    Prop where
  /-- The header tells what the section holds. -/
  kind : kindOfHeader header.1 = .ok part.kind
  /-- The body starts on the line after the header. -/
  firstLine : part.firstLine = header.2 + 1
  /-- The body is made up of the lines between the header and the next one. -/
  body : part.kind ≠ .passthrough → part.body.toList = (ownLines (lines.drop header.2)).flatten
  /-- A section that hands the input on has no body, and nothing stands on these lines. -/
  closed : part.kind = .passthrough →
    part.body = "" ∧ ∀ line ∈ ownLines (lines.drop header.2), isBlankLine line = true

/-- The sections of a script with the given lines. -/
structure Sections (strict : Bool) (lines : List (List Char)) (sections : List Section) :
    Prop where
  /-- There is one section for each header, in order. -/
  opened : List.Forall₂ (OpenedBy lines) (headers 1 lines) sections
  /-- For a strict reader nothing stands on the lines before the first header. -/
  start : strict = true → ∀ line ∈ ownLines lines, isBlankLine line = true

/-- What becomes of the lines up to the next header: they are the body of the section that is open,
or nothing may stand on them. -/
def Place.Takes (strict : Bool) (own : List (List Char)) (body : List Char) : Place → Prop
  | .inside => body = own.flatten
  | .closed => body = [] ∧ ∀ line ∈ own, isBlankLine line = true
  | .start => body = [] ∧ (strict = true → ∀ line ∈ own, isBlankLine line = true)

/-- A header ends the lines that belong to what is before it. -/
theorem ownLines_cons_of_isHeader {line : List Char} (opens : isHeader line = true)
    (rest : List (List Char)) : ownLines (line :: rest) = [] := by
  rw [ownLines, List.takeWhile_cons, opens]
  rfl

/-- A line that is no header belongs to what is before it. -/
theorem ownLines_cons {line : List Char} (plain : isHeader line = false)
    (rest : List (List Char)) : ownLines (line :: rest) = line :: ownLines rest := by
  rw [ownLines, List.takeWhile_cons, plain]
  rfl

/-- The header lines of a script that opens with a header. -/
theorem headers_cons_of_isHeader {line : List Char} (opens : isHeader line = true)
    (rest : List (List Char)) (number : Nat) :
    headers number (line :: rest) = (line, number) :: headers (number + 1) rest := by
  exact List.filter_cons_of_pos opens

/-- The header lines of a script that opens with another line. -/
theorem headers_cons {line : List Char} (plain : isHeader line = false)
    (rest : List (List Char)) (number : Nat) :
    headers number (line :: rest) = headers (number + 1) rest := by
  exact List.filter_cons_of_neg (Bool.eq_false_iff.mp plain)

namespace Splitting

/-- What a splitting with a line before its text gives. -/
theorem withLine_eq_ok_iff {line body : List Char} {sections : List Section}
    {splitting : Splitting} :
    (splitting.withLine line).result = .ok (body, sections) ↔
      ∃ inner, splitting.result = .ok (inner, sections) ∧ line ++ inner = body := by
  cases found : splitting.result with
  | error error => simp [withLine, found, Except.map]
  | ok pair =>
    obtain ⟨inner, later⟩ := pair
    simp only [withLine, found, Except.map, Except.ok.injEq, Prod.mk.injEq]
    constructor
    · rintro ⟨rfl, rfl⟩
      exact ⟨inner, ⟨rfl, rfl⟩, rfl⟩
    · rintro ⟨_, ⟨rfl, rfl⟩, rfl⟩
      exact ⟨rfl, rfl⟩

/-- What a splitting with a section before its sections gives. -/
theorem withSection_eq_ok_iff {kind : SectionKind} {firstLine : Nat} {body : List Char}
    {sections : List Section} {splitting : Splitting} :
    (splitting.withSection kind firstLine).result = .ok (body, sections) ↔
      body = [] ∧ ∃ inner later, splitting.result = .ok (inner, later) ∧
        ⟨kind, String.ofList inner, firstLine⟩ :: later = sections := by
  cases found : splitting.result with
  | error error => simp [withSection, found, Except.map]
  | ok pair =>
    obtain ⟨inner, later⟩ := pair
    simp only [withSection, found, Except.map, Except.ok.injEq, Prod.mk.injEq]
    constructor
    · rintro ⟨rfl, rfl⟩
      exact ⟨rfl, inner, later, ⟨rfl, rfl⟩, rfl⟩
    · rintro ⟨rfl, _, _, ⟨rfl, rfl⟩, rfl⟩
      exact ⟨rfl, rfl⟩

end Splitting

/-- The lines after a header are the body of its section, except of one that hands the input
on. -/
theorem placeAfter_of_ne {kind : SectionKind} (other : kind ≠ .passthrough) :
    placeAfter kind = .inside := by
  cases kind <;> first | rfl | contradiction

/-- The section that a header opens takes the lines up to the next header. -/
theorem openedBy_iff (strict : Bool) {lines : List (List Char)} {line : List Char} {number : Nat}
    {part : Section} :
    OpenedBy lines (line, number) part ↔
      ∃ kind body, kindOfHeader line = .ok kind ∧
        (placeAfter kind).Takes strict (ownLines (lines.drop number)) body ∧
        ⟨kind, String.ofList body, number + 1⟩ = part := by
  constructor
  · rintro ⟨kind, firstLine, body, closed⟩
    refine ⟨part.kind, part.body.toList, kind, ?_, ?_⟩
    · by_cases handsOn : part.kind = .passthrough
      · obtain ⟨empty, blank⟩ := closed handsOn
        rw [handsOn, empty]
        exact ⟨rfl, blank⟩
      · rw [placeAfter_of_ne handsOn]
        exact body handsOn
    · rw [String.ofList_toList]
      exact firstLine ▸ rfl
  · rintro ⟨kind, body, named, taken, rfl⟩
    refine ⟨named, rfl, fun other => ?_, fun handsOn => ?_⟩
    · rw [placeAfter_of_ne other] at taken
      rw [String.toList_ofList]
      exact taken
    · obtain rfl : kind = .passthrough := handsOn
      obtain ⟨rfl, blank⟩ := taken
      exact ⟨rfl, blank⟩

/-- A header line ends the lines before it and opens a section. -/
theorem splitLines_header_eq_ok_iff {strict : Bool} {place : Place} {number : Nat}
    {line : List Char} {rest : List (Except ScriptError (List Char))} {body : List Char}
    {sections : List Section} (opens : isHeader line = true) :
    (splitLines strict place number (.ok line :: rest)).result = .ok (body, sections) ↔
      body = [] ∧ ∃ kind inner later, kindOfHeader line = .ok kind ∧
        (splitLines strict (placeAfter kind) (number + 1) rest).result = .ok (inner, later) ∧
        ⟨kind, String.ofList inner, number + 1⟩ :: later = sections := by
  simp only [splitLines, opens, ↓reduceIte]
  cases kindOfHeader line with
  | error cause => simp [Splitting.refused]
  | ok kind => simp [Splitting.withSection_eq_ok_iff]

/-- Another line goes to the place that is before it. -/
theorem splitLines_plain_eq_ok_iff {strict : Bool} {place : Place} {number : Nat}
    {line : List Char} {rest : List (Except ScriptError (List Char))} {body : List Char}
    {sections : List Section} (plain : isHeader line = false) :
    (splitLines strict place number (.ok line :: rest)).result = .ok (body, sections) ↔
      ∃ own later, place.Takes strict [line] own ∧
        (splitLines strict place (number + 1) rest).result = .ok (later, sections) ∧
        own ++ later = body := by
  cases place with
  | start =>
    by_cases blank : isBlankLine line = true
    · simp [splitLines, plain, blank, Place.Takes]
    · cases strict <;>
        simp [splitLines, plain, blank, Place.Takes, Splitting.refused, Splitting.withRecord]
  | closed =>
    by_cases blank : isBlankLine line = true <;>
      simp [splitLines, plain, blank, Place.Takes, Splitting.refused]
  | inside => simp [splitLines, plain, Place.Takes, Splitting.withLine_eq_ok_iff]

/-- Without lines nothing is taken. -/
theorem Place.takes_nil {strict : Bool} {place : Place} {body : List Char} :
    place.Takes strict [] body ↔ body = [] := by
  cases place <;> simp [Takes]

/-- A place takes lines one by one. -/
theorem Place.takes_cons {strict : Bool} {place : Place} {line : List Char}
    {rest : List (List Char)} {body : List Char} :
    place.Takes strict (line :: rest) body ↔
      ∃ own later, place.Takes strict [line] own ∧ place.Takes strict rest later ∧
        own ++ later = body := by
  cases place with
  | start =>
    simp only [Takes, List.forall_mem_cons, List.not_mem_nil, false_implies, implies_true,
      and_true]
    constructor
    · rintro ⟨rfl, blank⟩
      exact ⟨[], [], ⟨rfl, fun strict => (blank strict).1⟩, ⟨rfl, fun strict => (blank strict).2⟩,
        rfl⟩
    · rintro ⟨_, _, ⟨rfl, first⟩, ⟨rfl, others⟩, rfl⟩
      exact ⟨rfl, fun strict => ⟨first strict, others strict⟩⟩
  | closed =>
    simp only [Takes, List.forall_mem_cons, List.not_mem_nil, false_implies, implies_true,
      and_true]
    constructor
    · rintro ⟨rfl, first, others⟩
      exact ⟨[], [], ⟨rfl, first⟩, ⟨rfl, others⟩, rfl⟩
    · rintro ⟨_, _, ⟨rfl, first⟩, ⟨rfl, others⟩, rfl⟩
      exact ⟨rfl, first, others⟩
  | inside => simp [Takes, eq_comm]

/-- Splitting the lines from a number on gives the text that belongs to what is before them and the
sections of the headers among them. -/
theorem splitLines_eq_ok_iff {strict : Bool} {lines rest : List (List Char)} {place : Place}
    {number : Nat} {body : List Char} {sections : List Section} (left : lines.drop number = rest) :
    (splitLines strict place (number + 1) (rest.map .ok)).result = .ok (body, sections) ↔
      place.Takes strict (ownLines rest) body ∧
        List.Forall₂ (OpenedBy lines) (headers (number + 1) rest) sections := by
  induction rest generalizing place number body sections with
  | nil =>
    have own : ownLines [] = [] := rfl
    have none_ : headers (number + 1) [] = [] := rfl
    rw [own, none_, Place.takes_nil, List.forall₂_nil_left_iff]
    simp [splitLines, @eq_comm _ []]
  | cons line rest ih =>
    have onward : lines.drop (number + 1) = rest := by
      rw [← List.drop_drop, left]
      rfl
    by_cases opens : isHeader line = true
    · rw [ownLines_cons_of_isHeader opens, headers_cons_of_isHeader opens, List.map_cons,
        splitLines_header_eq_ok_iff opens, Place.takes_nil, List.forall₂_cons_left_iff]
      simp only [ih onward, openedBy_iff strict, onward]
      constructor
      · rintro ⟨rfl, kind, inner, later, named, ⟨taken, others⟩, rfl⟩
        exact ⟨rfl, _, later, ⟨kind, inner, named, taken, rfl⟩, others, rfl⟩
      · rintro ⟨rfl, _, later, ⟨kind, inner, named, taken, rfl⟩, others, rfl⟩
        exact ⟨rfl, kind, inner, later, named, ⟨taken, others⟩, rfl⟩
    · have plain := Bool.eq_false_iff.mpr opens
      rw [ownLines_cons plain, headers_cons plain, List.map_cons,
        splitLines_plain_eq_ok_iff plain, Place.takes_cons]
      simp only [ih onward]
      constructor
      · rintro ⟨own, later, taken, ⟨others, after⟩, whole⟩
        exact ⟨⟨own, later, taken, others, whole⟩, after⟩
      · rintro ⟨⟨own, later, taken, others, whole⟩, after⟩
        exact ⟨own, later, taken, ⟨others, after⟩, whole⟩

/-- Splitting lines gives their sections. -/
theorem splitLines_start_eq_ok_iff {strict : Bool} {lines : List (List Char)}
    {sections : List Section} :
    (splitLines strict .start 1 (lines.map .ok)).result.map Prod.snd = .ok sections ↔
      Sections strict lines sections := by
  rw [map_eq_ok]
  constructor
  · rintro ⟨⟨body, _⟩, found, rfl⟩
    obtain ⟨⟨_, start⟩, opened⟩ := (splitLines_eq_ok_iff List.drop_zero).mp found
    exact ⟨opened, start⟩
  · rintro ⟨opened, start⟩
    exact ⟨([], sections), (splitLines_eq_ok_iff List.drop_zero).mpr ⟨⟨rfl, start⟩, opened⟩, rfl⟩

/-- Lines that are refused are so on one of them. -/
theorem splitLines_eq_error {strict : Bool} {place : Place} {number : Nat}
    {lines : List (List Char)} {error : ScriptError}
    (refused : (splitLines strict place number (lines.map .ok)).result = .error error) :
    ∃ line cause, error = .line ⟨line, cause⟩ ∧ number ≤ line ∧ line < number + lines.length := by
  induction lines generalizing place number with
  | nil => cases refused
  | cons line rest ih =>
    have later {place : Place}
        (refused : (splitLines strict place (number + 1) (rest.map .ok)).result = .error error) :
        ∃ line cause, error = .line ⟨line, cause⟩ ∧ number ≤ line ∧
          line < number + (rest.length + 1) := by
      obtain ⟨found, cause, same, low, high⟩ := ih refused
      exact ⟨found, cause, same, by omega, by omega⟩
    have here {cause : Error} (refused : Splitting.result (.refused
        (.line ⟨number, .splitting cause⟩)) = .error error) :
        ∃ line cause, error = .line ⟨line, cause⟩ ∧ number ≤ line ∧
          line < number + (rest.length + 1) := by
      obtain rfl := Except.error.inj refused
      exact ⟨number, _, rfl, by omega, by omega⟩
    rw [List.map_cons, splitLines.eq_def] at refused
    simp only at refused
    split at refused
    · split at refused
      · exact here refused
      · exact later (map_eq_error.mp refused)
    · split at refused
      · exact later (map_eq_error.mp refused)
      · split at refused
        · exact later refused
        · exact here refused
      · split at refused
        · exact later refused
        · split at refused
          · exact here refused
          · exact later refused

/-- Splitting a source that holds a text splits the lines of the text. -/
theorem split_of_holds {files : Files} {source : Source} {text : String}
    (holds : source.Holds files text) (strict : Bool) :
    (split files strict source).2 =
      (splitLines strict .start 1 ((physicalLines text.toList).map .ok)).result.map Prod.snd := by
  rw [split, holds.lines_eq]

/-- Splitting a source that holds a text gives the sections of the lines of the text, and succeeds
whenever there are such sections. -/
theorem split_eq_ok_iff {files : Files} {source : Source} {text : String}
    (holds : source.Holds files text) (strict : Bool) (sections : List Section) :
    (split files strict source).2 = .ok sections ↔
      Sections strict (physicalLines text.toList) sections := by
  rw [split_of_holds holds]
  exact splitLines_start_eq_ok_iff

/-- A script with a comment, a section without a body, a body with a joined line and an empty body
at the end of the text. -/
def mixedScript : String :=
  "# v\n[vertex shader passthrough]\n\n# none\n[test]\nclear \\\r\ndepth 1\n[ comment ]"

/-- The sections of a script with every kind of line. -/
theorem split_mixedScript :
    Source.Holds (fun _ => .ok .empty) ⟨.text mixedScript, []⟩ mixedScript ∧
    Sections true (physicalLines mixedScript.toList)
      [⟨.passthrough, "", 3⟩, ⟨.test, "clear \\\r\ndepth 1\n", 6⟩, ⟨.comment, "", 9⟩] := by
  have holds := Source.holds_text (fun _ => .ok .empty) mixedScript
  exact ⟨holds, (split_eq_ok_iff holds true _).mp rfl⟩

end GpuScript.Section
