import GpuScript.Proofs.Checked.Replacement
import GpuScript.Proofs.Text.Lines
import GpuScript.Proofs.Text.Words
import GpuScript.Section.Splitter

/-!
# Headers at places

A header is split where its first closing bracket stands in the line, after the blanks at the end of
the line have been taken away, and its name is what stands there behind the opening bracket. Both
are places of the header, because a bracket is not blank (`kindOfHeader?_eq`), so the sections of a
source are found without a part that is none (`sections?_eq`).
-/

namespace GpuScript.Checked

open Text Section

/-- The line with a number after its replacements. -/
def expandLine? (source : Source) (number : Nat) (line : Option (List Char)) :
    Option (Except ScriptError (List Char)) :=
  match line with
  | none => some (.error (.invalidText source.name))
  | some line => do
    let applied ← applyAll? source.replacements line
    match applied with
    | some expanded => some (.ok expanded)
    | none => some (.error (.line ⟨number, .endlessReplacement⟩))

/-- The lines from a number on as they are read: up to the first that is refused or empty. -/
def readLines? (source : Source) (number : Nat) :
    List (Option (List Char)) → Option (List (Except ScriptError (List Char)))
  | [] => some []
  | line :: rest => do
    let read ← expandLine? source number line
    match read with
    | .error error => some [.error error]
    | .ok [] => some []
    | .ok expanded => do
      let others ← readLines? source (number + 1) rest
      some (.ok expanded :: others)

/-- The kind of section that a header line opens. -/
def kindOfHeader? (line : List Char) : Option (Except Section.Error SectionKind) :=
  match placeOf? ']' line with
  | none => some (.error .missingBracket)
  | some place => do
    let (before, after) ← split? (trimEnd line) place
    if after = [']'] then
      let name ← slice? before 1 (byteLength before)
      match SectionKind.ofWords? ((words name).map String.ofList) with
      | some kind => some (.ok kind)
      | none => some (.error (.unknownKind (String.ofList (trim name))))
    else
      some (.error .trailingData)

/-- Splits the lines from a number on. -/
def splitLines? (strict : Bool) (place : Section.Place) (number : Nat) :
    List (Except ScriptError (List Char)) → Option Splitting
  | [] => some ⟨[], .ok ([], [])⟩
  | .error error :: _ => some (.refused error)
  | .ok line :: rest =>
    if isHeader line then do
      let opened ← kindOfHeader? line
      match opened with
      | .error cause => some (.refused (.line ⟨number, .splitting cause⟩))
      | .ok kind => do
        let later ← splitLines? strict (placeAfter kind) (number + 1) rest
        some (later.withSection kind (number + 1))
    else
      match place with
      | .inside => do
        let later ← splitLines? strict .inside (number + 1) rest
        some (later.withLine line)
      | .closed =>
        if isBlankLine line then splitLines? strict .closed (number + 1) rest
        else some (.refused (.line ⟨number, .splitting .strayText⟩))
      | .start =>
        if isBlankLine line then
          splitLines? strict .start (number + 1) rest
        else if strict then
          some (.refused (.line ⟨number, .splitting .strayText⟩))
        else do
          let later ← splitLines? strict .start (number + 1) rest
          some (later.withRecord (strayRecord number))

/-- Splits a source into its sections. -/
def sections? (files : Files) (strict : Bool) (source : Source) :
    Option (List LogRecord × Except ScriptError (List Section)) :=
  match source.physicalLines files with
  | .error error => some ([], .error error)
  | .ok lines => do
    let read ← readLines? source 1 lines
    let splitting ← splitLines? strict .start 1 read
    some (splitting.records, splitting.result.map Prod.snd)

/-- A line is expanded in its own place. -/
theorem expandLine?_eq (source : Source) (number : Nat) (line : Option (List Char)) :
    expandLine? source number line = some (source.expand number line) := by
  cases line with
  | none => rfl
  | some line =>
    rw [expandLine?, applyAll?_eq, Source.expand]
    cases Replacement.applyAll? source.replacements line <;> rfl

/-- All lines are expanded in their own places. -/
theorem readLines?_eq (source : Source) (number : Nat) (lines : List (Option (List Char))) :
    readLines? source number lines = some (source.readLines number lines) := by
  induction lines generalizing number with
  | nil => rfl
  | cons line rest ih =>
    rw [readLines?, expandLine?_eq, Source.readLines]
    cases source.expand number line with
    | error error => rfl
    | ok expanded =>
      cases expanded with
      | nil => rfl
      | cons first others =>
        simp only [Option.bind_eq_bind, Option.bind_some, ih]

/-- The parts of a header are parts of its line. -/
theorem kindOfHeader?_eq {line : List Char} (opens : isHeader line = true) :
    kindOfHeader? line = some (kindOfHeader line) := by
  by_cases closed : ']' ∈ line
  · obtain ⟨before, after, rfl, plain⟩ := List.eq_append_cons_of_mem closed
    -- The name begins behind the opening bracket, which is the first byte of the line.
    obtain ⟨name, rfl⟩ : ∃ name, before = '[' :: name := by
      cases before with
      | nil => simp [isHeader] at opens
      | cons first name => exact ⟨name, congrArg (· :: name) (beq_iff_eq.mp opens)⟩
    have found := placeOf?_append_cons plain after
    have bracket : isBlank ']' = false := by decide
    have trimmed := trimEnd_append_cons ('[' :: name) bracket after
    have parts := split?_append ('[' :: name) (']' :: trimEnd after)
    have inner := slice?_rest ['['] name
    have kept : ∀ character ∈ '[' :: name, decide (character ≠ ']') = true :=
      fun character listed => decide_eq_true fun same => plain (same ▸ listed)
    have stops : ∀ first ∈ (']' :: trimEnd after).head?, decide (first ≠ ']') = false := by simp
    obtain ⟨ahead, behind⟩ := span_append kept stops
    have one : byteLength ['['] = 1 := by decide
    rw [one, List.singleton_append] at inner
    rw [kindOfHeader?, found, kindOfHeader, if_pos (List.contains_iff_mem.mpr closed), trimmed]
    dsimp only
    rw [parts, ahead, behind]
    simp only [Option.bind_eq_bind, Option.bind_some, inner, List.drop_succ_cons, List.drop_zero]
    split
    · split <;> simp_all
    · rfl
  · rw [kindOfHeader?, placeOf?_eq_none closed, kindOfHeader, if_neg (by simpa using closed)]

/-- The lines are split without a part that is none. -/
theorem splitLines?_eq (strict : Bool) (place : Section.Place) (number : Nat)
    (lines : List (Except ScriptError (List Char))) :
    splitLines? strict place number lines = some (splitLines strict place number lines) := by
  induction lines generalizing place number with
  | nil => rfl
  | cons line rest ih =>
    cases line with
    | error error => rfl
    | ok line =>
      rw [splitLines?.eq_def, splitLines.eq_def]
      dsimp only
      by_cases opens : isHeader line = true
      · rw [if_pos opens, if_pos opens, kindOfHeader?_eq opens]
        cases kindOfHeader line with
        | error cause => rfl
        | ok kind => simp only [Option.bind_eq_bind, Option.bind_some, ih]
      · rw [if_neg opens, if_neg opens]
        cases place with
        | inside => simp only [Option.bind_eq_bind, Option.bind_some, ih]
        | closed => simp only [ih, apply_ite some]
        | start => simp only [Option.bind_eq_bind, Option.bind_some, ih, apply_ite some]

/-- Whatever the source, every part that is taken out for its sections is one. -/
theorem sections?_eq (files : Files) (strict : Bool) (source : Source) :
    sections? files strict source = some (split files strict source) := by
  rw [sections?, split, Source.lines]
  cases source.physicalLines files with
  | error error => rfl
  | ok lines =>
    simp only [readLines?_eq, splitLines?_eq, Option.bind_eq_bind, Option.bind_some, Except.map]

end GpuScript.Checked
