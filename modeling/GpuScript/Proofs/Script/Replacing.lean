import GpuScript.Proofs.Replacement
import GpuScript.Proofs.Section.Splitting
import GpuScript.Script.Basic

/-!
# Replacing first and reading later

A source has its tokens replaced line by line while it is read. As long as no line end takes part,
it is read as the text is whose lines have had their tokens replaced before. If the replacements do
not come to an end on a line, the script is refused there, unless the sections are refused on one
of the lines before it (`Script.load_replacing`).
-/

namespace GpuScript

open Text

namespace Source

variable {source : Source}

/-- A line that is not empty after its replacements is read. -/
theorem readLines_cons_of_some {line expanded : List Char}
    (applied : Replacement.applyAll? source.replacements line = some expanded)
    (nonempty : expanded ≠ []) (number : Nat) (rest : List (Option (List Char))) :
    source.readLines number (some line :: rest) =
      .ok expanded :: source.readLines (number + 1) rest := by
  have own : source.expand number (some line) = .ok expanded := by
    simp only [expand, applied]
  obtain ⟨first, others, rfl⟩ := List.exists_cons_of_ne_nil nonempty
  rw [readLines, own]

/-- A line that is empty after its replacements ends the reading. -/
theorem readLines_cons_of_nil {line : List Char}
    (applied : Replacement.applyAll? source.replacements line = some []) (number : Nat)
    (rest : List (Option (List Char))) : source.readLines number (some line :: rest) = [] := by
  have own : source.expand number (some line) = .ok [] := by
    simp only [expand, applied]
  rw [readLines, own]

/-- A line whose replacements do not come to an end is refused. -/
theorem readLines_cons_of_none {line : List Char}
    (endless : Replacement.applyAll? source.replacements line = none) (number : Nat)
    (rest : List (Option (List Char))) :
    source.readLines number (some line :: rest) =
      [.error (.line ⟨number, .endlessReplacement⟩)] := by
  have own : source.expand number (some line) =
      .error (.line ⟨number, .endlessReplacement⟩) := by
    simp only [expand, endless]
  rw [readLines, own]

section Inline

variable (inline : ∀ replacement ∈ source.replacements, replacement.Inline)
include inline

/-- Lines whose replacements come to an end are read as the lines of the text that they make up. -/
theorem readLines_of_mapM_eq_some {text : List Char} {expanded : List (List Char)}
    (applied : (Text.physicalLines text).mapM (Replacement.applyAll? source.replacements) =
      some expanded) (number : Nat) :
    source.readLines number ((Text.physicalLines text).map some) =
      (Text.physicalLines expanded.flatten).map .ok := by
  induction text using lines_induction generalizing expanded number with
  | empty =>
    obtain rfl := Option.some.inj applied
    rfl
  | last line nonempty open_ =>
    rw [physicalLines_of_open nonempty open_] at applied ⊢
    cases own : Replacement.applyAll? source.replacements line with
    | none =>
      rw [mapM_cons_of_none own] at applied
      cases applied
    | some replaced =>
      rw [mapM_cons_of_some own] at applied
      obtain rfl : [replaced] = expanded := Option.some.inj applied
      have inner := Replacement.newline_not_mem_of_applyAll? inline open_ own
      rw [List.flatten_singleton, List.map_singleton]
      by_cases empty : replaced = []
      · subst empty
        rw [readLines_cons_of_nil own]
        rfl
      · rw [readLines_cons_of_some own empty, physicalLines_of_open empty inner]
        rfl
  | closed line rest open_ ih =>
    rw [physicalLines_cons open_] at applied ⊢
    cases own : Replacement.applyAll? source.replacements (line ++ ['\n']) with
    | none =>
      rw [mapM_cons_of_none own] at applied
      cases applied
    | some replaced =>
      rw [mapM_cons_of_some own] at applied
      obtain ⟨later, others, rfl⟩ := Option.map_eq_some_iff.mp applied
      obtain ⟨inner, plain, rfl⟩ := Replacement.exists_of_applyAll?_closed inline open_ own
      rw [List.map_cons, readLines_cons_of_some own (by simp), ih others, List.flatten_cons,
        List.append_assoc, List.singleton_append, physicalLines_cons plain, List.map_cons]

/-- If the replacements do not come to an end on every line, the lines before the first such line
are read as the lines of the text that they make up, and then the line is refused. -/
theorem readLines_of_mapM_eq_none {text : List Char}
    (refused : (Text.physicalLines text).mapM (Replacement.applyAll? source.replacements) = none)
    (number : Nat) :
    ∃ before line after done, Text.physicalLines text = before ++ line :: after ∧
      before.mapM (Replacement.applyAll? source.replacements) = some done ∧
      Replacement.applyAll? source.replacements line = none ∧ AreLines done ∧
      done.length = before.length ∧
      source.readLines number ((Text.physicalLines text).map some) =
        done.map .ok ++ [.error (.line ⟨number + before.length, .endlessReplacement⟩)] := by
  induction text using lines_induction generalizing number with
  | empty => cases refused
  | last line nonempty open_ =>
    rw [physicalLines_of_open nonempty open_] at refused ⊢
    cases own : Replacement.applyAll? source.replacements line with
    | none => exact ⟨[], line, [], [], rfl, rfl, own, rfl, rfl, readLines_cons_of_none own number _⟩
    | some replaced =>
      rw [mapM_cons_of_some own] at refused
      cases refused
  | closed line rest open_ ih =>
    rw [physicalLines_cons open_] at refused ⊢
    cases own : Replacement.applyAll? source.replacements (line ++ ['\n']) with
    | none => exact ⟨[], _, _, [], rfl, rfl, own, rfl, rfl, readLines_cons_of_none own number _⟩
    | some replaced =>
      rw [mapM_cons_of_some own, Option.map_eq_none_iff] at refused
      obtain ⟨before, endless, after, done, split, applied, stuck, lines, count, read⟩ :=
        ih refused (number + 1)
      obtain ⟨inner, plain, rfl⟩ := Replacement.exists_of_applyAll?_closed inline open_ own
      refine ⟨(line ++ ['\n']) :: before, endless, after, (inner ++ ['\n']) :: done, ?_, ?_, stuck,
        lines.cons plain, congrArg (· + 1) count, ?_⟩
      · rw [split, List.cons_append]
      · rw [mapM_cons_of_some own, applied]
        rfl
      · have place : number + 1 + before.length = number + (before.length + 1) := by omega
        rw [List.map_cons, readLines_cons_of_some own (by simp), read, place]
        rfl

end Inline

end Source

namespace Section

/-- The error that comes first: that of a result, or a later one if the result has none. -/
def firstError {α : Type} (result : Except ScriptError α) (later : ScriptError) : ScriptError :=
  match result with
  | .error error => error
  | .ok _ => later

/-- What becomes of a value does not matter to the first error. -/
theorem firstError_map {α β : Type} (result : Except ScriptError α) (change : α → β)
    (later : ScriptError) : firstError (result.map change) later = firstError result later := by
  cases result <;> rfl

/-- A line that cannot be read refuses the script, unless one of the lines before it does. -/
theorem splitLines_append_error (strict : Bool) (place : Place) (number : Nat)
    (lines : List (List Char)) (later : ScriptError) :
    (splitLines strict place number (lines.map .ok ++ [.error later])).result =
      .error (firstError (splitLines strict place number (lines.map .ok)).result later) := by
  induction lines generalizing place number with
  | nil => rfl
  | cons line rest ih =>
    rw [List.map_cons, List.cons_append, splitLines.eq_def, splitLines.eq_def _ _ _ (_ :: _)]
    simp only
    split
    · split
      · rfl
      · simp only [Splitting.withSection, ih, firstError_map]
        rfl
    · split
      · simp only [Splitting.withLine, ih, firstError_map]
        rfl
      · split
        · exact ih _ _
        · rfl
      · split
        · exact ih _ _
        · split
          · rfl
          · exact ih _ _

/-- Splitting a source splits its lines. -/
theorem split_of_lines {files : Files} {source : Source}
    {lines : List (Except ScriptError (List Char))} (read : source.lines files = .ok lines)
    (strict : Bool) :
    (split files strict source).2 = (splitLines strict .start 1 lines).result.map Prod.snd := by
  rw [split, read]

/-- Sources with the same lines are split in the same way. -/
theorem split_congr {files : Files} {source other : Source}
    (same : source.lines files = other.lines files) (strict : Bool) :
    split files strict source = split files strict other := by
  rw [split, same, ← split]

end Section

namespace Script

/-- A script that cannot be split is refused. -/
theorem load_of_split_error {files : Files} {config : Config} {source : Source}
    {error : ScriptError} (refused : (Section.split files config.strict source).2 = .error error) :
    (load files config source).2 = .error error := by
  cases whole : Section.split files config.strict source with
  | mk records result =>
    rw [whole] at refused
    obtain rfl : result = .error error := refused
    rw [load, ScriptReading.ofSource, whole]

/-- Sources that are split in the same way give the same script, apart from its name. -/
theorem load_congr {files : Files} {config : Config} {source other : Source}
    (same : Section.split files config.strict source = Section.split files config.strict other) :
    load files config source =
      ((load files config other).1, (load files config other).2.map fun script =>
        { script with name := source.name }) := by
  rw [load, load, ScriptReading.ofSource, same, ← ScriptReading.ofSource]
  cases (ScriptReading.ofSource files config.strict other).failure <;> rfl

/-- Replacements in which no line end takes part can be made before a script is read. If they come
to an end on every line, the script is the same, as are the records and the error if it is refused.
Otherwise it is refused: with the error of the sections on the lines before the first line on which
they do not come to an end, or with that of this line. -/
theorem load_replacing {files : Files} {location : Location} {text : String}
    (holds : Source.Holds files ⟨location, []⟩ text) {replacements : List Replacement}
    (inline : ∀ replacement ∈ replacements, replacement.Inline) (config : Config) :
    let source : Source := ⟨location, replacements⟩
    (∀ expanded,
      (physicalLines text.toList).mapM (Replacement.applyAll? replacements) = some expanded →
        let replaced : Source := ⟨.text (String.ofList expanded.flatten), []⟩
        load files config source =
          ((load files config replaced).1, (load files config replaced).2.map fun script =>
            { script with name := source.name })) ∧
    ((physicalLines text.toList).mapM (Replacement.applyAll? replacements) = none →
      ∃ before line after done, physicalLines text.toList = before ++ line :: after ∧
        before.mapM (Replacement.applyAll? replacements) = some done ∧
        Replacement.applyAll? replacements line = none ∧
        let previous : Source := ⟨.text (String.ofList done.flatten), []⟩
        (load files config source).2 =
          .error (Section.firstError (Section.split files config.strict previous).2
            (.line ⟨before.length + 1, .endlessReplacement⟩)) ∧
        ∀ error, (Section.split files config.strict previous).2 = .error error →
          ∃ number cause, error = .line ⟨number, cause⟩ ∧ 1 ≤ number ∧
            number ≤ before.length) := by
  intro source
  have inner : ∀ replacement ∈ source.replacements, replacement.Inline := inline
  have lines : source.lines files =
      .ok (source.readLines 1 ((physicalLines text.toList).map some)) :=
    congrArg (Except.map (source.readLines 1)) holds.lines
  refine ⟨fun expanded applied => ?_, fun refused => ?_⟩
  · intro replaced
    have read := Source.readLines_of_mapM_eq_some inner applied 1
    have plain := (Source.holds_text files (String.ofList expanded.flatten)).lines_eq
    rw [String.toList_ofList] at plain
    rw [read] at lines
    exact load_congr (Section.split_congr (lines.trans plain.symm) config.strict)
  · obtain ⟨before, line, after, done, split, front, endless, own, count, read⟩ :=
      Source.readLines_of_mapM_eq_none inner refused 1
    refine ⟨before, line, after, done, split, front, endless, ?_⟩
    intro previous
    have parts : (Section.split files config.strict previous).2 =
        (Section.splitLines config.strict .start 1 (done.map .ok)).result.map Prod.snd := by
      have plain := Section.split_of_holds (Source.holds_text files (String.ofList done.flatten))
        config.strict
      rwa [String.toList_ofList, own] at plain
    refine ⟨load_of_split_error ?_, fun error refused => ?_⟩
    · rw [read, Nat.add_comm] at lines
      rw [Section.split_of_lines lines, Section.splitLines_append_error, parts,
        Section.firstError_map]
      rfl
    · rw [parts] at refused
      obtain ⟨number, cause, same, low, high⟩ :=
        Section.splitLines_eq_error (map_eq_error.mp refused)
      exact ⟨number, cause, same, low, by omega⟩

/-- A script whose header and whose last line are replaced. -/
def foldedScript : String :=
  "HEAD\nclear\nGONE"

/-- The header is found after the replacements and the last line is gone, and a replacement of a
token by itself refuses the script. -/
theorem load_replacing_foldedScript :
    let files : Files := fun _ => .ok .empty
    let folds : List Replacement := [⟨"HEAD", "[test]"⟩, ⟨"GONE", ""⟩]
    let loops : List Replacement := [⟨"clear", "clear"⟩]
    let plain : Source := ⟨.text "[test]\nclear\n", []⟩
    (Source.Holds files ⟨.text foldedScript, []⟩ foldedScript ∧
      (∀ replacement ∈ folds ++ loops, replacement.Inline)) ∧
    load files Config.default ⟨.text foldedScript, folds⟩ =
      ((load files Config.default plain).1, (load files Config.default plain).2.map fun script =>
        { script with name := "(string source)" }) ∧
    (load files Config.default plain).2.toOption.map (fun script => script.commands.length) =
      some 1 ∧
    ∃ error, (load files Config.default ⟨.text foldedScript, loops⟩).2 = .error error := by
  intro files folds loops plain
  have holds := Source.holds_text files foldedScript
  have inline : ∀ replacement ∈ folds ++ loops, replacement.Inline := by decide
  obtain ⟨replaced, _⟩ := load_replacing holds
    (fun replacement listed => inline replacement (List.mem_append_left _ listed)) Config.default
  obtain ⟨_, refused⟩ := load_replacing holds
    (fun replacement listed => inline replacement (List.mem_append_right _ listed)) Config.default
  have expands : (physicalLines foldedScript.toList).mapM (Replacement.applyAll? folds) =
      some ["[test]\n".toList, "clear\n".toList, []] := by decide +kernel
  have endless : (physicalLines foldedScript.toList).mapM (Replacement.applyAll? loops) =
      none := by decide +kernel
  have count : (load files Config.default plain).2.toOption.map
      (fun script => script.commands.length) = some 1 := by decide +kernel
  have text : String.ofList ["[test]\n".toList, "clear\n".toList, []].flatten =
      "[test]\nclear\n" := by decide +kernel
  have same := replaced _ expands
  rw [text] at same
  obtain ⟨_, _, _, _, _, _, _, stuck, _⟩ := refused endless
  exact ⟨⟨holds, inline⟩, same, count, _, stuck⟩

end Script

end GpuScript
