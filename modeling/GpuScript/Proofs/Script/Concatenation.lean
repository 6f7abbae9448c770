import GpuScript.Proofs.Script.LineNumbers
import GpuScript.Proofs.Script.Shift

/-!
# Scripts one behind the other

A header line ends whatever stands before it, and every section is read on its own. So a script in
front of another one that opens with a header does not matter to it, apart from the lines that are
counted: the two together are accepted exactly if each of them is, and they give the nodes of the
first and then those of the second, whose lines are counted on (`Script.load_append`).
-/

namespace GpuScript

open Text

/-- A text is empty or ends with a line end. -/
def Text.EndsLine (text : List Char) : Prop :=
  text = [] ∨ text.getLast? = some '\n'

instance (text : List Char) : Decidable (Text.EndsLine text) :=
  inferInstanceAs (Decidable (_ ∨ _))

/-- What follows a line end of a text ends with a line end if the text does. -/
theorem Text.EndsLine.right {before rest : List Char} (ended : EndsLine (before ++ '\n' :: rest)) :
    EndsLine rest := by
  by_cases empty : rest = []
  · exact .inl empty
  · have final := ended.resolve_left (by simp)
    rw [List.getLast?_append, List.getLast?_cons] at final
    cases last : rest.getLast? with
    | none => exact absurd (List.getLast?_eq_none_iff.mp last) empty
    | some character =>
      have same : character = '\n' := by simpa [last] using final
      exact .inr (same ▸ last)

/-- The lines of a text that ends with a line end come before those of what follows it. -/
theorem Text.physicalLines_append {first : List Char} (ended : EndsLine first)
    (second : List Char) :
    physicalLines (first ++ second) = physicalLines first ++ physicalLines second := by
  induction first using lines_induction with
  | empty => rfl
  | last line nonempty open_ =>
    have final := ended.resolve_left nonempty
    exact absurd (List.mem_of_getLast? final) open_
  | closed line rest open_ ih =>
    have inner := ih ended.right
    rw [List.append_assoc, List.cons_append, physicalLines_cons open_, physicalLines_cons open_,
      inner, List.cons_append]

/-- A text that ends with a line end has as many lines as line ends. -/
theorem Text.length_physicalLines {text : List Char} (ended : EndsLine text) :
    (physicalLines text).length = text.count '\n' := by
  induction text using lines_induction with
  | empty => rfl
  | last line nonempty open_ =>
    have final := ended.resolve_left nonempty
    exact absurd (List.mem_of_getLast? final) open_
  | closed line rest open_ ih =>
    have own : line.count '\n' = 0 := List.count_eq_zero.mpr open_
    have inner := ih ended.right
    rw [physicalLines_cons open_, List.length_cons, inner, List.count_append,
      List.count_cons_self, own]
    omega

/-- The first line of a text opens with the first character of the text. -/
theorem Text.exists_physicalLines_cons (first : Char) (rest : List Char) :
    ∃ line lines, physicalLines (first :: rest) = (first :: line) :: lines := by
  rw [physicalLines, splitAfter]
  split
  · exact ⟨[], _, rfl⟩
  · split
    · exact ⟨[], [], rfl⟩
    · exact ⟨_, _, rfl⟩

namespace Section

/-- Text and sections, with the sections so many lines further down. -/
def shiftSections (count : Nat) (split : List Char × List Section) : List Char × List Section :=
  (split.1, split.2.map (Section.shift count))

/-- Lines are split in the same way further down. -/
theorem splitLines_add (strict : Bool) (place : Place) (number count : Nat)
    (lines : List (List Char)) :
    (splitLines strict place (number + count) (lines.map .ok)).result =
      mapBoth (ScriptError.shift count) (shiftSections count)
        (splitLines strict place number (lines.map .ok)).result := by
  induction lines generalizing place number with
  | nil => rfl
  | cons line rest ih =>
    have below (place : Place) :
        (splitLines strict place (number + count + 1) (rest.map .ok)).result =
          mapBoth (ScriptError.shift count) (shiftSections count)
            (splitLines strict place (number + 1) (rest.map .ok)).result := by
      rw [Nat.add_right_comm]
      exact ih place (number + 1)
    rw [List.map_cons, splitLines.eq_def, splitLines.eq_def _ _ number]
    simp only
    split
    · split
      · rfl
      · simp only [Splitting.withSection, below]
        cases (splitLines strict _ (number + 1) (rest.map .ok)).result with
        | error error => rfl
        | ok split =>
          have next : number + count + 1 = number + 1 + count := by omega
          simp only [mapBoth, Except.map, shiftSections, List.map_cons, next]
          rfl
    · split
      · simp only [Splitting.withLine, below]
        cases (splitLines strict .inside (number + 1) (rest.map .ok)).result <;> rfl
      · split
        · exact below .closed
        · rfl
      · split
        · exact below .start
        · split
          · rfl
          · exact below .start

/-- Lines that open with a header are split in the same way wherever they stand: nothing of them
belongs to what is before them. -/
theorem splitLines_of_isHeader {line : List Char} (opens : isHeader line = true) (strict : Bool)
    (place : Place) (number : Nat) (rest : List (Except ScriptError (List Char))) :
    (splitLines strict place number (.ok line :: rest)).result =
      (splitLines strict .start number (.ok line :: rest)).result.map
        fun split => ([], split.2) := by
  simp only [splitLines, opens, ↓reduceIte]
  cases kindOfHeader line with
  | error cause => rfl
  | ok kind =>
    simp only [Splitting.withSection]
    cases (splitLines strict (placeAfter kind) (number + 1) rest).result <;> rfl

/-- Lines in front of a header are split on their own, and then the lines from the header on, as if
nothing stood before them. -/
theorem splitLines_append {header : List Char} (opens : isHeader header = true) (strict : Bool)
    (place : Place) (number : Nat) (lines rest : List (List Char)) :
    (splitLines strict place number ((lines ++ header :: rest).map .ok)).result =
      (splitLines strict place number (lines.map .ok)).result >>= fun split =>
        (splitLines strict .start (number + lines.length) ((header :: rest).map .ok)).result.map
          fun later => (split.1, split.2 ++ later.2) := by
  induction lines generalizing place number with
  | nil => exact splitLines_of_isHeader opens strict place number (rest.map .ok)
  | cons line lines ih =>
    have place : number + (line :: lines).length = number + 1 + lines.length := by
      rw [List.length_cons]
      omega
    rw [place, List.cons_append, List.map_cons, List.map_cons, splitLines.eq_def,
      splitLines.eq_def _ _ number (_ :: lines.map .ok)]
    simp only
    split
    · split
      · rfl
      · simp only [Splitting.withSection, ih]
        generalize (splitLines strict _ (number + 1) (lines.map .ok)).result = first
        generalize (splitLines strict .start _ _).result = second
        cases first <;> cases second <;> rfl
    · split
      · simp only [Splitting.withLine, ih]
        generalize (splitLines strict _ (number + 1) (lines.map .ok)).result = first
        generalize (splitLines strict .start (_ + lines.length) _).result = second
        cases first <;> cases second <;> rfl
      · split
        · exact ih .closed (number + 1)
        · rfl
      · split
        · exact ih .start (number + 1)
        · split
          · rfl
          · exact ih .start (number + 1)

end Section

namespace ScriptReading

/-- The nodes of a reading, or why the script is refused. -/
def outcome (reading : ScriptReading) : Except ScriptError (List Node) :=
  match reading.failure with
  | some error => .error error
  | none => .ok reading.nodes

/-- The first section is read before the others. -/
theorem outcome_ofSections_cons (part : Section) (rest : List Section) :
    (ofSections (part :: rest)).outcome =
      (Node.ofSection part).result >>= fun node =>
        (ofSections rest).outcome.map (node.toList ++ ·) := by
  cases own : (Node.ofSection part).result with
  | error error =>
    rw [ofSections_cons_of_error own]
    rfl
  | ok node =>
    rw [ofSections_cons_of_ok own, ok_bind, withSection, outcome, outcome]
    cases (ofSections rest).failure <;> rfl

/-- Sections are read on their own, the first ones before the others. -/
theorem outcome_ofSections_append (first second : List Section) :
    (ofSections (first ++ second)).outcome =
      (ofSections first).outcome >>= fun nodes =>
        (ofSections second).outcome.map (nodes ++ ·) := by
  induction first with
  | nil =>
    rw [List.nil_append]
    change _ = (ofSections second).outcome.map ([] ++ ·)
    cases (ofSections second).outcome <;> rfl
  | cons part rest ih =>
    rw [List.cons_append, outcome_ofSections_cons, outcome_ofSections_cons, ih]
    cases (Node.ofSection part).result with
    | error error => rfl
    | ok node =>
      simp only [ok_bind]
      cases (ofSections rest).outcome with
      | error error => rfl
      | ok nodes =>
        simp only [ok_bind, Except.map]
        cases (ofSections second).outcome with
        | error error => rfl
        | ok later => simp only [List.append_assoc]

/-- Sections are read in the same way further down. -/
theorem outcome_ofSections_shift (count : Nat) (sections : List Section) :
    (ofSections (sections.map (Section.shift count))).outcome =
      mapBoth (ScriptError.shift count) (List.map (Node.shift count))
        (ofSections sections).outcome := by
  induction sections with
  | nil => rfl
  | cons part rest ih =>
    rw [List.map_cons, outcome_ofSections_cons, outcome_ofSections_cons, Node.ofSection_shift, ih]
    refine bind_mapBoth _ fun node => ?_
    cases (ofSections rest).outcome with
    | error error => rfl
    | ok nodes => cases node <;> rfl

end ScriptReading

namespace Script

/-- A script is split into its sections, and these are read in order. -/
theorem load_eq (files : Files) (config : Config) (source : Source) :
    (load files config source).2 =
      (Section.split files config.strict source).2 >>= fun sections =>
        (ScriptReading.ofSections sections).outcome.map fun nodes => ⟨source.name, nodes⟩ := by
  cases whole : Section.split files config.strict source with
  | mk records result =>
    cases result with
    | error error =>
      rw [load, ScriptReading.ofSource, whole]
      rfl
    | ok sections =>
      rw [load, ScriptReading.ofSource, whole, ok_bind, ScriptReading.outcome]
      dsimp only
      cases (ScriptReading.ofSections sections).failure <;> rfl

/-- The sections of a text in front of a header are those of the text and those from the header on,
the latter so many lines further down. -/
theorem split_append {files : Files} {one two both : Source} {first second : String}
    (holdsOne : one.Holds files first) (holdsTwo : two.Holds files second)
    (holdsBoth : both.Holds files (first ++ second)) (ended : EndsLine first.toList)
    (opens : second.toList.head? = some '[') (strict : Bool) :
    (Section.split files strict both).2 =
      (Section.split files strict one).2 >>= fun sections =>
        mapBoth (ScriptError.shift (first.toList.count '\n'))
          (fun later => sections ++ later.map (Section.shift (first.toList.count '\n')))
          (Section.split files strict two).2 := by
  obtain ⟨rest, text⟩ := List.head?_eq_some_iff.mp opens
  obtain ⟨line, lines, cut⟩ := exists_physicalLines_cons '[' rest
  have header : Section.isHeader ('[' :: line) = true := rfl
  have below := Section.splitLines_add strict .start 1 (first.toList.count '\n')
    (('[' :: line) :: lines)
  rw [Section.split_of_holds holdsBoth, Section.split_of_holds holdsOne,
    Section.split_of_holds holdsTwo, String.toList_append, physicalLines_append ended, text, cut,
    Section.splitLines_append header, length_physicalLines ended, below]
  cases (Section.splitLines strict .start 1 ((physicalLines first.toList).map .ok)).result with
  | error error => rfl
  | ok split =>
    simp only [ok_bind]
    cases (Section.splitLines strict .start 1 ((('[' :: line) :: lines).map .ok)).result <;> rfl

/-- A text that is empty or ends with a line end and a text that opens with a bracket are one script
exactly if each of them is a script. It has the nodes of the first and then those of the second,
with as many lines added to the numbers of the commands of the second as the first has line
ends. -/
theorem load_append {files : Files} {one two both : Source} {first second : String}
    (holdsOne : one.Holds files first) (holdsTwo : two.Holds files second)
    (holdsBoth : both.Holds files (first ++ second)) (ended : EndsLine first.toList)
    (opens : second.toList.head? = some '[') (config : Config) (script : Script) :
    (load files config both).2 = .ok script ↔
      ∃ before after, (load files config one).2 = .ok before ∧
        (load files config two).2 = .ok after ∧
        script = ⟨both.name,
          before.nodes ++ after.nodes.map (Node.shift (first.toList.count '\n'))⟩ := by
  have parts := split_append holdsOne holdsTwo holdsBoth ended opens config.strict
  rw [load_eq, load_eq, load_eq, parts]
  cases (Section.split files config.strict one).2 with
  | error error => simp [bind, Except.bind]
  | ok sections =>
    cases (Section.split files config.strict two).2 with
    | error error => simp [bind, Except.bind, mapBoth]
    | ok later =>
      have nodes := ScriptReading.outcome_ofSections_append sections
        (later.map (Section.shift (first.toList.count '\n')))
      rw [ScriptReading.outcome_ofSections_shift] at nodes
      simp only [ok_bind, mapBoth, nodes]
      cases (ScriptReading.ofSections sections).outcome with
      | error error => simp [bind, Except.bind, Except.map]
      | ok before =>
        cases (ScriptReading.ofSections later).outcome with
        | error error => simp [bind, Except.bind, Except.map]
        | ok after => simp [Except.map, eq_comm]

/-- A script that ends with a continuation in a section, after a change of the pipeline state. -/
def openEnded : String :=
  "[vertex shader passthrough]\n[test]\nlineWidth 2\nclear \\\n"

/-- The sections of a script do not notice a script in front of it, however that one ends. -/
theorem load_append_openEnded :
    let files : Files := fun _ => .ok .empty
    let second := "[test]\n\ndraw rect 0 0 1 1\n"
    let source (text : String) : Source := ⟨.text text, []⟩
    ((source openEnded).Holds files openEnded ∧ (source second).Holds files second ∧
      (source (openEnded ++ second)).Holds files (openEnded ++ second) ∧
      EndsLine openEnded.toList ∧ second.toList.head? = some '[') ∧
    ∃ script before after, (load files Config.default (source (openEnded ++ second))).2 =
        .ok script ∧
      (load files Config.default (source openEnded)).2 = .ok before ∧
      (load files Config.default (source second)).2 = .ok after ∧
      script.nodes = before.nodes ++ after.nodes.map (Node.shift 4) ∧
      script.commands.map Command.line = [4, 7] := by
  intro files second source
  have holds (text : String) : (source text).Holds files text := Source.holds_text files text
  have ended : EndsLine openEnded.toList := by decide
  have opens : second.toList.head? = some '[' := by decide
  have append := load_append (holds openEnded) (holds second) (holds (openEnded ++ second)) ended
    opens Config.default
  have numbers : (load files Config.default (source (openEnded ++ second))).2.map
      (fun script => script.commands.map Command.line) = .ok [4, 7] := by decide +kernel
  obtain ⟨script, accepted, lines⟩ := map_eq_ok.mp numbers
  obtain ⟨before, after, one, two, rfl⟩ := (append script).mp accepted
  have count : openEnded.toList.count '\n' = 4 := by decide
  exact ⟨⟨holds _, holds _, holds _, ended, opens⟩, _, before, after, accepted, one, two,
    by rw [count], lines⟩

end Script

end GpuScript
