import GpuScript.Proofs.Script.ErrorLines
import GpuScript.Proofs.Section.Lines
import GpuScript.Script.Basic

/-!
# Line numbers of scripts

The number of a command is that of the physical line of the script on which its first token
stands, and the number in an error is that of a line of the section that is refused
(`Script.lines_of_load`). The number of a section's first line carries this from the lines of a
body to the lines of the script.
-/

namespace GpuScript

open Text

namespace Node

/-- A test section that is accepted gives the test that is read from its body. -/
theorem test?_of_test {part : Section} {node : Option Node} (kind : part.kind = .test)
    (accepted : (ofSection part).result = .ok node) :
    (Test.read part.body part.firstLine).failure = none ∧ ∃ test, node = some (.test test) ∧
      test.commands = (Test.read part.body part.firstLine).commands := by
  change (readBody part).result = .ok node at accepted
  simp only [readBody, kind, readTest] at accepted
  split at accepted
  · cases accepted
  · rename_i clean
    obtain rfl := Except.ok.inj accepted
    exact ⟨clean, _, rfl, rfl⟩

/-- Another section gives no test. -/
theorem test?_of_ne {part : Section} {node : Option Node} (kind : part.kind ≠ .test)
    (accepted : (ofSection part).result = .ok node) : node.bind test? = none := by
  change (readBody part).result = .ok node at accepted
  cases holds : part.kind with
  | test => contradiction
  | comment =>
    obtain rfl : none = node := by simpa [readBody, holds] using accepted
    rfl
  | passthrough =>
    obtain rfl : some (shader .vertex .passthrough) = node := by
      simpa [readBody, holds] using accepted
    rfl
  | require =>
    simp only [readBody, holds, readRequire] at accepted
    split at accepted
    · cases accepted
    · obtain rfl := Except.ok.inj accepted
      split <;> rfl
  | indices =>
    simp only [readBody, holds, readIndices] at accepted
    split at accepted
    · cases accepted
    · obtain rfl := Except.ok.inj accepted
      split <;> rfl
  | vertexData =>
    simp only [readBody, holds, readVertexData] at accepted
    split at accepted
    · cases accepted
    · rename_i table _
      obtain rfl := Except.ok.inj accepted
      cases table <;> rfl
  | shader stage format =>
    simp only [readBody, holds, readShader] at accepted
    split at accepted
    · cases accepted
    · obtain rfl := Except.ok.inj accepted
      rfl

end Node

namespace ScriptReading

/-- A section that is refused ends the reading. -/
theorem ofSections_cons_of_error {part : Section} {error : ScriptError}
    (refused : (Node.ofSection part).result = .error error) (rest : List Section) :
    ofSections (part :: rest) = ⟨(Node.ofSection part).records, [], some error⟩ := by
  simp only [ofSections, refused]

/-- A section that is accepted adds its records and its node. -/
theorem ofSections_cons_of_ok {part : Section} {node : Option Node}
    (accepted : (Node.ofSection part).result = .ok node) (rest : List Section) :
    ofSections (part :: rest) =
      (ofSections rest).withSection (Node.ofSection part).records node := by
  simp only [ofSections, accepted]

/-- A script is refused because one of its sections is. -/
theorem exists_of_failure {sections : List Section} {error : ScriptError}
    (found : (ofSections sections).failure = some error) :
    ∃ part ∈ sections, (Node.ofSection part).result = .error error := by
  induction sections with
  | nil => cases found
  | cons part rest ih =>
    cases own : (Node.ofSection part).result with
    | error cause =>
      rw [ofSections_cons_of_error own] at found
      obtain rfl := Option.some.inj found
      exact ⟨part, List.mem_cons_self, own⟩
    | ok node =>
      rw [ofSections_cons_of_ok own] at found
      obtain ⟨other, listed, refused⟩ := ih found
      exact ⟨other, List.mem_cons_of_mem _ listed, refused⟩

/-- The tests of a script are those of its test sections, one by one. -/
theorem forall₂_tests {sections : List Section} (accepted : (ofSections sections).failure = none) :
    List.Forall₂ (fun part test => (Test.read part.body part.firstLine).failure = none ∧
        test.commands = (Test.read part.body part.firstLine).commands)
      (sections.filter (·.kind = .test)) ((ofSections sections).nodes.filterMap Node.test?) := by
  induction sections with
  | nil => exact .nil
  | cons part rest ih =>
    cases own : (Node.ofSection part).result with
    | error cause =>
      rw [ofSections_cons_of_error own] at accepted
      cases accepted
    | ok node =>
      rw [ofSections_cons_of_ok own] at accepted ⊢
      have later := ih accepted
      by_cases kind : part.kind = .test
      · obtain ⟨clean, test, rfl, same⟩ := Node.test?_of_test kind own
        rw [List.filter_cons_of_pos (by simpa using kind)]
        exact .cons ⟨clean, same⟩ later
      · have absent := Node.test?_of_ne kind own
        rw [List.filter_cons_of_neg (by simpa using kind), ScriptReading.withSection,
          List.filterMap_append]
        cases node with
        | none => exact later
        | some node => simpa [show node.test? = none from absent] using later

end ScriptReading

namespace Script

/-- A command of a test section is read from a logical line, and its number is that of the physical
line of the script on which the first token of the logical line stands: reading that physical line
alone finds this token first. -/
structure StandsAt (lines : List (List Char)) (part : Section) (line : TokenLine)
    (command : Command) : Prop extends Test.ReadFrom line command where
  /-- The first token of the logical line is the first token of the physical line. -/
  first : ∃ physical, lines[command.line - 1]? = some physical ∧
    Cursor.peek ⟨physical, command.line⟩ = line.first
  /-- The physical line stands after the header of the section and before the next one. -/
  covers : part.Covers lines command.line

/-- A test is read from a section of a script. -/
structure TestOf (lines : List (List Char)) (part : Section) (test : Test) : Prop where
  /-- A header of a test section stands on the line before the body. -/
  header : ∃ header, lines[part.firstLine - 2]? = some header ∧
    Section.isHeader header = true ∧ Section.kindOfHeader header = .ok .test
  /-- The commands are those of the logical lines of the body that are commands, in order. -/
  commands : List.Forall₂ (StandsAt lines part)
    ((TokenLine.ofText part.body part.firstLine).filter Test.opensCommand) test.commands

/-- A command that is read from a logical line of a body has the number of its physical line in the
script. -/
theorem standsAt_of_readFrom {lines : List (List Char)} {header : List Char × Nat}
    {part : Section} (whole : AreLines lines) (opened : Section.OpenedBy lines header part)
    (other : part.kind ≠ .passthrough) {line : TokenLine} {command : Command}
    (found : line ∈ TokenLine.ofText part.body part.firstLine)
    (read : Test.ReadFrom line command) : StandsAt lines part line command := by
  obtain ⟨index, physical, placed, number, opens⟩ :=
    TokenLine.exists_physicalLine_of_mem_ofText found
  obtain ⟨covers, stands⟩ := opened.covers_of_getElem? whole other placed
  have same := read.number
  rw [← number, ← same] at covers stands
  exact ⟨read, ⟨physical, stands, same ▸ opens⟩, covers⟩

/-- The test of a test section is read from the section. -/
theorem testOf_section {strict : Bool} {lines : List (List Char)} {sections : List Section}
    {part : Section} {test : Test} (whole : AreLines lines)
    (split : Section.Sections strict lines sections) (listed : part ∈ sections)
    (kind : part.kind = .test) (clean : (Test.read part.body part.firstLine).failure = none)
    (same : test.commands = (Test.read part.body part.firstLine).commands) :
    TestOf lines part test := by
  obtain ⟨header, among, opened⟩ := split.exists_header listed
  obtain ⟨_, placed, opens⟩ := Section.getElem?_of_mem_headers among
  refine ⟨⟨header.1, ?_, opens, kind ▸ opened.kind⟩, ?_⟩
  · rw [opened.firstLine]
    exact placed
  · have commands := Test.forall₂_readLines clean
    have within : ∀ line ∈ (TokenLine.ofText part.body part.firstLine).filter Test.opensCommand,
        line ∈ TokenLine.ofText part.body part.firstLine :=
      fun _ found => List.mem_of_mem_filter found
    rw [same]
    refine List.Forall₂.imp ?_ ((List.forall₂_and_left _ _).mpr ⟨within, commands⟩)
    rintro line command ⟨found, read⟩
    exact standsAt_of_readFrom whole opened (by simp [kind]) found read

/-- The commands of a test stand on lines of its section. -/
theorem TestOf.covers {lines : List (List Char)} {part : Section} {test : Test}
    (read : TestOf lines part test) {command : Command} (listed : command ∈ test.commands) :
    part.Covers lines command.line := by
  obtain ⟨_, _, stands⟩ := exists_of_mem_right read.commands listed
  exact stands.covers

/-- The numbers of the commands of a test grow. -/
theorem TestOf.pairwise {lines : List (List Char)} {part : Section} {test : Test}
    (read : TestOf lines part test) :
    test.commands.Pairwise fun earlier later => earlier.line < later.line := by
  have numbers : ((TokenLine.ofText part.body part.firstLine).filter Test.opensCommand).map
      TokenLine.line = test.commands.map Command.line := by
    rw [← List.forall₂_eq_eq_eq, List.forall₂_map_left_iff, List.forall₂_map_right_iff]
    exact read.commands.imp fun _ _ stands => stands.number.symm
  have ordered := (TokenLine.pairwise_ofTokens (Cursor.inOrder_tokens
    (Cursor.ofText part.body part.firstLine))).filter Test.opensCommand
  rw [← List.pairwise_map (f := TokenLine.line) (R := fun earlier later => earlier < later)]
    at ordered
  rw [← List.pairwise_map (f := Command.line) (R := fun earlier later => earlier < later),
    ← numbers]
  exact ordered

/-- The numbers of the commands of tests that are read from sections in order grow. -/
theorem pairwise_commands {lines : List (List Char)} {parts : List Section} {tests : List Test}
    (read : List.Forall₂ (TestOf lines) parts tests)
    (ordered : parts.Pairwise fun earlier later => ∀ first second,
      earlier.Covers lines first → later.Covers lines second → first < second) :
    (tests.flatMap Test.commands).Pairwise fun earlier later => earlier.line < later.line := by
  induction read with
  | nil => exact List.Pairwise.nil
  | cons own others ih =>
    obtain ⟨before, after⟩ := List.pairwise_cons.mp ordered
    rw [List.flatMap_cons, List.pairwise_append]
    refine ⟨own.pairwise, ih after, fun earlier first later listed => ?_⟩
    obtain ⟨test, among, second⟩ := List.mem_flatMap.mp listed
    obtain ⟨part, found, inside⟩ := exists_of_mem_right others among
    exact before part found _ _ (own.covers first) (inside.covers second)

/-- The tests of a script are read from its test sections, one by one. -/
theorem forall₂_testOf {strict : Bool} {lines : List (List Char)} {sections : List Section}
    (whole : AreLines lines) (split : Section.Sections strict lines sections)
    (accepted : (ScriptReading.ofSections sections).failure = none) :
    List.Forall₂ (TestOf lines) (sections.filter (·.kind = .test))
      ((ScriptReading.ofSections sections).nodes.filterMap Node.test?) := by
  have among : ∀ part ∈ sections.filter (·.kind = .test), part ∈ sections ∧ part.kind = .test :=
    fun part found => by simpa using List.mem_filter.mp found
  refine List.Forall₂.imp ?_
    ((List.forall₂_and_left _ _).mpr ⟨among, ScriptReading.forall₂_tests accepted⟩)
  rintro part test ⟨⟨listed, kind⟩, clean, same⟩
  exact testOf_section whole split listed kind clean same

/-- A section that is refused covers the line that the error names, which is a line of the
script. -/
theorem covers_of_refused {strict : Bool} {lines : List (List Char)} {sections : List Section}
    {part : Section} {error : ScriptError} (whole : AreLines lines)
    (split : Section.Sections strict lines sections) (listed : part ∈ sections)
    (refused : (Node.ofSection part).result = .error error) :
    ∃ number cause, error = .line ⟨number, cause⟩ ∧ 0 < number ∧ number ≤ lines.length ∧
      part.Covers lines number := by
  obtain ⟨other, number, cause, same, index, line, placed, rfl⟩ := Node.ofSection_error refused
  obtain ⟨header, _, opened⟩ := split.exists_header listed
  have first := opened.firstLine
  obtain ⟨covers, _⟩ := opened.covers_of_getElem? whole other placed
  obtain ⟨low, high⟩ := covers.le_length (by omega)
  exact ⟨_, cause, same, low, high, covers⟩

/-- The lines of a text that a source holds are numbered alike everywhere. Every command has the
number of the physical line on which its first token stands, and these numbers grow along the
script. An error names a physical line, and one that the body of a section gives names a line that
the section covers. -/
theorem lines_of_load {files : Files} {source : Source} {text : String}
    (holds : source.Holds files text) (config : Config) :
    match (load files config source).2 with
    | .ok script =>
      ∃ sections, (Section.split files config.strict source).2 = .ok sections ∧
        List.Forall₂ (TestOf (physicalLines text.toList)) (sections.filter (·.kind = .test))
          script.tests ∧
        script.commands.Pairwise fun earlier later => earlier.line < later.line
    | .error error =>
      ∃ number cause, error = .line ⟨number, cause⟩ ∧ 0 < number ∧
        number ≤ (physicalLines text.toList).length ∧
        ∀ sections, (Section.split files config.strict source).2 = .ok sections →
          ∃ part ∈ sections, (Node.ofSection part).result = .error error ∧
            part.Covers (physicalLines text.toList) number := by
  have whole := areLines_physicalLines text.toList
  cases result : Section.split files config.strict source with
  | mk records outcome =>
    have split := (Section.split_of_holds holds config.strict).symm
    rw [result] at split
    cases outcome with
    | error error =>
      simp only [load, ScriptReading.ofSource, result]
      obtain ⟨number, cause, rfl, low, high⟩ := Section.splitLines_eq_error (map_eq_error.mp split)
      refine ⟨number, cause, rfl, low, by omega, fun sections found => ?_⟩
      cases found
    | ok sections =>
      have parts := Section.splitLines_start_eq_ok_iff.mp split
      cases failed : (ScriptReading.ofSections sections).failure with
      | some error =>
        simp only [load, ScriptReading.ofSource, result, failed]
        obtain ⟨part, listed, refused⟩ := ScriptReading.exists_of_failure failed
        obtain ⟨number, cause, same, low, high, covers⟩ :=
          covers_of_refused whole parts listed refused
        refine ⟨number, cause, same, low, high, fun others found => ?_⟩
        obtain rfl := Except.ok.inj found
        exact ⟨part, listed, refused, covers⟩
      | none =>
        simp only [load, ScriptReading.ofSource, result, failed]
        have tests := forall₂_testOf whole parts failed
        have ordered := parts.pairwise_covers.filter (·.kind = .test)
        exact ⟨sections, rfl, tests, pairwise_commands tests ordered⟩

/-- A script with two tests, joined lines, and a command in a comment section between them. -/
def joinedScript : String :=
  "[test]\n\n\\\n clear # x\n[comment]\nclear\n[test]\nlineWidth 2\nclear \\\n depth 1\n"

/-- The commands of a script stand on the lines of their first tokens. -/
theorem lines_of_load_joinedScript :
    Source.Holds (fun _ => .ok .empty) ⟨.text joinedScript, []⟩ joinedScript ∧
    ∃ (script : Script) (sections : List Section),
      (load (fun _ => .ok .empty) Config.default ⟨.text joinedScript, []⟩).2 = .ok script ∧
      script.commands.map Command.line = [4, 9] ∧
      List.Forall₂ (TestOf (physicalLines joinedScript.toList))
        (sections.filter (·.kind = .test)) script.tests := by
  have holds := Source.holds_text (fun _ => .ok .empty) joinedScript
  have lines := lines_of_load holds Config.default
  have numbers : (load (fun _ => .ok .empty) Config.default
      ⟨.text joinedScript, []⟩).2.toOption.map (fun script => script.commands.map Command.line) =
        some [4, 9] := by decide +kernel
  revert lines numbers
  cases (load (fun _ => .ok .empty) Config.default ⟨.text joinedScript, []⟩).2 with
  | error error => simp [Except.toOption]
  | ok script =>
    rintro ⟨sections, _, tests, _⟩ numbers
    exact ⟨holds, script, sections, rfl, Option.some.inj numbers, tests⟩

end Script

end GpuScript
