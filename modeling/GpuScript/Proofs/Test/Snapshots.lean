import GpuScript.Proofs.Command.Snapshot
import GpuScript.Proofs.Test.Settings
import GpuScript.Proofs.Token.Runs

/-!
# Snapshots of the pipeline state

Property lines alone make up the pipeline state, and a command only looks at it. The state that a
command carries is therefore that of the property lines before it, read without any command, and
the state at the end is that of all property lines (`Test.snapshots_of_parse`).
-/

namespace GpuScript.Test

open TokenLine

/-- A line that names no property leaves the pipeline state as it is. -/
theorem pipeline_readLine {line : TokenLine} (other : line.property? = none)
    (pipeline : Pipeline) : (readLine pipeline line).pipeline = pipeline := by
  rcases readLine_cases line pipeline with ⟨_, _, read⟩ | ⟨property, named, _⟩ | ⟨_, _, _, read⟩
  · rw [read]
  · rw [other] at named
    cases named
  · rw [read]

/-- A line that names a property gives no operation. -/
theorem operation_readLine {line : TokenLine} (named : line.property?.isSome)
    (pipeline : Pipeline) (operation : Operation) :
    (readLine pipeline line).operation ≠ .ok (some operation) := by
  intro accepted
  obtain ⟨property, found, given⟩ := sets_of_readLine named accepted
  obtain ⟨value, setting⟩ := Option.isSome_iff_exists.mp given
  rw [readLine_of_setting found setting] at accepted
  cases accepted

/-- A line that is accepted is a command unless it names a property. -/
theorem opensCommand_of_readLine {line : TokenLine} {pipeline : Pipeline}
    {operation : Option Operation} (accepted : (readLine pipeline line).operation = .ok operation) :
    opensCommand line = !line.property?.isSome := by
  rcases readLine_cases line pipeline with ⟨_, _, read⟩ | ⟨property, named, plain, _⟩ |
    ⟨_, other, opens, _⟩
  · rw [read] at accepted
    cases accepted
  · rw [plain, named]
    rfl
  · rw [opens, other]
    rfl

/-- The operation of a line carries no pipeline state but the one before the line. -/
theorem snapshot_of_readLine {line : TokenLine} {pipeline snapshot : Pipeline}
    {operation : Operation} (accepted : (readLine pipeline line).operation = .ok (some operation))
    (carried : operation.pipeline? = some snapshot) : snapshot = pipeline := by
  rcases readLine_cases line pipeline with ⟨_, _, read⟩ | ⟨property, named, _⟩ |
    ⟨name, _, _, read⟩
  · rw [read] at accepted
    cases accepted
  · exact absurd accepted (operation_readLine (by rw [named]; rfl) pipeline operation)
  · rw [read] at accepted
    obtain ⟨made, own, same⟩ := map_eq_ok.mp accepted
    obtain rfl := Option.some.inj same
    exact Command.carries_readOperation pipeline line.rest name made own snapshot carried

/-- Lines that are accepted leave the pipeline state that their property lines alone leave, which
give no command. -/
theorem readLines_filter_property {lines : List TokenLine} {pipeline : Pipeline}
    (accepted : (readLines pipeline lines).failure = none) :
    readLines pipeline (lines.filter (·.property?.isSome)) =
      ⟨[], (readLines pipeline lines).pipeline, none⟩ := by
  induction lines generalizing pipeline with
  | nil => rfl
  | cons line rest ih =>
    obtain ⟨operation, result⟩ := exists_operation_of_readLines accepted
    rw [readLines_cons_of_ok result] at accepted ⊢
    have inner := ih accepted
    rw [List.filter_cons]
    by_cases named : line.property?.isSome
    · obtain rfl : operation = none := Option.eq_none_iff_forall_ne_some.mpr
        fun made same => operation_readLine named pipeline made (same ▸ result)
      rw [if_pos named, readLines_cons_of_ok result, inner]
      rfl
    · rw [Option.not_isSome_iff_eq_none] at named
      rw [pipeline_readLine named] at inner ⊢
      rw [named, if_neg (by simp)]
      exact inner

/-- A command of accepted lines is read from one of them, in the pipeline state that the lines
before it leave. -/
theorem exists_split_of_mem_commands {lines : List TokenLine} {pipeline : Pipeline}
    {command : Command} (accepted : (readLines pipeline lines).failure = none)
    (listed : command ∈ (readLines pipeline lines).commands) :
    ∃ before line after, lines = before ++ line :: after ∧ command.line = line.line ∧
      (readLines pipeline before).failure = none ∧
      (readLine (readLines pipeline before).pipeline line).operation =
        .ok (some command.operation) := by
  induction lines generalizing pipeline with
  | nil => cases listed
  | cons line rest ih =>
    obtain ⟨operation, result⟩ := exists_operation_of_readLines accepted
    rw [readLines_cons_of_ok result] at accepted listed
    rcases List.mem_append.mp listed with here | beyond
    · obtain ⟨made, among, rfl⟩ := List.mem_map.mp here
      obtain rfl := Option.mem_toList.mp among
      exact ⟨[], line, rest, rfl, rfl, rfl, result⟩
    · obtain ⟨before, other, after, rfl, number, clean, read⟩ := ih accepted beyond
      have front := readLines_cons_of_ok result before
      exact ⟨line :: before, other, after, rfl, number, front ▸ clean, front ▸ read⟩

/-- Of lines in order, those before one of them are the ones that start before it. -/
theorem filter_line_lt {before after : List TokenLine} {line : TokenLine}
    (ordered : (before ++ line :: after).Pairwise fun earlier later => earlier.line < later.line)
    (keep : TokenLine → Bool) :
    (before ++ line :: after).filter (fun other => keep other && other.line < line.line) =
      before.filter keep := by
  obtain ⟨_, behind, across⟩ := List.pairwise_append.mp ordered
  have later : (line :: after).filter (fun other => keep other && other.line < line.line) = [] := by
    refine List.filter_eq_nil_iff.mpr fun other listed => ?_
    have least : line.line ≤ other.line := by
      rcases List.mem_cons.mp listed with rfl | beyond
      · exact Nat.le_refl _
      · exact Nat.le_of_lt ((List.pairwise_cons.mp behind).1 other beyond)
    simp only [Bool.and_eq_true, decide_eq_true_eq]
    omega
  rw [List.filter_append, later, List.append_nil]
  refine List.filter_congr fun other listed => ?_
  rw [decide_eq_true (across other listed line List.mem_cons_self), Bool.and_true]

/-- A body that keeps some property lines of an accepted body is accepted without a command, with
the pipeline state that those lines leave. -/
theorem parse_keepText {text : String} {firstLine : Nat} {test : Test}
    (accepted : parse text firstLine = .ok test) {keep : Option TokenLine → Bool}
    {lines : List TokenLine} {pipeline : Pipeline}
    (kept : (ofText text firstLine).filter (fun line => keep (some line)) =
      lines.filter (·.property?.isSome))
    (read : (readLines Pipeline.default lines).failure = none)
    (final : (readLines Pipeline.default lines).pipeline = pipeline) :
    parse (keepText keep text firstLine) firstLine = .ok ⟨[], pipeline⟩ := by
  have same := map_unplaced_ofText_keepText keep text firstLine firstLine
  rw [kept] at same
  have sets : ∀ line ∈ lines.filter (·.property?.isSome), line.Sets := by
    intro line listed
    have among := List.mem_of_mem_filter (kept ▸ listed)
    exact sets_of_parse accepted among (List.mem_filter.mp listed).2
  have whole := readLines_of_map_unplaced same sets Pipeline.default
  rw [readLines_filter_property read, final] at whole
  rw [parse_eq_ok_iff, Test.read, whole]
  exact ⟨rfl, rfl⟩

/-- The pipeline state that a command of an accepted body carries is the one at the end of a body
with only the property lines before the command. The body without its command lines has no commands
and ends with the same pipeline state, since command lines leave the state as it is and property
lines give no operation. -/
theorem snapshots_of_parse {text : String} {firstLine : Nat} {test : Test}
    (accepted : parse text firstLine = .ok test) :
    (∀ command ∈ test.commands, ∀ snapshot, command.operation.pipeline? = some snapshot →
      parse (keepText (fun line? => line?.any fun line =>
          line.property?.isSome && line.line < command.line) text firstLine) firstLine =
        .ok ⟨[], snapshot⟩) ∧
    parse (keepText (fun line? => !line?.any opensCommand) text firstLine) firstLine =
      .ok ⟨[], test.pipeline⟩ ∧
    ∀ line ∈ ofText text firstLine, ∀ pipeline,
      (opensCommand line = true → (readLine pipeline line).pipeline = pipeline) ∧
      (line.property?.isSome → ∀ operation,
        (readLine pipeline line).operation ≠ .ok (some operation)) := by
  obtain ⟨clean, whole⟩ := parse_eq_ok_iff.mp accepted
  have kinds : ∀ line ∈ ofText text firstLine, opensCommand line = !line.property?.isSome := by
    intro line listed
    obtain ⟨_, _, read⟩ := exists_readLine_of_mem clean listed
    exact opensCommand_of_readLine read
  refine ⟨fun command listed snapshot carried => ?_, ?_, fun line listed pipeline => ⟨?_, ?_⟩⟩
  · rw [← whole] at listed
    obtain ⟨before, line, after, split, number, read, own⟩ :=
      exists_split_of_mem_commands clean listed
    have ordered : (ofText text firstLine).Pairwise fun earlier later =>
        earlier.line < later.line := pairwise_ofTokens (Cursor.inOrder_tokens _)
    rw [split] at ordered
    have kept := filter_line_lt ordered (·.property?.isSome)
    rw [← number, ← split] at kept
    exact parse_keepText accepted kept read (snapshot_of_readLine own carried).symm
  · have kept : (ofText text firstLine).filter (fun line => !(some line).any opensCommand) =
        (ofText text firstLine).filter (·.property?.isSome) := by
      refine List.filter_congr fun line listed => ?_
      rw [Option.any_some, kinds line listed, Bool.not_not]
    exact parse_keepText accepted kept clean (congrArg Test.pipeline whole)
  · intro opens
    have other : line.property? = none := by
      rw [kinds line listed] at opens
      simpa using opens
    exact pipeline_readLine other pipeline
  · intro named operation
    exact operation_readLine named pipeline operation

/-- A body in which property lines and commands take turns. -/
def turns : String :=
  "depthTestEnable true\ndraw rect 0 0 1 1\n# back\ndepthTestEnable \\\n false\ncompute 1 2 3\n"

/-- Both commands of the body carry the pipeline state of the property lines before them, and the
body without its commands keeps its comment and its joined lines. -/
theorem snapshots_of_parse_turns :
    ∃ test, parse turns 1 = .ok test ∧ test.commands.length = 2 ∧
      (∀ command ∈ test.commands, ∃ snapshot, command.operation.pipeline? = some snapshot ∧
        parse (keepText (fun line? => line?.any fun line =>
            line.property?.isSome && line.line < command.line) turns 1) 1 = .ok ⟨[], snapshot⟩) ∧
      keepText (fun line? => !line?.any opensCommand) turns 1 =
        "depthTestEnable true\n# back\ndepthTestEnable \\\n false\n" ∧
      parse "depthTestEnable true\n# back\ndepthTestEnable \\\n false\n" 1 =
        .ok ⟨[], test.pipeline⟩ := by
  have whole : (read turns 1).failure = none ∧ (read turns 1).commands.length = 2 ∧
      ∀ command ∈ (read turns 1).commands, command.operation.pipeline?.isSome = true := by
    decide +kernel
  have left : keepText (fun line? => !line?.any opensCommand) turns 1 =
      "depthTestEnable true\n# back\ndepthTestEnable \\\n false\n" := by decide +kernel
  obtain ⟨clean, count, carried⟩ := whole
  have accepted := parse_eq_ok_iff.mpr ⟨clean, rfl⟩
  obtain ⟨before, without, _⟩ := snapshots_of_parse accepted
  rw [left] at without
  refine ⟨_, accepted, count, fun command listed => ?_, left, without⟩
  obtain ⟨snapshot, found⟩ := Option.isSome_iff_exists.mp (carried command listed)
  exact ⟨snapshot, found, before command listed snapshot found⟩

end GpuScript.Test
