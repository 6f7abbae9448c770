import GpuScript.Proofs.Command.Form
import GpuScript.Proofs.Test.Snapshots

/-!
# What a refused line leaves

Reading ends at the first line that is refused, so the pipeline state at the end is the one that the
lines before it leave, up to what the refused line itself has done. That is nothing for a command,
and nothing for a property line whose value is refused. But a value is stored as soon as it is read,
before the end of the line is looked for: if something follows it, the line is refused and its value
stays (`Test.pipeline_of_refused`).
-/

namespace GpuScript

open Command

/-- The operands of a property line give a value to the property, and something follows it. -/
def TokenLine.Overfull (line : TokenLine) (property : Property) (value : property.Value) : Prop :=
  line.property? = some property ∧
    ∃ token rest, propertyValue property line.rest = .ok (value, token :: rest)

/-- A value that a property has already changes nothing. -/
theorem Pipeline.set_eq_self_iff (pipeline : Pipeline) {property : Property}
    {value : property.Value} :
    pipeline.set property value = pipeline ↔ pipeline.get property = value := by
  constructor
  · intro same
    have own := congrFun (pipeline.get_set_eq_update property value) property
    rw [Function.update_self, same] at own
    exact own
  · intro own
    refine Pipeline.bijective_get.injective ?_
    rw [Pipeline.get_set_eq_update, ← own, Function.update_eq_self]

namespace Test

open TokenLine

/-- A line with something behind its value is refused for that, and stores the value. -/
theorem readLine_of_overfull {line : TokenLine} {property : Property} {value : property.Value}
    (overfull : line.Overfull property value) (pipeline : Pipeline) :
    readLine pipeline line =
      ⟨pipeline.set property value, .error (.extraPropertyOperand property)⟩ := by
  obtain ⟨named, token, rest, read⟩ := overfull
  rw [readLine_of_property named, readProperty, read]
  rfl

/-- Any other line that is refused leaves the pipeline state as it is. -/
theorem pipeline_readLine_of_refused {line : TokenLine} {pipeline : Pipeline} {cause : Error}
    (refused : (readLine pipeline line).operation = .error cause)
    (within : ∀ property value, ¬ line.Overfull property value) :
    (readLine pipeline line).pipeline = pipeline := by
  cases named : line.property? with
  | none => exact pipeline_readLine named pipeline
  | some property =>
    rw [readLine_of_property named, readProperty] at refused ⊢
    cases read : propertyValue property line.rest with
    | error cause => rfl
    | ok result =>
      obtain ⟨value, rest⟩ := result
      cases rest with
      | nil =>
        rw [read] at refused
        cases refused
      | cons token rest => exact absurd ⟨named, token, rest, read⟩ (within property value)

/-- A refused line leaves the pipeline state as it is exactly if it has no value to store, or one
that the property has already. -/
theorem pipeline_readLine_eq_iff {line : TokenLine} {pipeline : Pipeline} {cause : Error}
    (refused : (readLine pipeline line).operation = .error cause) :
    (readLine pipeline line).pipeline = pipeline ↔
      ∀ property value, line.Overfull property value → pipeline.get property = value := by
  constructor
  · intro same property value overfull
    rw [readLine_of_overfull overfull] at same
    exact pipeline.set_eq_self_iff.mp same
  · intro settled
    by_cases within : ∀ property value, ¬ line.Overfull property value
    · exact pipeline_readLine_of_refused refused within
    · push Not at within
      obtain ⟨property, value, overfull⟩ := within
      rw [readLine_of_overfull overfull]
      exact pipeline.set_eq_self_iff.mpr (settled property value overfull)

/-- Lines of which one is refused are accepted up to that one, which is read in the pipeline state
that they leave and has the last word on it. -/
theorem exists_split_of_failure {lines : List TokenLine} {pipeline : Pipeline}
    {failure : Located Error} (refused : (readLines pipeline lines).failure = some failure) :
    ∃ before line after, lines = before ++ line :: after ∧ failure.line = line.line ∧
      (readLines pipeline before).failure = none ∧
      (readLine (readLines pipeline before).pipeline line).operation = .error failure.cause ∧
      (readLines pipeline lines).pipeline =
        (readLine (readLines pipeline before).pipeline line).pipeline := by
  induction lines generalizing pipeline with
  | nil => cases refused
  | cons line rest ih =>
    cases result : (readLine pipeline line).operation with
    | error cause =>
      rw [readLines, result] at refused ⊢
      obtain rfl := Option.some.inj refused
      exact ⟨[], line, rest, rfl, rfl, rfl, result, rfl⟩
    | ok operation =>
      rw [readLines_cons_of_ok result] at refused ⊢
      obtain ⟨before, other, after, rfl, number, clean, own, final⟩ := ih refused
      have front := readLines_cons_of_ok result before
      refine ⟨line :: before, other, after, rfl, number, ?_⟩
      rw [front]
      exact ⟨clean, own, final⟩

/-- What lines leave does not depend on their numbers. -/
theorem pipeline_readLines_of_map_unplaced {lines others : List TokenLine}
    (same : others.map unplaced = lines.map unplaced) {pipeline : Pipeline}
    (accepted : (readLines pipeline lines).failure = none) :
    (readLines pipeline others).failure = none ∧
      (readLines pipeline others).pipeline = (readLines pipeline lines).pipeline := by
  induction lines generalizing others pipeline with
  | nil =>
    obtain rfl := List.map_eq_nil_iff.mp same
    exact ⟨rfl, rfl⟩
  | cons line rest ih =>
    obtain ⟨other, more, rfl, alike, later⟩ := List.map_eq_cons_iff.mp same
    have read : readLine pipeline other = readLine pipeline line := by
      rw [← readLine_unplaced pipeline other, alike, readLine_unplaced]
    obtain ⟨operation, result⟩ := exists_operation_of_readLines accepted
    have own : (readLine pipeline other).operation = .ok operation := read ▸ result
    rw [readLines_cons_of_ok result] at accepted ⊢
    rw [readLines_cons_of_ok own, read]
    exact ih later accepted

/-- The body of a test section without the line with a number and without the lines after it. -/
def textBefore (number : Nat) (text : String) (firstLine : Nat) : String :=
  keepText (fun line? => line?.any fun line => line.line < number) text firstLine

/-- A body is refused for the first line that is. -/
theorem parse_eq_error_iff {text : String} {firstLine : Nat} {failure : Located Error} :
    parse text firstLine = .error failure ↔ (read text firstLine).failure = some failure := by
  unfold parse
  cases result : (read text firstLine).failure with
  | none => simp [result]
  | some other => simp [result]

/-- The lines before the one that is refused make up a body that is accepted, and the refused line
is read in the pipeline state at the end of that body. -/
theorem exists_parse_textBefore {text : String} {firstLine : Nat} {failure : Located Error}
    (refused : parse text firstLine = .error failure) :
    ∃ line ∈ ofText text firstLine, ∃ before : Test, failure.line = line.line ∧
      parse (textBefore failure.line text firstLine) firstLine = .ok before ∧
      (readLine before.pipeline line).operation = .error failure.cause ∧
      (read text firstLine).pipeline = (readLine before.pipeline line).pipeline := by
  obtain ⟨before, line, after, split, number, clean, own, final⟩ :=
    exists_split_of_failure (parse_eq_error_iff.mp refused)
  have ordered : (ofText text firstLine).Pairwise fun earlier later =>
      earlier.line < later.line := pairwise_ofTokens (Cursor.inOrder_tokens _)
  have kept : (ofText text firstLine).filter
      (fun other => (some other).any fun other => other.line < failure.line) = before := by
    rw [split] at ordered
    have earlier := filter_line_lt ordered fun _ => true
    rw [← number, ← split, List.filter_true] at earlier
    exact earlier
  have same := map_unplaced_ofText_keepText
    (fun line? => line?.any fun line => line.line < failure.line) text firstLine firstLine
  rw [kept] at same
  obtain ⟨accepted, left⟩ := pipeline_readLines_of_map_unplaced same clean
  have listed : line ∈ ofText text firstLine := by
    rw [split]
    exact List.mem_append_right before List.mem_cons_self
  rw [← left] at own final
  exact ⟨line, listed, _, number, parse_eq_ok_iff.mpr ⟨accepted, rfl⟩, own, final⟩

/-- A body with a line that is refused leaves the pipeline state of the lines before that one,
unless the line has stored a value of its own. That is so exactly if something follows the value,
and the value is seen unless the property had it already. -/
theorem pipeline_of_refused {text : String} {firstLine : Nat} {failure : Located Error}
    (refused : parse text firstLine = .error failure) :
    ∃ line ∈ ofText text firstLine, ∃ before : Test, failure.line = line.line ∧
      parse (textBefore failure.line text firstLine) firstLine = .ok before ∧
      (readLine before.pipeline line).operation = .error failure.cause ∧
      (∀ property value, line.Overfull property value →
        failure.cause = .extraPropertyOperand property ∧
          (read text firstLine).pipeline = before.pipeline.set property value) ∧
      ((read text firstLine).pipeline = before.pipeline ↔
        ∀ property value, line.Overfull property value →
          before.pipeline.get property = value) := by
  obtain ⟨line, listed, before, number, accepted, own, final⟩ := exists_parse_textBefore refused
  refine ⟨line, listed, before, number, accepted, own, fun property value overfull => ?_, ?_⟩
  · have whole := readLine_of_overfull overfull before.pipeline
    rw [whole] at own final
    exact ⟨(Except.error.inj own).symm, final⟩
  · rw [final]
    exact pipeline_readLine_eq_iff own

/-- A body whose third line has an operand too many, behind a line that sets the same property. -/
def overfullText : String :=
  "lineWidth 4\nclear\nlineWidth 2 3\nclear\n"

/-- The line is refused for the operand behind its value, and yet the value stays. -/
theorem pipeline_of_refused_overfullText :
    parse overfullText 1 = .error ⟨3, .extraPropertyOperand (.scalar .lineWidth)⟩ ∧
    textBefore 3 overfullText 1 = "lineWidth 4\nclear\n" ∧
    parse "lineWidth 4\nclear\n" 1 =
      .ok ⟨[⟨2, .clear⟩], { Pipeline.default with lineWidth := Binary.ofInt 4 }⟩ ∧
    (read overfullText 1).pipeline = { Pipeline.default with lineWidth := Binary.ofInt 2 } := by
  have refused : parse overfullText 1 =
      .error ⟨3, .extraPropertyOperand (.scalar .lineWidth)⟩ := by decide +kernel
  have left : textBefore 3 overfullText 1 = "lineWidth 4\nclear\n" := by decide +kernel
  have first : parse "lineWidth 4\nclear\n" 1 =
      .ok ⟨[⟨2, .clear⟩], { Pipeline.default with lineWidth := Binary.ofInt 4 }⟩ := by
    decide +kernel
  have third : ∀ line ∈ ofText overfullText 1, line.line = 3 →
      line = ⟨⟨.word, "lineWidth", 3⟩, [⟨.integer 2, "2", 3⟩, ⟨.integer 3, "3", 3⟩]⟩ := by
    decide +kernel
  obtain ⟨line, listed, before, number, accepted, -, stored, -⟩ := pipeline_of_refused refused
  have overfull : line.Overfull (.scalar .lineWidth) (Binary.ofInt 2) := by
    rw [third line listed number.symm]
    exact ⟨by decide +kernel, ⟨.integer 3, "3", 3⟩, [], by decide +kernel⟩
  obtain rfl := Except.ok.inj ((left ▸ first).symm.trans accepted)
  exact ⟨refused, left, first, (stored _ _ overfull).2⟩

end Test

end GpuScript
