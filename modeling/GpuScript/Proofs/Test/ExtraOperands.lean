import GpuScript.Proofs.Command.ExtraOperand
import GpuScript.Proofs.Test.Refusal

/-!
# Lines with an operand too many

A line that is accepted and has a fixed number of operands (`TokenLine.Full`) is refused as soon as
anything stands behind its last operand, with a message that says so, and no command comes of it
(`Test.parse_of_extra_operand`).

Lines with lists of values, tolerances or names are not of this kind. An instanced draw without the
number of instances has room for that number, and the bracket behind a probe that closes a tuple is
refused as a bracket.
-/

namespace GpuScript

open Command

namespace TokenLine

/-- The line with tokens behind its last one. -/
def followedBy (line : TokenLine) (behind : List Token) : TokenLine :=
  ⟨line.first, line.rest ++ behind⟩

/-- The line is accepted in a pipeline state and has a fixed number of operands, so that another one
is refused for the given cause. -/
inductive Full (pipeline : Pipeline) (line : TokenLine) : Error → Prop
  /-- A command whose form has a fixed number of operands, none of them left out. -/
  | command {operation : Operation} {form : Form} (fixed : operation.form? = some form)
    (accepted : (Test.readLine pipeline line).operation = .ok (some operation))
    (counted : form = .drawArrays → ¬ OmitsInstances line.rest) :
    Full pipeline line (.extraOperand form)
  /-- A property with a single value. -/
  | property {property : Property} (named : line.property? = some property)
    (single : property ≠ .cullMode ∧ property ≠ .colorWriteMask)
    (accepted : (Test.readLine pipeline line).operation = .ok none) :
    Full pipeline line (.extraPropertyOperand property)

end TokenLine

/-- The message for an operand too many says so, for every form. -/
theorem Command.Form.prefix_extraMessage (form : Form) :
    "Extra parameter".toList <+: form.extraMessage.toList := by
  refine List.isPrefixOf_iff_prefix.mp ?_
  cases form <;> decide +kernel

namespace TokenLine.Full

variable {pipeline : Pipeline} {line : TokenLine} {cause : Error}

/-- The message for what is refused says that an operand is too many. -/
theorem prefix_message (full : line.Full pipeline cause) :
    "Extra parameter".toList <+: cause.message.toList := by
  cases full with
  | @command _ form =>
    have own : (Error.extraOperand form).message = form.extraMessage := rfl
    exact own ▸ form.prefix_extraMessage
  | @property property =>
    have own : (Error.extraPropertyOperand property).message =
        "Extra parameter" ++ (" for " ++ property.name ++ " command") := by
      rw [← String.append_assoc, ← String.append_assoc]
      rfl
    rw [own, String.toList_append]
    exact List.prefix_append _ _

/-- A line with something behind its operands is refused for that. -/
theorem readLine_followedBy (full : line.Full pipeline cause) {extra : Token}
    (unclosed : cause = .extraOperand .probe → extra.kind ≠ .closeBracket) (more : List Token) :
    (Test.readLine pipeline (line.followedBy (extra :: more))).operation = .error cause := by
  cases full with
  | @command operation form fixed accepted counted =>
    have unnamed : line.property? = none := by
      refine Option.eq_none_iff_forall_ne_some.mpr fun property named => ?_
      exact Test.operation_readLine (by rw [named]; rfl) pipeline operation accepted
    obtain ⟨name, word⟩ : ∃ name, line.first.word? = some name := by
      refine Option.ne_none_iff_exists'.mp fun none => ?_
      rw [Test.readLine, none] at accepted
      cases accepted
    rw [TokenLine.property?, word, Option.bind_some] at unnamed
    simp only [Test.readLine, word, unnamed] at accepted
    simp only [Test.readLine, TokenLine.followedBy, word, unnamed]
    obtain ⟨_, read, ⟨⟩⟩ := map_eq_ok.mp accepted
    refine map_eq_error.mpr (readOperation_append read fixed counted fun probes => ?_)
    exact unclosed (congrArg Error.extraOperand probes)
  | @property property named single accepted =>
    obtain ⟨other, same, given⟩ := Test.sets_of_readLine (by rw [named]; rfl) accepted
    obtain rfl := Option.some.inj (named.symm.trans same)
    obtain ⟨value, setting⟩ := Option.isSome_iff_exists.mp given
    have read : propertyValue property line.rest = .ok (value, []) := by
      unfold TokenLine.setting? at setting
      split at setting
      · rename_i found
        obtain rfl := Option.some.inj setting
        exact found
      · cases setting
    have again := isLocal_propertyValue single _ _ _ read (extra :: more)
    have overfull : (line.followedBy (extra :: more)).Overfull property value :=
      ⟨named, extra, more, again⟩
    rw [Test.readLine_of_overfull overfull]

end TokenLine.Full

namespace Test

open TokenLine

variable {pipeline : Pipeline} {line : TokenLine} {cause : Error}

/-- A line that is accepted and has a fixed number of operands is refused, in every body in which it
is reached in the same pipeline state, if anything stands behind its last operand. The message calls
that an extra parameter, and the commands are those of the lines before. -/
theorem parse_of_extra_operand (full : line.Full pipeline cause) {extra : Token}
    (unclosed : cause = .extraOperand .probe → extra.kind ≠ .closeBracket) (more : List Token) :
    "Extra parameter".toList <+: cause.message.toList ∧
    (readLine pipeline (line.followedBy (extra :: more))).operation = .error cause ∧
    ∀ text firstLine before after,
      ofText text firstLine = before ++ line.followedBy (extra :: more) :: after →
      (readLines .default before).failure = none →
      (readLines .default before).pipeline = pipeline →
      parse text firstLine = .error ⟨line.line, cause⟩ ∧
        (read text firstLine).commands = (readLines .default before).commands := by
  have refused := full.readLine_followedBy unclosed more
  refine ⟨full.prefix_message, refused, fun text firstLine before after lines clean left => ?_⟩
  have later : readLines pipeline (line.followedBy (extra :: more) :: after) =
      ⟨[], (readLine pipeline (line.followedBy (extra :: more))).pipeline,
        some ⟨line.line, cause⟩⟩ := by
    rw [readLines, refused]
    rfl
  have whole : read text firstLine =
      { readLines pipeline (line.followedBy (extra :: more) :: after) with
        commands := (readLines .default before).commands } := by
    rw [read, lines, readLines_append, TestReading.andThen, clean, left, later]
    simp
  refine ⟨parse_eq_error_iff.mpr ?_, ?_⟩
  · rw [whole, later]
  · rw [whole]

/-- A body whose third line is an instanced draw with the number of its instances. -/
def instancedText : String :=
  "lineWidth 2\nclear\ndraw arrays indexed instanced TRIANGLE_LIST 0x3 6 0\nclear\n"

/-- The same body with a bracket at the end of the draw, on a line of its own. -/
def bracketText : String :=
  "lineWidth 2\nclear\ndraw arrays indexed instanced TRIANGLE_LIST 0x3 6 0 \\\n )\nclear\n"

/-- The draw is accepted without the bracket and refused with it, and only the command before it is
there. -/
theorem parse_of_extra_operand_bracketText :
    ∃ line ∈ ofText instancedText 1, ∃ wide, line.Full wide (.extraOperand .drawArrays) ∧
      (∃ before bracket after, bracket.kind = .closeBracket ∧
        ofText bracketText 1 = before ++ line.followedBy [bracket] :: after) ∧
      parse bracketText 1 = .error ⟨3, .extraOperand .drawArrays⟩ ∧
      (read bracketText 1).commands = [⟨2, .clear⟩] ∧
      "Extra parameter".toList <+: (Error.extraOperand .drawArrays).message.toList := by
  let line : TokenLine := ⟨⟨.word, "draw", 3⟩, [⟨.word, "arrays", 3⟩, ⟨.word, "indexed", 3⟩,
    ⟨.word, "instanced", 3⟩, ⟨.word, "TRIANGLE_LIST", 3⟩, ⟨.hex 3, "0x3", 3⟩, ⟨.integer 6, "6", 3⟩,
    ⟨.integer 0, "0", 3⟩]⟩
  let bracket : Token := ⟨.closeBracket, ")", 4⟩
  let before := (ofText instancedText 1).take 2
  let wide : Pipeline := { Pipeline.default with lineWidth := Binary.ofInt 2 }
  have listed : line ∈ ofText instancedText 1 := by decide +kernel
  have accepted : (readLine wide line).operation =
      .ok (some (.drawArrays true (some 0) .triangleList 3 6 wide)) := by decide +kernel
  have counted : ¬ OmitsInstances line.rest := by decide +kernel
  have full : line.Full wide (.extraOperand .drawArrays) := .command rfl accepted fun _ => counted
  have unclosed : Error.extraOperand .drawArrays = .extraOperand .probe →
      bracket.kind ≠ .closeBracket := nofun
  have clean : (readLines .default before).failure = none := by decide +kernel
  have left : (readLines .default before).pipeline = wide := by decide +kernel
  have commands : (readLines .default before).commands = [⟨2, .clear⟩] := by decide +kernel
  have lines : ofText bracketText 1 =
      before ++ line.followedBy [bracket] :: (ofText bracketText 1).drop 3 := by decide +kernel
  obtain ⟨message, -, reading⟩ := parse_of_extra_operand full unclosed []
  obtain ⟨refused, same⟩ := reading _ _ _ _ lines clean left
  exact ⟨line, listed, wide, full, ⟨before, bracket, _, rfl, lines⟩, refused, same.trans commands,
    message⟩

/-- A closing bracket behind a tuple without brackets is refused as a bracket. -/
example : parse "probe all rgb 1 2 3 )\n" 1 = .error ⟨1, .missingOpenBracket⟩ := by
  decide +kernel

end Test

end GpuScript
