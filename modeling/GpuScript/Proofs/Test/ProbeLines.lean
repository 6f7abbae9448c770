import GpuScript.Proofs.Command.ProbeGrammar
import GpuScript.Test

/-!
# Lines with a probe of the framebuffer

A line that opens with `probe` or `relative probe` is accepted if and only if what follows is of the
grammar of a probe, and the operation has the flags and the numbers that are written
(`Test.probe_iff_grammar`). Brackets around a tuple leave no trace in the operation.
-/

namespace GpuScript

/-- A line is about a probe of the framebuffer, with the given tokens behind `probe`: it opens with
`probe`, and `ssbo` does not follow, or it opens with `relative probe`. -/
inductive TokenLine.OpensProbe : TokenLine → Bool → List Token → Prop
  | absolute {first : Token} {tokens : List Token} (named : first.word? = some "probe")
    (framebuffer : ∀ token ∈ tokens.head?, token.word? ≠ some "ssbo") :
    OpensProbe ⟨first, tokens⟩ false tokens
  | relative {first second : Token} {tokens : List Token}
    (named : first.word? = some "relative") (followed : second.word? = some "probe") :
    OpensProbe ⟨first, second :: tokens⟩ true tokens

/-- A line that opens with two words for a relative probe is about the tokens behind them. -/
theorem TokenLine.OpensProbe.of_relative {line : TokenLine}
    (named : line.first.word? = some "relative")
    (followed : line.rest.head?.bind Token.word? = some "probe") :
    line.OpensProbe true line.rest.tail := by
  obtain ⟨first, _ | ⟨second, tokens⟩⟩ := line
  · cases followed
  · exact .relative named followed

namespace Test

open Command

/-- A line about a probe of the framebuffer is read as one. -/
theorem readLine_of_opensProbe {line : TokenLine} {relative : Bool} {tokens : List Token}
    (opens : line.OpensProbe relative tokens) (pipeline : Pipeline) :
    readLine pipeline line = ⟨pipeline, (probeFramebuffer relative tokens).map some⟩ := by
  cases opens with
  | absolute named framebuffer =>
    have command : Property.ofName? "probe" = none := by decide +kernel
    have skipped : Command.optionalWord "ssbo" tokens = (false, tokens) := by
      cases tokens with
      | nil => rfl
      | cons token others =>
        rw [Command.optionalWord, if_neg]
        exact fun word => framebuffer token rfl (Token.isWord_iff.mp word)
    simp only [readLine, named, command, readOperation, probe, skipped]
  | @relative first second tokens named followed =>
    have command : Property.ofName? "relative" = none := by decide +kernel
    have skipped : Command.optionalWord "probe" (second :: tokens) = (true, tokens) := by
      rw [Command.optionalWord, if_pos (Token.isWord_iff.mpr followed)]
    simp only [readLine, named, command, readOperation, Command.relative, skipped]

/-- A line about a probe of the framebuffer has the operation of what is written behind `probe`. -/
theorem readLine_eq_ok_of_opensProbe {line : TokenLine} {relative : Bool} {tokens : List Token}
    (opens : line.OpensProbe relative tokens) (pipeline : Pipeline)
    (operation : Option Operation) :
    (readLine pipeline line).operation = .ok operation ↔
      ∃ probe extent withAlpha position color, operation = some (.probe probe) ∧
        ProbeGrammar extent withAlpha position color tokens ∧
        ProbeContents probe relative extent withAlpha position color := by
  rw [readLine_of_opensProbe opens, map_eq_ok]
  constructor
  · rintro ⟨framebuffer, accepted, rfl⟩
    obtain ⟨probe, rfl, same, grammar⟩ := probeFramebuffer_eq_ok.mp accepted
    obtain ⟨placed, components⟩ := grammar.lengths
    refine ⟨probe, _, _, _, _, rfl, grammar, ?_⟩
    exact (probeContents_iff placed components).mpr ⟨same, rfl, rfl, rfl, rfl⟩
  · rintro ⟨probe, extent, withAlpha, position, color, rfl, grammar, contents⟩
    obtain ⟨placed, components⟩ := grammar.lengths
    obtain ⟨same, rfl, rfl, rfl, rfl⟩ := (probeContents_iff placed components).mp contents
    exact ⟨_, probeFramebuffer_eq_ok.mpr ⟨probe, rfl, same, grammar⟩, rfl⟩

/-- A line about a probe of the framebuffer is accepted if and only if the tokens behind `probe` are
those of the grammar, and then its operation is the probe that they write; lines that differ in
their brackets only give the same operation. -/
theorem probe_iff_grammar {line : TokenLine} {relative : Bool} {tokens : List Token}
    (opens : line.OpensProbe relative tokens) (pipeline : Pipeline) :
    (∀ operation, (readLine pipeline line).operation = .ok operation ↔
      ∃ probe extent withAlpha position color, operation = some (.probe probe) ∧
        ProbeGrammar extent withAlpha position color tokens ∧
        ProbeContents probe relative extent withAlpha position color) ∧
    ∀ {other : TokenLine} {others : List Token}, other.OpensProbe relative others →
      withoutBrackets tokens = withoutBrackets others →
      ∀ {first second}, (readLine pipeline line).operation = .ok first →
        (readLine pipeline other).operation = .ok second → first = second := by
  refine ⟨readLine_eq_ok_of_opensProbe opens pipeline, ?_⟩
  intro other others other_opens same first second accepted other_accepted
  obtain ⟨probe, extent, withAlpha, position, color, rfl, grammar, contents⟩ :=
    (readLine_eq_ok_of_opensProbe opens pipeline first).mp accepted
  obtain ⟨_, _, _, _, _, rfl, other_grammar, other_contents⟩ :=
    (readLine_eq_ok_of_opensProbe other_opens pipeline second).mp other_accepted
  obtain ⟨rfl, rfl, rfl, rfl⟩ := grammar.unique other_grammar same
  -- The contents make up a line that is accepted with either of the two probes.
  have again := (readLine_eq_ok_of_opensProbe opens pipeline _).mpr
    ⟨_, extent, withAlpha, position, color, rfl, grammar, other_contents⟩
  exact Except.ok.inj (accepted.symm.trans again)

/-- A probe with its position in brackets. -/
def bracketedPosition : String :=
  "relative probe rect rgb (1, 2, 3, 4) 5 6 7\n"

/-- The same probe with its colour in brackets. -/
def bracketedColor : String :=
  "relative probe rect rgb 1 2 3 4 (5, 6, 7)\n"

/-- What the two lines say. -/
def rectProbe : Probe where
  relative := true
  region := .rect (Binary.ofInt 1) (Binary.ofInt 2) (Binary.ofInt 3) (Binary.ofInt 4)
  color := .rgb (Binary.ofInt 5) (Binary.ofInt 6) (Binary.ofInt 7)

/-- Both lines are accepted with the same operation, which their grammar gives. -/
theorem probe_iff_grammar_bracketedPosition :
    ∃ line other tokens others, TokenLine.ofText bracketedPosition 1 = [line] ∧
      TokenLine.ofText bracketedColor 1 = [other] ∧
      line.OpensProbe true tokens ∧ other.OpensProbe true others ∧ tokens ≠ others ∧
      (readLine .default line).operation = .ok (some (.probe rectProbe)) ∧
      (readLine .default other).operation = .ok (some (.probe rectProbe)) ∧
      ∃ position color, ProbeGrammar .rect false position color tokens := by
  obtain ⟨line, single⟩ : ∃ line, TokenLine.ofText bracketedPosition 1 = [line] :=
    List.length_eq_one_iff.mp (by decide +kernel)
  obtain ⟨other, other_single⟩ : ∃ line, TokenLine.ofText bracketedColor 1 = [line] :=
    List.length_eq_one_iff.mp (by decide +kernel)
  have facts : ∀ line ∈ TokenLine.ofText bracketedPosition 1,
      ∀ other ∈ TokenLine.ofText bracketedColor 1,
      (line.first.word? = some "relative" ∧ line.rest.head?.bind Token.word? = some "probe") ∧
      (other.first.word? = some "relative" ∧ other.rest.head?.bind Token.word? = some "probe") ∧
      (line.rest.tail ≠ other.rest.tail ∧
        withoutBrackets line.rest.tail = withoutBrackets other.rest.tail) ∧
      (readLine .default line).operation = .ok (some (.probe rectProbe)) ∧
      (readLine .default other).operation.isOk = true := by decide +kernel
  obtain ⟨⟨named, followed⟩, ⟨other_named, other_followed⟩, ⟨differ, same⟩, accepted, isOk⟩ :=
    facts line (by simp [single]) other (by simp [other_single])
  have opens := TokenLine.OpensProbe.of_relative named followed
  have other_opens := TokenLine.OpensProbe.of_relative other_named other_followed
  have other_accepted : (readLine .default other).operation = .ok (some (.probe rectProbe)) := by
    cases read : (readLine .default other).operation with
    | error cause =>
      rw [read] at isOk
      cases isOk
    | ok operation =>
      rw [(probe_iff_grammar opens .default).2 other_opens same accepted read]
  obtain ⟨probe, extent, withAlpha, position, color, found, grammar, contents⟩ :=
    ((probe_iff_grammar opens .default).1 _).mp accepted
  cases found
  obtain rfl : Extent.rect = extent := contents.extent
  obtain rfl : false = withAlpha := contents.withAlpha
  exact ⟨line, other, _, _, single, other_single, opens, other_opens, differ, accepted,
    other_accepted, position, color, grammar⟩

end Test

end GpuScript
