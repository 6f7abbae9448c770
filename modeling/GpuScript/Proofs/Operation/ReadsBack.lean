import GpuScript.Proofs.Operation.Reread
import GpuScript.Proofs.Operation.Writable

/-!
# Forms read back

The command with the name of an operation gives, from the tokens of its other words, what the
operation reads back as. Clears, draws, work groups, entry points and patches are read back here;
probes and buffers have their own modules.
-/

namespace GpuScript

open Command

/-- The characters of a text tell whether it is a name. -/
instance (text : String) : Decidable (IsName text) :=
  decidable_of_iff (IsWord text ∧ TokenKind.ofWord text.toList = .word)
    ⟨fun ⟨clean, kind⟩ => ⟨clean, kind⟩, fun name => ⟨name.toIsWord, name.kind⟩⟩

/-- The token of a name is a word. -/
theorem IsName.word? {name : String} (word : IsName name) :
    (wordToken name).word? = some name := by
  unfold Token.word? wordToken
  simp only [word.kind]

/-- The token of a name is that word and no other. -/
theorem IsName.isWord {name : String} (word : IsName name) (text : String) :
    (wordToken name).isWord text = (name == text) := by
  unfold Token.isWord wordToken
  simp only [word.kind, decide_true, Bool.true_and]

namespace Command

section Numbers

variable (x y z w : Single) (rest : List Token)

/-- A number is read from its token. -/
theorem number_wordToken :
    number (wordToken x.text :: rest) = x.reread.map fun again => (again, rest) := by
  rw [number, Binary.reread, singleOf?]
  cases (wordToken x.text).kind.toDouble? <;> rfl

/-- Two numbers are read from their tokens. -/
theorem pair_wordTokens :
    pair (wordToken x.text :: wordToken y.text :: rest) =
      (both x.reread y.reread).map fun again => (again, rest) := by
  simp only [pair, number_wordToken]
  cases x.reread with
  | error cause => rfl
  | ok x' =>
    simp only [Except.map, ok_bind, number_wordToken]
    cases y.reread <;> rfl

/-- Three numbers are read from their tokens. -/
theorem triple_wordTokens :
    triple (wordToken x.text :: wordToken y.text :: wordToken z.text :: rest) =
      (both x.reread (both y.reread z.reread)).map fun again => (again, rest) := by
  simp only [triple, number_wordToken]
  cases x.reread with
  | error cause => rfl
  | ok x' =>
    simp only [Except.map, ok_bind, pair_wordTokens]
    cases both y.reread z.reread <;> rfl

/-- Four numbers are read from their tokens. -/
theorem quadruple_wordTokens :
    quadruple (wordToken x.text :: wordToken y.text :: wordToken z.text :: wordToken w.text ::
        rest) =
      (both x.reread (both y.reread (both z.reread w.reread))).map fun again => (again, rest) := by
  simp only [quadruple, number_wordToken]
  cases x.reread with
  | error cause => rfl
  | ok x' =>
    simp only [Except.map, ok_bind, triple_wordTokens]
    cases both y.reread (both z.reread w.reread) <;> rfl

end Numbers

/-- A word is no bracket and no percent sign. -/
theorem wordToken_kind_ne (text : String) :
    (wordToken text).kind ≠ .openBracket ∧ (wordToken text).kind ≠ .closeBracket ∧
      (wordToken text).kind ≠ .percent := by
  rcases TokenKind.ofWord_cases text.toList with kind | ⟨_, kind⟩ | ⟨_, kind⟩ | ⟨_, kind⟩ <;>
    simp [wordToken, kind]

/-- A tuple is read without brackets in front of a word. -/
theorem bracketed_wordToken {α : Type} {read : List Token → Except Error (α × List Token)}
    {text : String} {tokens : List Token} {result : Except Error α} {next : String}
    {rest : List Token} (plain : read (wordToken text :: tokens) =
      result.map fun value => (value, wordToken next :: rest)) :
    bracketed read (wordToken text :: tokens) =
      result.map fun value => (value, wordToken next :: rest) := by
  rw [bracketed, if_neg (wordToken_kind_ne text).1, plain]
  cases result with
  | error cause => rfl
  | ok value =>
    simp only [Except.map, ok_bind, notClosing, if_neg (wordToken_kind_ne next).2.1]

/-- A tuple is read without brackets at the end of a line. -/
theorem bracketed_wordToken_nil {α : Type} {read : List Token → Except Error (α × List Token)}
    {text : String} {tokens : List Token} {result : Except Error α}
    (plain : read (wordToken text :: tokens) = result.map fun value => (value, [])) :
    bracketed read (wordToken text :: tokens) = result.map fun value => (value, []) := by
  rw [bracketed, if_neg (wordToken_kind_ne text).1, plain]
  cases result <;> rfl

/-- `clear color` reads back. -/
theorem reread_clearColor (r g b a : Single) :
    readOperation Pipeline.default "clear" [wordToken "color", wordToken r.text, wordToken g.text,
      wordToken b.text, wordToken a.text] = (Operation.clearColor r g b a).reread := by
  change clearColor _ = _
  simp only [clearColor, quadruple_wordTokens, Operation.reread]
  cases both r.reread (both g.reread (both b.reread a.reread)) <;> rfl

/-- `clear depth` reads back. -/
theorem reread_clearDepth (value : Single) :
    readOperation Pipeline.default "clear" [wordToken "depth", wordToken value.text] =
      (Operation.clearDepth value).reread := by
  change clearDepth _ = _
  simp only [clearDepth, number_wordToken, Operation.reread]
  cases value.reread <;> rfl

/-- `clear stencil` reads back. -/
theorem reread_clearStencil (value : UInt32) :
    readOperation Pipeline.default "clear" [wordToken "stencil", wordToken (wordText value)] =
      (Operation.clearStencil value).reread := by
  change clearStencil [wordToken (wordText value)] = _
  simp only [clearStencil, word_wordToken, ok_bind, finish]
  rfl

/-- An optional word that is written is found. -/
theorem optionalWord_of_isName {name : String} (word : IsName name) (rest : List Token) :
    optionalWord name (wordToken name :: rest) = (true, rest) := by
  rw [optionalWord, word.isWord, beq_self_eq_true]
  rfl

/-- An optional word is not found where another name is written. -/
theorem optionalWord_of_ne {name other : String} (word : IsName other) (differ : other ≠ name)
    (rest : List Token) :
    optionalWord name (wordToken other :: rest) = (false, wordToken other :: rest) := by
  rw [optionalWord, word.isWord, beq_false_of_ne differ]
  rfl

/-- An optional word is not found where another text is written. -/
theorem optionalWord_of_text_ne {text name : String} (differ : text ≠ name) (rest : List Token) :
    optionalWord name (wordToken text :: rest) = (false, wordToken text :: rest) := by
  have other : (wordToken text).isWord name = false := by
    unfold Token.isWord
    have apart : ((wordToken text).text == name) = false := beq_false_of_ne differ
    rw [apart, Bool.and_false]
  rw [optionalWord, other]
  rfl

/-- Two optional words are found exactly when they are written. -/
theorem optionalWord_optionalWord {first second : String} (one : IsName first)
    (two : IsName second) (differ : second ≠ first) (before after : Bool) {rest : List Token}
    (noFirst : optionalWord first rest = (false, rest))
    (noSecond : optionalWord second rest = (false, rest)) :
    optionalWord first ((GpuScript.optionalWord before first).map wordToken ++
        ((GpuScript.optionalWord after second).map wordToken ++ rest)) =
      (before, (GpuScript.optionalWord after second).map wordToken ++ rest) ∧
    optionalWord second ((GpuScript.optionalWord after second).map wordToken ++ rest) =
      (after, rest) := by
  constructor
  · cases before with
    | true => exact optionalWord_of_isName one _
    | false =>
      cases after with
      | true => exact optionalWord_of_ne two differ _
      | false => exact noFirst
  · cases after with
    | true => exact optionalWord_of_isName two _
    | false => exact noSecond

/-- `draw rect` reads back. -/
theorem reread_drawRect (ortho patch : Bool) (x y width height : Single) (pipeline : Pipeline) :
    readOperation Pipeline.default "draw" (wordToken "rect" ::
      ((GpuScript.optionalWord ortho "ortho").map wordToken ++
        ((GpuScript.optionalWord patch "patch").map wordToken ++
          [wordToken x.text, wordToken y.text, wordToken width.text, wordToken height.text]))) =
      (Operation.drawRect ortho patch x y width height pipeline).reread := by
  have other {name : String} (letter : 'h' ∈ name.toList) : x.text ≠ name := by
    rintro rfl
    exact x.not_mem_text letter
  have optional := fun rest => optionalWord_optionalWord (by decide) (by decide) (by decide) ortho
    patch (optionalWord_of_text_ne (other (by decide : 'h' ∈ "ortho".toList)) rest)
    (optionalWord_of_text_ne (other (by decide : 'h' ∈ "patch".toList)) rest)
  change drawRect Pipeline.default _ = _
  simp only [drawRect, (optional _).1, (optional _).2, quadruple_wordTokens, Operation.reread]
  cases both x.reread (both y.reread (both width.reread height.reread)) <;> rfl

/-- The name of a topology in draws is a word, and none of the optional words before it. -/
theorem isName_drawName (topology : Topology) :
    IsName topology.drawName ∧ topology.drawName ≠ "indexed" ∧
      topology.drawName ≠ "instanced" := by
  cases topology <;> decide +kernel

/-- The topology with the name that a topology has in draws is that topology. -/
theorem ofDrawName?_drawName (topology : Topology) :
    Topology.ofDrawName? topology.drawName = some topology := by
  cases topology <;> decide +kernel

/-- A topology reads back. -/
theorem drawTopology_wordToken (topology : Topology) (rest : List Token) :
    drawTopology (wordToken topology.drawName :: rest) = .ok (topology, rest) := by
  simp only [drawTopology, (isName_drawName topology).1.word?, ofDrawName?_drawName]

/-- A number of instances reads back. -/
theorem instanceCount_wordTokens (instances : Option UInt32) :
    instanceCount instances.isSome ((instances.toList.map wordText).map wordToken) =
      .ok (instances, []) := by
  cases instances with
  | none => rfl
  | some count =>
    change (word _ [wordToken (wordText count)]).map _ = _
    rw [word_wordToken]
    rfl

/-- `draw arrays` reads back. -/
theorem reread_drawArrays (indexed : Bool) (instances : Option UInt32) (topology : Topology)
    (firstVertex vertexCount : UInt32) (pipeline : Pipeline) :
    readOperation Pipeline.default "draw" (wordToken "arrays" ::
      ((GpuScript.optionalWord indexed "indexed").map wordToken ++
        ((GpuScript.optionalWord instances.isSome "instanced").map wordToken ++
          (wordToken topology.drawName :: wordToken (wordText firstVertex) ::
            wordToken (wordText vertexCount) ::
              (instances.toList.map wordText).map wordToken)))) =
      (Operation.drawArrays indexed instances topology firstVertex vertexCount
        pipeline).reread := by
  obtain ⟨name, notIndexed, notInstanced⟩ := isName_drawName topology
  have optional := fun rest => optionalWord_optionalWord (by decide) (by decide) (by decide)
    indexed instances.isSome (optionalWord_of_ne name notIndexed rest)
    (optionalWord_of_ne name notInstanced rest)
  change drawArrays Pipeline.default _ = _
  simp only [drawArrays, (optional _).1, (optional _).2, drawTopology_wordToken, word_wordToken,
    instanceCount_wordTokens, ok_bind, finish]
  rfl

/-- `compute` reads back. -/
theorem reread_compute (x y z : UInt32) (pipeline : Pipeline) :
    readOperation Pipeline.default "compute" [wordToken (wordText x), wordToken (wordText y),
      wordToken (wordText z)] = (Operation.compute x y z pipeline).reread := by
  have number : (wordToken (wordText x)).word? = none :=
    word?_of_toDouble? (isSome_toDouble?_ofWord_wordText x)
  change compute Pipeline.default _ = _
  simp only [compute, List.head?_cons, Option.bind_some, number, computeGroups, word_wordToken,
    ok_bind, finish]
  rfl

/-- The words of a stage before `entrypoint`, and the name of its command. -/
theorem reread_entryPoint {name : String} (stage : Stage) (word : IsName name) :
    ∃ command words, stage.words ++ ["entrypoint", name] = command :: words ∧
      readOperation Pipeline.default command (words.map wordToken) =
        (Operation.entryPoint stage name).reread := by
  have read : ∀ stage, entryPoint stage [wordToken "entrypoint", wordToken name] =
      .ok (.entryPoint stage name) := by
    intro stage
    rw [entryPoint, optionalWord_of_isName (by decide)]
    simp only [word.word?, finish, ok_bind]
  cases stage with
  | vertex => exact ⟨_, _, rfl, read .vertex⟩
  | tessControl => exact ⟨_, _, rfl, read .tessControl⟩
  | tessEvaluation => exact ⟨_, _, rfl, read .tessEvaluation⟩
  | geometry => exact ⟨_, _, rfl, read .geometry⟩
  | fragment => exact ⟨_, _, rfl, read .fragment⟩
  | compute => exact ⟨_, _, rfl, read .compute⟩

/-- `patch parameter vertices` reads back. -/
theorem reread_patchVertices (count : UInt32) :
    readOperation Pipeline.default "patch" [wordToken "parameter", wordToken "vertices",
      wordToken (wordText count)] = (Operation.patchVertices count).reread := by
  change patch [wordToken "parameter", wordToken "vertices", wordToken (wordText count)] = _
  rw [patch, optionalWord_of_isName (by decide)]
  simp only [optionalWord_of_isName (by decide : IsName "vertices"), word_wordToken, ok_bind,
    finish]
  rfl

end Command

end GpuScript
