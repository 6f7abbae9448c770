import GpuScript.Proofs.Operation.BufferReadsBack
import GpuScript.Proofs.Operation.ProbeReadsBack
import GpuScript.Proofs.Test.Lines

/-!
# Commands read back

The text of a command that was read from a script reads back as a single command with an equal
operation (`Test.parse_text_of_mem_commands`), if every number of it survives. Two halves make up
the result: what is read can be written, and the text of what can be written is a test section with
what it reads back as (`Test.parse_text`).
-/

namespace GpuScript

open Command

/-- The tokens of a tolerance. -/
def Tolerance.tokens (tolerance : Tolerance) : List Token :=
  wordToken tolerance.value.text :: if tolerance.isPercent then [⟨.percent, "%", 1⟩] else []

/-- A tolerance spells its tokens. -/
theorem Tolerance.spells (tolerance : Tolerance) : Spells tolerance.text tolerance.tokens := by
  obtain ⟨value, isPercent⟩ := tolerance
  cases isPercent with
  | false =>
    change Spells (value.text ++ "") _
    rw [String.append_empty]
    exact value.isWord_text.spells
  | true => exact value.isWord_text.spells_percent

/-- Words spell their tokens. -/
theorem spells_words {words : List String} (clean : ∀ word ∈ words, IsWord word) :
    Spells (" ".intercalate words) (words.map wordToken) := by
  have all : List.Forall₂ Spells words (words.map fun word => [wordToken word]) := by
    rw [List.forall₂_map_right_iff, List.forall₂_same]
    exact fun word listed => (clean word listed).spells
  have joined := Spells.intercalate all
  rwa [← List.flatMap_def, ← List.map_eq_flatMap] at joined

namespace Command

/-- A tolerance with a percent sign is read. -/
theorem toleranceList_percent {token : Token} {value : Double} {count : Nat}
    (own : token.kind.decimalDouble? = some value) (place : count < 4) (after : List Token) :
    toleranceList count (token :: ⟨.percent, "%", 1⟩ :: after) =
      (toleranceList (count + 1) after).map (⟨value, true⟩ :: ·) := by
  rw [toleranceList, own]
  simp only [if_neg (Nat.not_le.mpr place), if_true]

/-- A tolerance is read in front of a word or the end of the line. -/
theorem toleranceList_plain {token : Token} {value : Double} {count : Nat} {after : List Token}
    (own : token.kind.decimalDouble? = some value) (place : count < 4)
    (plain : ∀ sign ∈ after.head?, sign.kind ≠ .percent) :
    toleranceList count (token :: after) =
      (toleranceList (count + 1) after).map (⟨value, false⟩ :: ·) := by
  rw [toleranceList, own]
  simp only [if_neg (Nat.not_le.mpr place)]
  cases after with
  | nil =>
    rw [toleranceList]
    rfl
  | cons sign after => exact if_neg (plain sign rfl)

/-- No percent sign stands in front of tolerances. -/
theorem kind_ne_of_mem_head?_tokens (tolerances : List Tolerance) :
    ∀ sign ∈ (tolerances.flatMap Tolerance.tokens).head?, sign.kind ≠ .percent := by
  intro sign first
  cases tolerances with
  | nil => cases first
  | cons tolerance tolerances =>
    obtain rfl := Option.some.inj first
    exact (wordToken_kind_ne _).2.2

/-- A tolerance that is no decimal number is refused. -/
theorem toleranceList_none {token : Token} (own : token.kind.decimalDouble? = none) (count : Nat)
    (after : List Token) : toleranceList count (token :: after) = .error .invalidTolerance := by
  rw [toleranceList, own]

/-- Tolerances read back one by one, as long as there is a place for each. -/
theorem toleranceList_tokens {tolerances : List Tolerance} {count : Nat}
    (places : count + tolerances.length ≤ 4) :
    toleranceList count (tolerances.flatMap Tolerance.tokens) =
      tolerances.mapM Tolerance.reread := by
  induction tolerances generalizing count with
  | nil =>
    rw [List.flatMap_nil, toleranceList]
    rfl
  | cons tolerance tolerances ih =>
    rw [List.length_cons] at places
    have later := @ih (count + 1) (by omega)
    have place : count < 4 := by omega
    obtain ⟨value, isPercent⟩ := tolerance
    rw [List.mapM_cons, Tolerance.reread]
    cases own : (wordToken value.text).kind.decimalDouble? with
    | none => exact toleranceList_none own count _
    | some again =>
      cases isPercent with
      | true =>
        have step := toleranceList_percent own place (tolerances.flatMap Tolerance.tokens)
        rw [later] at step
        refine step.trans ?_
        cases tolerances.mapM Tolerance.reread <;> rfl
      | false =>
        have step := toleranceList_plain own place (kind_ne_of_mem_head?_tokens tolerances)
        rw [later] at step
        refine step.trans ?_
        cases tolerances.mapM Tolerance.reread <;> rfl

/-- `tolerance` reads back. -/
theorem reread_tolerance {tolerances : List Tolerance}
    (writable : tolerances.length = 1 ∨ tolerances.length = 4) :
    readOperation Pipeline.default "tolerance" (tolerances.flatMap Tolerance.tokens) =
      (Operation.tolerance tolerances).reread := by
  have read := @toleranceList_tokens tolerances 0 (by omega)
  simp only [readOperation, Command.tolerance, read, Operation.reread]
  cases again : tolerances.mapM Tolerance.reread with
  | error cause => rfl
  | ok values =>
    have count := length_of_mapM_eq_ok again
    simp only [ok_bind, Except.map]
    rcases writable with one | four
    · simp only [count, one]
    · simp only [count, four]

end Command

/-- The names of the commands of test sections. -/
def commandNames : List String :=
  ["clear", "draw", "compute", "patch", "probe", "relative", "ssbo", "uniform", "tolerance",
    "tessellation", "vertex", "geometry", "fragment"]

/-- An operation is only read for a command with one of these names. -/
theorem mem_commandNames_of_readOperation {pipeline : Pipeline} {name : String}
    {tokens : List Token} {operation : Operation}
    (accepted : readOperation pipeline name tokens = .ok operation) : name ∈ commandNames := by
  unfold readOperation at accepted
  split at accepted
  case h_14 => cases accepted
  all_goals simp [commandNames]

namespace Operation

/-- What can be written is written in words, tolerances apart. -/
theorem isWord_of_mem_words {operation : Operation} (writable : operation.Writable)
    (other : ∀ tolerances, operation ≠ .tolerance tolerances) :
    ∀ word ∈ operation.words, IsWord word := by
  cases operation with
  | clear => decide
  | clearColor r g b a => simp +decide [words]
  | clearDepth value => simp +decide [words]
  | clearStencil value => simp +decide [words]
  | drawRect ortho patch x y width height pipeline =>
    cases ortho <;> cases patch <;> simp +decide [words, optionalWord]
  | drawArrays indexed instances topology firstVertex vertexCount pipeline =>
    have name := (isName_drawName topology).1.toIsWord
    cases indexed <;> cases instances <;> simp +decide [words, optionalWord, name]
  | compute x y z pipeline => simp +decide [words]
  | entryPoint stage name =>
    have word : IsWord name := IsName.toIsWord writable
    cases stage <;> simp +decide [words, Stage.words, word]
  | patchVertices count => simp +decide [words]
  | probe framebuffer =>
    obtain ⟨relative, region, color⟩ := framebuffer
    cases relative <;> cases region <;> cases color <;>
      simp +decide [words, Probe.words, optionalWord]
  | probeBuffer storage =>
    have name : IsWord storage.data.datumType.name := writable.name.toIsWord
    have symbol := (isName_symbol storage.comparator).toIsWord
    simp +decide [words, BufferProbe.words, name, symbol]
  | buffer update =>
    cases update with
    | storageSize place size => simp +decide [words, BufferUpdate.words]
    | storage place data =>
      simp +decide [words, BufferUpdate.words, BufferData.words, writable.name.toIsWord]
    | uniform place data =>
      simp +decide [words, BufferUpdate.words, BufferData.words, writable.name.toIsWord]
    | pushConstants data =>
      simp +decide [words, BufferUpdate.words, BufferData.words, writable.name.toIsWord]
  | tolerance tolerances => exact absurd rfl (other tolerances)

/-- What can be written is read back from its words, tolerances apart. -/
theorem exists_reread {operation : Operation} (writable : operation.Writable)
    (other : ∀ tolerances, operation ≠ .tolerance tolerances) :
    ∃ name words, operation.words = name :: words ∧
      readOperation Pipeline.default name (words.map wordToken) = operation.reread := by
  cases operation with
  | clear => exact ⟨_, _, rfl, rfl⟩
  | clearColor r g b a => exact ⟨_, _, rfl, reread_clearColor r g b a⟩
  | clearDepth value => exact ⟨_, _, rfl, reread_clearDepth value⟩
  | clearStencil value => exact ⟨_, _, rfl, reread_clearStencil value⟩
  | drawRect ortho patch x y width height pipeline =>
    refine ⟨_, _, rfl, ?_⟩
    simpa using reread_drawRect ortho patch x y width height pipeline
  | drawArrays indexed instances topology firstVertex vertexCount pipeline =>
    refine ⟨_, _, rfl, ?_⟩
    simpa using reread_drawArrays indexed instances topology firstVertex vertexCount pipeline
  | compute x y z pipeline => exact ⟨_, _, rfl, reread_compute x y z pipeline⟩
  | entryPoint stage name => exact reread_entryPoint stage writable
  | patchVertices count => exact ⟨_, _, rfl, reread_patchVertices count⟩
  | probe framebuffer => exact reread_probe framebuffer
  | probeBuffer storage => exact ⟨_, _, rfl, reread_probeBuffer writable⟩
  | buffer update =>
    cases update with
    | storageSize place size => exact ⟨_, _, rfl, reread_storageSize place size⟩
    | storage place data => exact ⟨_, _, rfl, reread_storage place writable⟩
    | uniform place data => exact ⟨_, _, rfl, reread_uniform place writable⟩
    | pushConstants data => exact ⟨_, _, rfl, reread_pushConstants writable⟩
  | tolerance tolerances => exact absurd rfl (other tolerances)

/-- The first word of an operation is the name of a command. -/
theorem mem_commandNames_of_words {operation : Operation} {name : String} {words : List String}
    (split : operation.words = name :: words) : name ∈ commandNames := by
  have first : ∀ name ∈ operation.words.head?, name ∈ commandNames := by
    cases operation with
    | entryPoint stage name => cases stage <;> simp [Operation.words, Stage.words, commandNames]
    | probe framebuffer =>
      obtain ⟨relative, region, color⟩ := framebuffer
      cases relative <;> simp [Operation.words, Probe.words, optionalWord, commandNames]
    | buffer update =>
      cases update <;> simp [Operation.words, BufferUpdate.words, commandNames]
    | _ => simp [Operation.words, BufferProbe.words, commandNames]
  exact first name (by rw [split, List.head?_cons]; exact Option.mem_some_self name)

/-- What can be written spells tokens from which it is read back. -/
theorem exists_spells_reread {operation : Operation} (writable : operation.Writable) :
    ∃ name tokens, name ∈ commandNames ∧ Spells operation.text (wordToken name :: tokens) ∧
      readOperation Pipeline.default name tokens = operation.reread := by
  by_cases special : ∃ tolerances, operation = .tolerance tolerances
  · obtain ⟨tolerances, rfl⟩ := special
    have split : (Operation.tolerance tolerances).words =
        "tolerance" :: tolerances.map Tolerance.text := rfl
    refine ⟨_, _, mem_commandNames_of_words split, ?_, reread_tolerance writable⟩
    have all : List.Forall₂ Spells (tolerances.map Tolerance.text)
        (tolerances.map Tolerance.tokens) := by
      rw [List.forall₂_map_left_iff, List.forall₂_map_right_iff, List.forall₂_same]
      exact fun tolerance _ => tolerance.spells
    have whole := Spells.intercalate (.cons (by decide : IsWord "tolerance").spells all)
    rwa [List.flatten_cons, ← List.flatMap_def] at whole
  · have other : ∀ tolerances, operation ≠ .tolerance tolerances :=
      fun tolerances same => special ⟨tolerances, same⟩
    obtain ⟨name, words, split, read⟩ := exists_reread writable other
    refine ⟨name, _, mem_commandNames_of_words split, ?_, read⟩
    rw [← List.map_cons, ← split]
    exact spells_words (isWord_of_mem_words writable other)

/-- What can be written and survives spells tokens from which an equal operation is read. -/
theorem exists_spells {operation : Operation} (writable : operation.Writable)
    (survives : operation.Survives) :
    ∃ name tokens, Spells operation.text (wordToken name :: tokens) ∧
      ReadsEqual (readOperation Pipeline.default name tokens)
        (operation.withPipeline Pipeline.default) := by
  obtain ⟨name, tokens, _, spells, read⟩ := exists_spells_reread writable
  refine ⟨name, tokens, spells, ?_⟩
  rw [read]
  exact operation.readsEqual_reread_iff.mpr survives

end Operation

namespace Test

/-- The name of a command is a word that names no property. -/
theorem isName_of_mem_commandNames :
    ∀ name ∈ commandNames, IsName name ∧ Property.ofName? name = none := by
  decide +kernel

/-- A text that spells the tokens of a command is a test section with that command alone, unless
the command is refused. -/
theorem parse_eq_of_spells {text name : String} {tokens : List Token}
    (spells : Spells text (wordToken name :: tokens)) (listed : name ∈ commandNames) :
    parse text 1 = mapBoth (fun cause => ⟨1, cause⟩)
      (fun operation => ⟨[⟨1, operation⟩], Pipeline.default⟩)
      (readOperation Pipeline.default name tokens) := by
  obtain ⟨word, other⟩ := isName_of_mem_commandNames name listed
  have line : readLine Pipeline.default ⟨wordToken name, tokens⟩ =
      ⟨Pipeline.default, (readOperation Pipeline.default name tokens).map some⟩ := by
    simp only [readLine, word.word?, other]
  rw [parse, read, spells.ofText, readLines, line]
  cases readOperation Pipeline.default name tokens <;> rfl

/-- A text that spells the tokens of a command is a test section with that command. -/
theorem parse_of_spells {text name : String} {tokens : List Token} {operation : Operation}
    (spells : Spells text (wordToken name :: tokens))
    (accepted : readOperation Pipeline.default name tokens = .ok operation) :
    parse text 1 = .ok ⟨[⟨1, operation⟩], Pipeline.default⟩ := by
  rw [parse_eq_of_spells spells (mem_commandNames_of_readOperation accepted), accepted]
  rfl

/-- The text of what can be written is a test section with what it reads back as, on the first line
and with the default pipeline state. -/
theorem parse_text {operation : Operation} (writable : operation.Writable) :
    parse operation.text 1 = mapBoth (fun cause => ⟨1, cause⟩)
      (fun again => ⟨[⟨1, again⟩], Pipeline.default⟩) operation.reread := by
  obtain ⟨name, tokens, listed, spells, read⟩ := operation.exists_spells_reread writable
  rw [parse_eq_of_spells spells listed, read]

/-- A command that is accepted can be written. -/
theorem writable_of_mem_commands {text : String} {firstLine : Nat} {test : Test}
    {command : Command} (accepted : parse text firstLine = .ok test)
    (listed : command ∈ test.commands) : command.operation.Writable := by
  obtain ⟨line, found, read⟩ := exists_readFrom accepted listed
  obtain ⟨pipeline, result⟩ := read.operation
  have genuine : ∀ token ∈ line.rest, token.Genuine := fun token among =>
    Token.genuine_of_mem_tokens
      (TokenLine.mem_of_mem_ofTokens found (List.mem_cons_of_mem _ among)).1
  unfold readLine at result
  split at result
  · cases result
  · split at result
    · unfold readProperty at result
      split at result
      · cases result
      · obtain ⟨_, _, impossible⟩ := map_eq_ok.mp result
        cases impossible
    · obtain ⟨operation, made, same⟩ := map_eq_ok.mp result
      obtain rfl := Option.some.inj same
      exact writable_of_readOperation genuine made

/-- The text of a command that is accepted reads back as that command alone, on the first line and
with the default pipeline state, if every number of it survives. -/
theorem parse_text_of_mem_commands {text : String} {firstLine : Nat} {test : Test}
    {command : Command} (accepted : parse text firstLine = .ok test)
    (listed : command ∈ test.commands) (survives : command.operation.Survives) :
    ∃ again, parse command.operation.text 1 = .ok ⟨[⟨1, again⟩], Pipeline.default⟩ ∧
      (again == command.operation.withPipeline Pipeline.default) = true := by
  have writable := writable_of_mem_commands accepted listed
  obtain ⟨name, tokens, spells, again, read, same⟩ := Operation.exists_spells writable survives
  exact ⟨again, parse_of_spells spells read, same⟩

/-- A body with commands that are written in another way than their text. -/
def mixedCommands : String :=
  "draw rect ortho -0 .50 \\\n 1e1 0x2\ntolerance 1.50% # each\nuniform ubo 0:3 i8vec2 0 -1 0x80\n"

/-- Every command of the body reads back. -/
theorem parse_text_of_mem_mixedCommands :
    ∃ test, Test.parse mixedCommands 3 = .ok test ∧ test.commands.length = 3 ∧
      ∀ command ∈ test.commands, command.operation.Survives ∧
        ∃ again, parse command.operation.text 1 = .ok ⟨[⟨1, again⟩], Pipeline.default⟩ ∧
          (again == command.operation.withPipeline Pipeline.default) = true := by
  have whole : (read mixedCommands 3).failure = none ∧
      (read mixedCommands 3).commands.length = 3 ∧
      ∀ command ∈ (read mixedCommands 3).commands, command.operation.Survives := by
    decide +kernel
  obtain ⟨clean, count, survive⟩ := whole
  have accepted := parse_eq_ok_iff.mpr ⟨clean, rfl⟩
  refine ⟨_, accepted, count, fun command listed => ⟨survive command listed, ?_⟩⟩
  exact parse_text_of_mem_commands accepted listed (survive command listed)

end Test

end GpuScript
