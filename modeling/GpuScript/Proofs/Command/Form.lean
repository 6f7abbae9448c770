import GpuScript.Proofs.Command.Setting
import GpuScript.Proofs.Result
import GpuScript.Test

/-!
# Lines of a test do not depend on line numbers

The operation of a command, and the cause why there is none, come from the kinds and the texts of
the tokens alone (`Command.readOperation_map_unplaced`). Together with the values of the properties
this makes a line of a test section say the same wherever it stands (`Test.readLine_unplaced`).
-/

namespace GpuScript

namespace Token

/-- The line number is no part of a word that is asked for. -/
@[simp]
theorem isWord_unplaced (text : String) (token : Token) :
    token.unplaced.isWord text = token.isWord text :=
  rfl

end Token

namespace Command

/-- A last step that does not depend on line numbers can follow a step that does not. -/
theorem bind_unplaced {α β : Type} (reading : Except Error (α × List Token))
    {onward : α × List Token → Except Error β}
    (natural : ∀ result, onward (unplaceRest result) = onward result) :
    (reading.map unplaceRest >>= onward) = (reading >>= onward) := by
  cases reading with
  | error cause => rfl
  | ok result => exact natural result

section Operands

variable (tokens : List Token)

/-- An optional word does not depend on line numbers. -/
theorem optionalWord_map_unplaced (text : String) :
    optionalWord text (tokens.map Token.unplaced) = unplaceRest (optionalWord text tokens) := by
  cases tokens with
  | nil => rfl
  | cons token rest =>
    rw [List.map_cons, optionalWord, optionalWord, Token.isWord_unplaced]
    cases token.isWord text <;> rfl

/-- A number does not depend on line numbers. -/
theorem number_map_unplaced :
    number (tokens.map Token.unplaced) = (number tokens).map unplaceRest := by
  cases tokens with
  | nil => rfl
  | cons token rest =>
    rw [List.map_cons, number, number, Token.kind_unplaced]
    cases token.kind.toDouble? <;> rfl

/-- An unsigned word does not depend on line numbers. -/
theorem word_map_unplaced (cause : Error) :
    word cause (tokens.map Token.unplaced) = (word cause tokens).map unplaceRest := by
  cases tokens with
  | nil => rfl
  | cons token rest =>
    rw [List.map_cons, word, word, Token.kind_unplaced]
    cases token.kind.word32? <;> rfl

/-- The end of a line does not depend on line numbers. -/
theorem finish_map_unplaced (cause : Error) :
    finish cause (tokens.map Token.unplaced) = finish cause tokens := by
  cases tokens <;> rfl

/-- A binding does not depend on line numbers. -/
theorem binding_map_unplaced (command : BindingCommand) :
    binding command (tokens.map Token.unplaced) = (binding command tokens).map unplaceRest := by
  cases tokens with
  | nil => rfl
  | cons token rest =>
    have same : bindingOf? token.unplaced = bindingOf? token := rfl
    rw [List.map_cons, binding, binding, same]
    cases bindingOf? token <;> rfl

/-- A type does not depend on line numbers. -/
theorem datumType_map_unplaced (command : DataCommand) :
    datumType command (tokens.map Token.unplaced) =
      (datumType command tokens).map unplaceRest := by
  cases tokens with
  | nil => rfl
  | cons token rest =>
    rw [List.map_cons, datumType, datumType, Token.word?_unplaced]
    cases token.word? with
    | none => rfl
    | some name => cases found : DatumType.ofName? name <;> simp only [found] <;> rfl

/-- Values do not depend on line numbers. -/
theorem componentValues_map_unplaced (command : DataCommand) (type : DatumType) :
    componentValues command type (tokens.map Token.unplaced) =
      componentValues command type tokens := by
  induction tokens with
  | nil => rfl
  | cons token rest ih =>
    have same : type.value? token.unplaced = type.value? token := rfl
    rw [List.map_cons, componentValues, componentValues, same, ih, Token.text_unplaced]

/-- The values on the rest of a line do not depend on line numbers. -/
theorem values_map_unplaced (command : DataCommand) (type : DatumType) :
    values command type (tokens.map Token.unplaced) = values command type tokens := by
  rw [values, values, componentValues_map_unplaced]

/-- Two numbers do not depend on line numbers. -/
theorem pair_map_unplaced : pair (tokens.map Token.unplaced) = (pair tokens).map unplaceRest := by
  rw [pair, pair, number_map_unplaced]
  refine bind_map_unplaced _ fun (first, rest) => ?_
  dsimp only [unplaceRest]
  rw [number_map_unplaced]
  exact bind_map_unplaced _ fun _ => rfl

/-- Three numbers do not depend on line numbers. -/
theorem triple_map_unplaced :
    triple (tokens.map Token.unplaced) = (triple tokens).map unplaceRest := by
  rw [triple, triple, number_map_unplaced]
  refine bind_map_unplaced _ fun (first, rest) => ?_
  dsimp only [unplaceRest]
  rw [pair_map_unplaced]
  exact bind_map_unplaced _ fun _ => rfl

/-- Four numbers do not depend on line numbers. -/
theorem quadruple_map_unplaced :
    quadruple (tokens.map Token.unplaced) = (quadruple tokens).map unplaceRest := by
  rw [quadruple, quadruple, number_map_unplaced]
  refine bind_map_unplaced _ fun (first, rest) => ?_
  dsimp only [unplaceRest]
  rw [triple_map_unplaced]
  exact bind_map_unplaced _ fun _ => rfl

/-- A closing bracket does not depend on line numbers. -/
theorem closing_map_unplaced :
    closing (tokens.map Token.unplaced) = (closing tokens).map (List.map Token.unplaced) := by
  cases tokens with
  | nil => rfl
  | cons token rest =>
    rw [List.map_cons, closing, closing, Token.kind_unplaced]
    split <;> rfl

/-- That no closing bracket follows does not depend on line numbers. -/
theorem notClosing_map_unplaced :
    notClosing (tokens.map Token.unplaced) =
      (notClosing tokens).map (List.map Token.unplaced) := by
  cases tokens with
  | nil => rfl
  | cons token rest =>
    rw [List.map_cons, notClosing, notClosing, Token.kind_unplaced]
    split <;> rfl

/-- A tuple in brackets or without them does not depend on line numbers if its reader does not. -/
theorem bracketed_map_unplaced {α : Type} {read : List Token → Except Error (α × List Token)}
    (natural : ∀ tokens, read (tokens.map Token.unplaced) = (read tokens).map unplaceRest) :
    bracketed read (tokens.map Token.unplaced) = (bracketed read tokens).map unplaceRest := by
  have behind (value : α) (check : Except Error (List Token)) :
      (check.map (List.map Token.unplaced) >>= fun rest => .ok (value, rest)) =
        (check >>= fun rest => .ok (value, rest)).map unplaceRest := by
    cases check <;> rfl
  cases tokens with
  | nil => exact natural []
  | cons token rest =>
    have whole := natural (token :: rest)
    rw [List.map_cons] at whole ⊢
    rw [bracketed, bracketed, Token.kind_unplaced]
    split
    · rw [natural]
      refine bind_map_unplaced _ fun (value, rest) => ?_
      dsimp only [unplaceRest]
      rw [closing_map_unplaced]
      exact behind value _
    · rw [whole]
      refine bind_map_unplaced _ fun (value, rest) => ?_
      dsimp only [unplaceRest]
      rw [notClosing_map_unplaced]
      exact behind value _

end Operands

section Forms

variable (tokens : List Token)

/-- `clear` does not depend on line numbers. -/
theorem clear_map_unplaced : clear (tokens.map Token.unplaced) = clear tokens := by
  have color (tokens : List Token) :
      clearColor (tokens.map Token.unplaced) = clearColor tokens := by
    rw [clearColor, clearColor, quadruple_map_unplaced]
    refine bind_unplaced _ fun ((r, g, b, a), rest) => ?_
    dsimp only [unplaceRest]
    rw [finish_map_unplaced]
  have depth (tokens : List Token) :
      clearDepth (tokens.map Token.unplaced) = clearDepth tokens := by
    rw [clearDepth, clearDepth, number_map_unplaced]
    refine bind_unplaced _ fun (value, rest) => ?_
    dsimp only [unplaceRest]
    rw [finish_map_unplaced]
  have stencil (tokens : List Token) :
      clearStencil (tokens.map Token.unplaced) = clearStencil tokens := by
    cases tokens with
    | nil => rfl
    | cons token rest =>
      have value := word_map_unplaced (token :: rest) .invalidStencilValue
      rw [List.map_cons] at value ⊢
      rw [clearStencil.eq_2 _ (by simp), clearStencil.eq_2 _ (by simp), value]
      refine bind_unplaced _ fun (value, rest) => ?_
      dsimp only [unplaceRest]
      rw [finish_map_unplaced]
  cases tokens with
  | nil => rfl
  | cons token rest =>
    rw [List.map_cons, clear, clear, Token.word?_unplaced, color, depth, stencil]

/-- `draw rect` does not depend on line numbers. -/
theorem drawRect_map_unplaced (pipeline : Pipeline) :
    drawRect pipeline (tokens.map Token.unplaced) = drawRect pipeline tokens := by
  rw [drawRect, drawRect, optionalWord_map_unplaced]
  dsimp only [unplaceRest]
  rw [optionalWord_map_unplaced]
  dsimp only [unplaceRest]
  rw [quadruple_map_unplaced]
  refine bind_unplaced _ fun ((x, y, width, height), rest) => ?_
  dsimp only [unplaceRest]
  rw [finish_map_unplaced]

/-- A topology does not depend on line numbers. -/
theorem drawTopology_map_unplaced :
    drawTopology (tokens.map Token.unplaced) = (drawTopology tokens).map unplaceRest := by
  cases tokens with
  | nil => rfl
  | cons token rest =>
    rw [List.map_cons, drawTopology, drawTopology, Token.word?_unplaced]
    cases token.word? with
    | none => rfl
    | some name => cases found : Topology.ofDrawName? name <;> simp only [found] <;> rfl

/-- A number of instances does not depend on line numbers. -/
theorem instanceCount_map_unplaced (instanced : Bool) :
    instanceCount instanced (tokens.map Token.unplaced) =
      (instanceCount instanced tokens).map unplaceRest := by
  cases instanced with
  | false => rfl
  | true =>
    cases tokens with
    | nil => rfl
    | cons token rest =>
      have count := word_map_unplaced (token :: rest) .invalidInstanceCount
      rw [List.map_cons] at count ⊢
      rw [instanceCount, instanceCount, count]
      cases word .invalidInstanceCount (token :: rest) <;> rfl

/-- `draw arrays` does not depend on line numbers. -/
theorem drawArrays_map_unplaced (pipeline : Pipeline) :
    drawArrays pipeline (tokens.map Token.unplaced) = drawArrays pipeline tokens := by
  rw [drawArrays, drawArrays, optionalWord_map_unplaced]
  dsimp only [unplaceRest]
  rw [optionalWord_map_unplaced]
  dsimp only [unplaceRest]
  rw [drawTopology_map_unplaced]
  refine bind_unplaced _ fun (topology, rest) => ?_
  dsimp only [unplaceRest]
  rw [word_map_unplaced]
  refine bind_unplaced _ fun (firstVertex, rest) => ?_
  dsimp only [unplaceRest]
  rw [word_map_unplaced]
  refine bind_unplaced _ fun (vertexCount, rest) => ?_
  dsimp only [unplaceRest]
  rw [instanceCount_map_unplaced]
  refine bind_unplaced _ fun (instances, rest) => ?_
  dsimp only [unplaceRest]
  rw [finish_map_unplaced]

/-- `draw` does not depend on line numbers. -/
theorem draw_map_unplaced (pipeline : Pipeline) :
    draw pipeline (tokens.map Token.unplaced) = draw pipeline tokens := by
  cases tokens with
  | nil => rfl
  | cons token rest =>
    rw [List.map_cons, draw, draw, Token.word?_unplaced, drawRect_map_unplaced,
      drawArrays_map_unplaced]

/-- An entry point does not depend on line numbers. -/
theorem entryPoint_map_unplaced (stage : Stage) :
    entryPoint stage (tokens.map Token.unplaced) = entryPoint stage tokens := by
  rw [entryPoint, entryPoint, optionalWord_map_unplaced]
  cases optionalWord "entrypoint" tokens with
  | mk found rest =>
    cases found with
    | false => rfl
    | true =>
      cases rest with
      | nil => rfl
      | cons token rest =>
        simp only [unplaceRest, List.map_cons, Token.word?_unplaced, finish_map_unplaced]

/-- `tessellation` does not depend on line numbers. -/
theorem tessellation_map_unplaced :
    tessellation (tokens.map Token.unplaced) = tessellation tokens := by
  cases tokens with
  | nil => rfl
  | cons token rest =>
    rw [List.map_cons, tessellation, tessellation, Token.word?_unplaced]
    simp only [entryPoint_map_unplaced]

/-- `compute` does not depend on line numbers. -/
theorem compute_map_unplaced (pipeline : Pipeline) :
    compute pipeline (tokens.map Token.unplaced) = compute pipeline tokens := by
  have groups : computeGroups pipeline (tokens.map Token.unplaced) =
      computeGroups pipeline tokens := by
    rw [computeGroups, computeGroups, word_map_unplaced]
    refine bind_unplaced _ fun (x, rest) => ?_
    dsimp only [unplaceRest]
    rw [word_map_unplaced]
    refine bind_unplaced _ fun (y, rest) => ?_
    dsimp only [unplaceRest]
    rw [word_map_unplaced]
    refine bind_unplaced _ fun (z, rest) => ?_
    dsimp only [unplaceRest]
    rw [finish_map_unplaced]
  have next : (tokens.map Token.unplaced).head?.bind Token.word? =
      tokens.head?.bind Token.word? := by
    cases tokens <;> rfl
  rw [compute, compute, next, groups, entryPoint_map_unplaced]

/-- `patch` does not depend on line numbers. -/
theorem patch_map_unplaced : patch (tokens.map Token.unplaced) = patch tokens := by
  rw [patch, patch, optionalWord_map_unplaced]
  cases optionalWord "parameter" tokens with
  | mk found rest =>
    cases found with
    | false => rfl
    | true =>
      dsimp only [unplaceRest]
      rw [optionalWord_map_unplaced]
      cases optionalWord "vertices" rest with
      | mk found rest =>
        cases found with
        | false => rfl
        | true =>
          dsimp only [unplaceRest]
          rw [word_map_unplaced]
          refine bind_unplaced _ fun (count, rest) => ?_
          dsimp only [unplaceRest]
          rw [finish_map_unplaced]

/-- A word of a probe does not depend on line numbers. -/
theorem probeWord_map_unplaced :
    probeWord (tokens.map Token.unplaced) = (probeWord tokens).map unplaceRest := by
  cases tokens with
  | nil => rfl
  | cons token rest =>
    rw [List.map_cons, probeWord, probeWord, Token.word?_unplaced]
    cases token.word? <;> rfl

/-- The region of a probe does not depend on line numbers. -/
theorem probeRegion_map_unplaced (extent : Extent) :
    probeRegion extent (tokens.map Token.unplaced) =
      (probeRegion extent tokens).map unplaceRest := by
  cases extent with
  | window => rfl
  | pixel =>
    rw [probeRegion, probeRegion, bracketed_map_unplaced tokens pair_map_unplaced]
    exact bind_map_unplaced _ fun _ => rfl
  | rect =>
    rw [probeRegion, probeRegion, bracketed_map_unplaced tokens quadruple_map_unplaced]
    exact bind_map_unplaced _ fun _ => rfl

/-- The colour of a probe does not depend on line numbers. -/
theorem probeColor_map_unplaced (withAlpha : Bool) :
    probeColor withAlpha (tokens.map Token.unplaced) =
      (probeColor withAlpha tokens).map unplaceRest := by
  cases withAlpha with
  | true =>
    rw [probeColor, probeColor, bracketed_map_unplaced tokens quadruple_map_unplaced]
    exact bind_map_unplaced _ fun _ => rfl
  | false =>
    rw [probeColor, probeColor, bracketed_map_unplaced tokens triple_map_unplaced]
    exact bind_map_unplaced _ fun _ => rfl

/-- The extent and the format of a probe do not depend on line numbers. -/
theorem probeExtent_map_unplaced :
    probeExtent (tokens.map Token.unplaced) =
      (probeExtent tokens).map fun (extent, format, rest) =>
        (extent, format, rest.map Token.unplaced) := by
  rw [probeExtent, probeExtent, probeWord_map_unplaced]
  cases probeWord tokens with
  | error cause => rfl
  | ok read =>
    obtain ⟨text, rest⟩ := read
    simp only [Except.map, unplaceRest, ok_bind]
    split
    · rw [probeWord_map_unplaced]
      cases probeWord rest <;> rfl
    · rw [probeWord_map_unplaced]
      cases probeWord rest <;> rfl
    · rfl

/-- A probe of the framebuffer does not depend on line numbers. -/
theorem probeFramebuffer_map_unplaced (relative : Bool) :
    probeFramebuffer relative (tokens.map Token.unplaced) = probeFramebuffer relative tokens := by
  rw [probeFramebuffer, probeFramebuffer, probeExtent_map_unplaced]
  cases probeExtent tokens with
  | error cause => rfl
  | ok read =>
    obtain ⟨extent, format, rest⟩ := read
    simp only [Except.map, ok_bind]
    refine congrArg (probeFormat format >>= ·) (funext fun withAlpha => ?_)
    rw [probeRegion_map_unplaced]
    refine bind_unplaced _ fun (region, rest) => ?_
    dsimp only [unplaceRest]
    rw [probeColor_map_unplaced]
    refine bind_unplaced _ fun (color, rest) => ?_
    dsimp only [unplaceRest]
    rw [finish_map_unplaced]

/-- The offset of a probe of a storage buffer does not depend on line numbers. -/
theorem probeOffset_map_unplaced :
    probeOffset (tokens.map Token.unplaced) = (probeOffset tokens).map unplaceRest := by
  cases tokens with
  | nil => rfl
  | cons token rest =>
    have offset := word_map_unplaced (token :: rest) .invalidProbeOffset
    rw [List.map_cons] at offset ⊢
    rw [probeOffset, probeOffset, Token.kind_unplaced]
    split
    · exact offset
    · rfl

/-- A comparator does not depend on line numbers. -/
theorem comparator_map_unplaced :
    comparator (tokens.map Token.unplaced) = (comparator tokens).map unplaceRest := by
  cases tokens with
  | nil => rfl
  | cons token rest =>
    rw [List.map_cons, comparator, comparator, Token.word?_unplaced]
    cases token.word?.bind Comparator.ofSymbol? <;> rfl

/-- A probe of a storage buffer does not depend on line numbers. -/
theorem probeBuffer_map_unplaced :
    probeBuffer (tokens.map Token.unplaced) = probeBuffer tokens := by
  rw [probeBuffer, probeBuffer, datumType_map_unplaced]
  refine bind_unplaced _ fun (type, rest) => ?_
  dsimp only [unplaceRest]
  rw [binding_map_unplaced]
  refine bind_unplaced _ fun (place, rest) => ?_
  dsimp only [unplaceRest]
  rw [probeOffset_map_unplaced]
  refine bind_unplaced _ fun (offset, rest) => ?_
  dsimp only [unplaceRest]
  rw [comparator_map_unplaced]
  refine bind_unplaced _ fun (comparator, rest) => ?_
  dsimp only [unplaceRest]
  rw [values_map_unplaced]

/-- `probe` does not depend on line numbers. -/
theorem probe_map_unplaced : probe (tokens.map Token.unplaced) = probe tokens := by
  rw [probe, probe, optionalWord_map_unplaced]
  cases optionalWord "ssbo" tokens with
  | mk found rest =>
    cases found with
    | true => exact probeBuffer_map_unplaced rest
    | false => exact probeFramebuffer_map_unplaced rest false

/-- `relative` does not depend on line numbers. -/
theorem relative_map_unplaced : relative (tokens.map Token.unplaced) = relative tokens := by
  rw [relative, relative, optionalWord_map_unplaced]
  cases optionalWord "probe" tokens with
  | mk found rest =>
    cases found with
    | true => exact probeFramebuffer_map_unplaced rest true
    | false => rfl

/-- A type, an offset and values do not depend on line numbers. -/
theorem bufferData_map_unplaced (command : DataCommand) (cause : Error) :
    bufferData command cause (tokens.map Token.unplaced) = bufferData command cause tokens := by
  rw [bufferData, bufferData, datumType_map_unplaced]
  refine bind_unplaced _ fun (type, rest) => ?_
  dsimp only [unplaceRest]
  rw [word_map_unplaced]
  refine bind_unplaced _ fun (offset, rest) => ?_
  dsimp only [unplaceRest]
  rw [values_map_unplaced]

/-- A change of a storage buffer does not depend on line numbers. -/
theorem storageUpdate_map_unplaced (place : Binding) :
    storageUpdate place (tokens.map Token.unplaced) = storageUpdate place tokens := by
  cases tokens with
  | nil => rfl
  | cons token rest =>
    have size := word_map_unplaced (token :: rest) .invalidStorageSize
    rw [List.map_cons] at size ⊢
    rw [storageUpdate, storageUpdate, Token.kind_unplaced, Token.isWord_unplaced,
      bufferData_map_unplaced, size]
    split
    · refine bind_unplaced _ fun (size, rest) => ?_
      dsimp only [unplaceRest]
      rw [finish_map_unplaced]
    · rfl

/-- `ssbo` does not depend on line numbers. -/
theorem storage_map_unplaced : storage (tokens.map Token.unplaced) = storage tokens := by
  cases tokens with
  | nil => rfl
  | cons token rest =>
    have place := binding_map_unplaced (token :: rest) .storage
    rw [List.map_cons] at place ⊢
    rw [storage.eq_2 _ (by simp), storage.eq_2 _ (by simp), place]
    refine bind_unplaced _ fun (place, rest) => ?_
    dsimp only [unplaceRest]
    rw [storageUpdate_map_unplaced]

/-- `uniform` does not depend on line numbers. -/
theorem uniform_map_unplaced : uniform (tokens.map Token.unplaced) = uniform tokens := by
  rw [uniform, uniform, optionalWord_map_unplaced]
  cases optionalWord "ubo" tokens with
  | mk found rest =>
    cases found with
    | true =>
      dsimp only [unplaceRest]
      rw [binding_map_unplaced]
      refine bind_unplaced _ fun (place, rest) => ?_
      dsimp only [unplaceRest]
      rw [bufferData_map_unplaced]
    | false =>
      dsimp only [unplaceRest]
      rw [bufferData_map_unplaced]

/-- A list of tolerances does not depend on line numbers. -/
theorem toleranceList_map_unplaced (count : Nat) :
    toleranceList count (tokens.map Token.unplaced) = toleranceList count tokens := by
  fun_induction toleranceList count tokens with
  | case1 => rfl
  | case2 count token rest refused =>
    rw [List.map_cons, toleranceList, Token.kind_unplaced, refused]
  | case3 count token rest value read full =>
    rw [List.map_cons, toleranceList, Token.kind_unplaced, read]
    exact if_pos full
  | case4 count token value read room =>
    rw [List.map_cons, toleranceList, Token.kind_unplaced, read]
    exact if_neg room
  | case5 count token value read room sign after percent ih =>
    rw [List.map_cons, toleranceList, Token.kind_unplaced, read, List.map_cons, ← ih]
    exact (if_neg room).trans (if_pos percent)
  | case6 count token value read room sign after plain ih =>
    rw [List.map_cons] at ih
    rw [List.map_cons, toleranceList, Token.kind_unplaced, read, List.map_cons, ← ih]
    exact (if_neg room).trans (if_neg plain)

/-- The operation of a command, and the cause why there is none, do not depend on line numbers. -/
theorem readOperation_map_unplaced (pipeline : Pipeline) (name : String) :
    readOperation pipeline name (tokens.map Token.unplaced) =
      readOperation pipeline name tokens := by
  have tolerances : tolerance (tokens.map Token.unplaced) = tolerance tokens := by
    rw [tolerance, tolerance, toleranceList_map_unplaced]
  simp only [readOperation, clear_map_unplaced, draw_map_unplaced, compute_map_unplaced,
    patch_map_unplaced, probe_map_unplaced, relative_map_unplaced, storage_map_unplaced,
    uniform_map_unplaced, tolerances, tessellation_map_unplaced, entryPoint_map_unplaced]

end Forms

end Command

namespace Test

/-- What a line of a test section gives does not depend on line numbers. -/
theorem readLine_unplaced (pipeline : Pipeline) (line : TokenLine) :
    readLine pipeline line.unplaced = readLine pipeline line := by
  have property (property : Property) (tokens : List Token) :
      readProperty pipeline property (tokens.map Token.unplaced) =
        readProperty pipeline property tokens := by
    rw [readProperty, readProperty, Command.propertyValue_map_unplaced]
    cases Command.propertyValue property tokens with
    | error cause => rfl
    | ok read => simp only [Except.map, Command.unplaceRest, Command.finish_map_unplaced]
  have first : line.unplaced.first.word? = line.first.word? := rfl
  rw [readLine, readLine, first, TokenLine.rest_unplaced]
  simp only [property, Command.readOperation_map_unplaced]

end Test

end GpuScript
