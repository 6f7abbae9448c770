import GpuScript.Proofs.Command.Pulling

/-!
# Command lines pulled from one cursor

The forms of commands, each as it pulls its operands and the end of its line from a cursor that
knows nothing of logical lines. Whatever its operands are, optional words, tuples in brackets, a
list of values or nothing at all, a form that accepts its line leaves the cursor behind the end of
this line and no other, and gives the operation that is read from the tokens of the line
(`Command.pullOperation_eq`).
-/

namespace GpuScript.Command

open Cursor Text

/-- `clear color` and four numbers. -/
def pullClearColor (cursor : Cursor) : Except Error (Operation × Cursor) := do
  let ((r, g, b, a), after) ← pullQuadruple cursor
  pullEnd (.extraOperand .clearColor) (.clearColor r g b a) after

/-- `clear depth` and a number. -/
def pullClearDepth (cursor : Cursor) : Except Error (Operation × Cursor) := do
  let (value, after) ← pullNumber cursor
  pullEnd (.extraOperand .clearDepth) (.clearDepth value) after

/-- `clear stencil` and an unsigned word. -/
def pullClearStencil (cursor : Cursor) : Except Error (Operation × Cursor) := do
  let (value, after) ←
    pullPresent .missingStencilValue .invalidStencilValue (fun token => token.kind.word32?) cursor
  pullEnd (.extraOperand .clearStencil) (.clearStencil value) after

/-- `clear`, alone or with what is to be set. -/
def pullClear (cursor : Cursor) : Except Error (Operation × Cursor) :=
  if cursor.next.1.kind.isEnd then
    .ok (.clear, cursor.next.2)
  else
    match cursor.next.1.word? with
    | some "color" => pullClearColor cursor.next.2
    | some "depth" => pullClearDepth cursor.next.2
    | some "stencil" => pullClearStencil cursor.next.2
    | _ => .error (.extraOperand .clear)

/-- `draw rect`, the two optional words and four numbers. -/
def pullDrawRect (pipeline : Pipeline) (cursor : Cursor) : Except Error (Operation × Cursor) := do
  let (ortho, after) := pullOptional "ortho" cursor
  let (patch, after) := pullOptional "patch" after
  let ((x, y, width, height), after) ← pullQuadruple after
  pullEnd (.extraOperand .drawRect) (.drawRect ortho patch x y width height pipeline) after

/-- `draw arrays`, the two optional words, a topology and the counts. -/
def pullDrawArrays (pipeline : Pipeline) (cursor : Cursor) :
    Except Error (Operation × Cursor) := do
  let (indexed, after) := pullOptional "indexed" cursor
  let (instanced, after) := pullOptional "instanced" after
  let (topology, after) ← pullTopology after
  let (firstVertex, after) ← pullWord .invalidFirstVertex after
  let (vertexCount, after) ← pullWord .invalidVertexCount after
  let (instances, after) ← pullInstances instanced after
  pullEnd (.extraOperand .drawArrays)
    (.drawArrays indexed instances topology firstVertex vertexCount pipeline) after

/-- `draw` and what is drawn. -/
def pullDraw (pipeline : Pipeline) (cursor : Cursor) : Except Error (Operation × Cursor) :=
  match pullOptional "rect" cursor with
  | (true, after) => pullDrawRect pipeline after
  | (false, _) =>
    match pullOptional "arrays" cursor with
    | (true, after) => pullDrawArrays pipeline after
    | (false, _) => .error .invalidDraw

/-- `entrypoint` and a name, after the words of a stage. -/
def pullEntryPoint (stage : Stage) (cursor : Cursor) : Except Error (Operation × Cursor) :=
  match pullOptional "entrypoint" cursor with
  | (false, _) => .error (.unknownCommand stage.name)
  | (true, after) => do
    let (name, after) ←
      pullPresent .missingEntryPointName .entryPointNameNotWord Token.word? after
    pullEnd (.extraOperand .entryPoint) (.entryPoint stage name) after

/-- `tessellation` and the rest of an entry point of one of its two stages. -/
def pullTessellation (cursor : Cursor) : Except Error (Operation × Cursor) :=
  match cursor.next.1.word? with
  | some "evaluation" => pullEntryPoint .tessEvaluation cursor.next.2
  | some "control" => pullEntryPoint .tessControl cursor.next.2
  | _ => .error .invalidTessellationStage

/-- `compute` and three counts of work groups. -/
def pullComputeGroups (pipeline : Pipeline) (cursor : Cursor) :
    Except Error (Operation × Cursor) := do
  let (x, after) ← pullWord (.invalidGroupCount .x) cursor
  let (y, after) ← pullWord (.invalidGroupCount .y) after
  let (z, after) ← pullWord (.invalidGroupCount .z) after
  pullEnd (.extraOperand .compute) (.compute x y z pipeline) after

/-- `compute`, with counts or as the stage of an entry point. -/
def pullCompute (pipeline : Pipeline) (cursor : Cursor) : Except Error (Operation × Cursor) :=
  match cursor.peek.word? with
  | some "entrypoint" => pullEntryPoint .compute cursor
  | some _ => .error (.unknownCommand Stage.compute.name)
  | none => pullComputeGroups pipeline cursor

/-- `patch parameter vertices` and a count. -/
def pullPatch (cursor : Cursor) : Except Error (Operation × Cursor) :=
  match pullOptional "parameter" cursor with
  | (false, _) => .error .missingPatchParameter
  | (true, after) =>
    match pullOptional "vertices" after with
    | (false, _) => .error .missingPatchVertices
    | (true, after) => do
      let (count, after) ← pullWord .invalidPatchCount after
      pullEnd (.extraOperand .patchVertices) (.patchVertices count) after

/-- The optional word for the extent of a probe, and the word after it. -/
def pullExtent (cursor : Cursor) : Except Error ((Extent × String) × Cursor) := do
  let (text, after) ← pullProbeWord cursor
  match text with
  | "rect" =>
    let (format, after) ← pullProbeWord after
    .ok ((.rect, format), after)
  | "all" =>
    let (format, after) ← pullProbeWord after
    .ok ((.window, format), after)
  | format => .ok ((.pixel, format), after)

/-- The coordinates of a probe. -/
def pullRegion (extent : Extent) (cursor : Cursor) : Except Error (Region × Cursor) :=
  match extent with
  | .window => .ok (.window, cursor)
  | .pixel => do
    let ((x, y), after) ← pullBracketed pullPair cursor
    .ok (.pixel x y, after)
  | .rect => do
    let ((x, y, width, height), after) ← pullBracketed pullQuadruple cursor
    .ok (.rect x y width height, after)

/-- The colour of a probe, with alpha or without it. -/
def pullColor (withAlpha : Bool) (cursor : Cursor) : Except Error (ProbeColor × Cursor) :=
  match withAlpha with
  | true => do
    let ((r, g, b, a), after) ← pullBracketed pullQuadruple cursor
    .ok (.rgba r g b a, after)
  | false => do
    let ((r, g, b), after) ← pullBracketed pullTriple cursor
    .ok (.rgb r g b, after)

/-- A probe of the framebuffer, after `probe`. -/
def pullProbeFramebuffer (relative : Bool) (cursor : Cursor) :
    Except Error (Operation × Cursor) := do
  let ((extent, format), after) ← pullExtent cursor
  let withAlpha ← probeFormat format
  let (region, after) ← pullRegion extent after
  let (color, after) ← pullColor withAlpha after
  pullEnd (.extraOperand .probe) (.probe ⟨relative, region, color⟩) after

/-- A probe of a storage buffer, after `probe ssbo`. -/
def pullProbeBuffer (cursor : Cursor) : Except Error (Operation × Cursor) := do
  let (type, after) ← pullDatumType .probeBuffer cursor
  let (binding, after) ← pullBinding .probeBuffer after
  let (offset, after) ← pullProbeOffset after
  let (comparator, after) ← pullComparator after
  let (values, after) ← pullValues .probeBuffer type after
  .ok (.probeBuffer ⟨binding, comparator, ⟨type, offset, values⟩⟩, after)

/-- `probe` and what is probed. -/
def pullProbe (cursor : Cursor) : Except Error (Operation × Cursor) :=
  match pullOptional "ssbo" cursor with
  | (true, after) => pullProbeBuffer after
  | (false, after) => pullProbeFramebuffer false after

/-- `relative probe` and the framebuffer probe that is relative. -/
def pullRelative (cursor : Cursor) : Except Error (Operation × Cursor) :=
  match pullOptional "probe" cursor with
  | (true, after) => pullProbeFramebuffer true after
  | (false, _) => .error .relativeWithoutProbe

/-- A type, an offset and values. -/
def pullBufferData (command : DataCommand) (cause : Error) (cursor : Cursor) :
    Except Error (BufferData × Cursor) := do
  let (type, after) ← pullDatumType command cursor
  let (offset, after) ← pullWord cause after
  let (values, after) ← pullValues command type after
  .ok (⟨type, offset, values⟩, after)

/-- What a storage buffer command does with its buffer: a size, or `subdata` and values. -/
def pullStorageUpdate (binding : Binding) (cursor : Cursor) :
    Except Error (BufferUpdate × Cursor) :=
  if cursor.next.1.kind.isEnd then
    .error .missingStorageSize
  else if cursor.next.1.kind.toDouble?.isSome then do
    let (size, after) ← pullWord .invalidStorageSize cursor
    pullEnd (.extraOperand .bufferSize) (.storageSize binding size) after
  else if cursor.next.1.isWord "subdata" then do
    let (data, after) ← pullBufferData .storage .invalidStorageOffset cursor.next.2
    .ok (.storage binding data, after)
  else
    .error .invalidStorageOperand

/-- `ssbo`, a binding and what is done with the buffer. -/
def pullStorage (cursor : Cursor) : Except Error (Operation × Cursor) := do
  let (binding, after) ←
    pullPresent .missingStorageOperands (.invalidBinding .storage) bindingOf? cursor
  let (update, after) ← pullStorageUpdate binding after
  .ok (.buffer update, after)

/-- `uniform` and values, for the push constants or for the buffer named after `ubo`. -/
def pullUniform (cursor : Cursor) : Except Error (Operation × Cursor) :=
  match pullOptional "ubo" cursor with
  | (true, after) => do
    let (binding, after) ← pullBinding .uniform after
    let (data, after) ← pullBufferData .uniform .invalidUniformOffset after
    .ok (.buffer (.uniform binding data), after)
  | (false, after) => do
    let (data, after) ← pullBufferData .uniform .invalidUniformOffset after
    .ok (.buffer (.pushConstants data), after)

/-- `tolerance` and one tolerance for all components or one for each. -/
def pullTolerance (cursor : Cursor) : Except Error (Operation × Cursor) := do
  let (tolerances, after) ← pullTolerances 0 cursor
  match tolerances.length with
  | 0 => .error .missingTolerance
  | 1 | 4 => .ok (.tolerance tolerances, after)
  | _ => .error .incorrectToleranceCount

/-- The operation of the command with a name, and the end of its line. -/
def pullOperation (pipeline : Pipeline) (name : String) (cursor : Cursor) :
    Except Error (Operation × Cursor) :=
  match name with
  | "clear" => pullClear cursor
  | "draw" => pullDraw pipeline cursor
  | "compute" => pullCompute pipeline cursor
  | "patch" => pullPatch cursor
  | "probe" => pullProbe cursor
  | "relative" => pullRelative cursor
  | "ssbo" => pullStorage cursor
  | "uniform" => pullUniform cursor
  | "tolerance" => pullTolerance cursor
  | "tessellation" => pullTessellation cursor
  | "vertex" => pullEntryPoint .vertex cursor
  | "geometry" => pullEntryPoint .geometry cursor
  | "fragment" => pullEntryPoint .fragment cursor
  | _ => .error (.unknownCommand name)

variable (cursor : Cursor)

/-- `clear color` is pulled as it is read. -/
theorem pullClearColor_eq :
    pullClearColor cursor = cursor.behindLine (clearColor cursor.restOfLine) :=
  (pullQuadruple_pulledAs cursor).bind_line fun _ after => pullEnd_eq_finish _ _ after

/-- `clear depth` is pulled as it is read. -/
theorem pullClearDepth_eq :
    pullClearDepth cursor = cursor.behindLine (clearDepth cursor.restOfLine) :=
  (pullNumber_pulledAs cursor).bind_line fun _ after => pullEnd_eq_finish _ _ after

/-- `clear stencil` is pulled as it is read. -/
theorem pullClearStencil_eq :
    pullClearStencil cursor = cursor.behindLine (clearStencil cursor.restOfLine) :=
  pullPresent_bind_line (pullWord_pulledAs cursor .invalidStencilValue) rfl (fun _ _ => rfl)
    fun _ after => pullEnd_eq_finish _ _ after

/-- `clear` is pulled as it is read. -/
theorem pullClear_eq : pullClear cursor = cursor.behindLine (clear cursor.restOfLine) := by
  unfold pullClear
  by_cases ended : cursor.next.1.kind.isEnd = true
  · rw [if_pos ended, restOfLine_of_isEnd ended, clear, behindLine, skipLine_of_isEnd ended]
    rfl
  · rw [if_neg ended, restOfLine_of_not_isEnd ended, ← behindLine_next ended]
    split
    case h_1 color =>
      rw [clear, color]
      exact pullClearColor_eq cursor.next.2
    case h_2 depth =>
      rw [clear, depth]
      exact pullClearDepth_eq cursor.next.2
    case h_3 stencil =>
      rw [clear, stencil]
      exact pullClearStencil_eq cursor.next.2
    case h_4 =>
      rw [clear]
      split
      · contradiction
      · contradiction
      · contradiction
      · rfl

/-- `draw rect` is pulled as it is read. -/
theorem pullDrawRect_eq (pipeline : Pipeline) :
    pullDrawRect pipeline cursor = cursor.behindLine (drawRect pipeline cursor.restOfLine) := by
  obtain ⟨ortho, middle, first, firstRead, near⟩ := exists_pullOptional_eq cursor "ortho"
  obtain ⟨patch, behind, second, secondRead, far⟩ := exists_pullOptional_eq middle "patch"
  rw [pullDrawRect, drawRect, first, firstRead]
  dsimp only
  rw [second, secondRead, ← behindLine_of_same (far.trans near)]
  exact (pullQuadruple_pulledAs behind).bind_line fun _ after => pullEnd_eq_finish _ _ after

/-- `draw arrays` is pulled as it is read. -/
theorem pullDrawArrays_eq (pipeline : Pipeline) :
    pullDrawArrays pipeline cursor =
      cursor.behindLine (drawArrays pipeline cursor.restOfLine) := by
  obtain ⟨indexed, middle, first, firstRead, near⟩ := exists_pullOptional_eq cursor "indexed"
  obtain ⟨instanced, behind, second, secondRead, far⟩ := exists_pullOptional_eq middle "instanced"
  rw [pullDrawArrays, drawArrays, first, firstRead]
  dsimp only
  rw [second, secondRead, ← behindLine_of_same (far.trans near)]
  refine (pullTopology_pulledAs behind).bind_line fun topology after => ?_
  refine (pullWord_pulledAs after _).bind_line fun firstVertex after => ?_
  refine (pullWord_pulledAs after _).bind_line fun vertexCount after => ?_
  exact (pullInstances_pulledAs after instanced).bind_line fun _ after =>
    pullEnd_eq_finish _ _ after

/-- `draw` is pulled as it is read. -/
theorem pullDraw_eq (pipeline : Pipeline) :
    pullDraw pipeline cursor = cursor.behindLine (draw pipeline cursor.restOfLine) := by
  unfold pullDraw pullOptional
  rw [peek]
  by_cases ended : cursor.next.1.kind.isEnd = true
  · rw [if_neg (Token.not_isWord_of_isEnd ended _), if_neg (Token.not_isWord_of_isEnd ended _),
      restOfLine_of_isEnd ended]
    rfl
  · rw [restOfLine_of_not_isEnd ended, draw, ← behindLine_next ended]
    by_cases rect : cursor.next.1.isWord "rect" = true
    · rw [if_pos rect, Token.isWord_iff.mp rect]
      exact pullDrawRect_eq cursor.next.2 pipeline
    · by_cases arrays : cursor.next.1.isWord "arrays" = true
      · rw [if_neg rect, if_pos arrays, Token.isWord_iff.mp arrays]
        exact pullDrawArrays_eq cursor.next.2 pipeline
      · rw [if_neg rect, if_neg arrays]
        rw [Token.isWord_iff] at rect arrays
        dsimp only
        split
        · contradiction
        · contradiction
        · rfl

/-- The name of an entry point is pulled as it is read. -/
theorem pullEntryPoint_eq (stage : Stage) :
    pullEntryPoint stage cursor = cursor.behindLine (entryPoint stage cursor.restOfLine) := by
  obtain ⟨given, after, pulled, read, same⟩ := exists_pullOptional_eq cursor "entrypoint"
  rw [pullEntryPoint, entryPoint, pulled, read, ← behindLine_of_same same]
  cases given with
  | false => rfl
  | true =>
    by_cases ended : after.next.1.kind.isEnd = true
    · dsimp only
      rw [pullPresent_of_isEnd ended, restOfLine_of_isEnd ended]
      rfl
    · dsimp only
      rw [pullPresent_of_not_isEnd ended, restOfLine_of_not_isEnd ended, ← behindLine_next ended]
      dsimp only [pullValue, pullOperand]
      cases after.next.1.word? with
      | none => rfl
      | some name => exact pullEnd_eq_finish _ _ after.next.2

/-- `tessellation` is pulled as it is read. -/
theorem pullTessellation_eq :
    pullTessellation cursor = cursor.behindLine (tessellation cursor.restOfLine) := by
  unfold pullTessellation
  by_cases ended : cursor.next.1.kind.isEnd = true
  · rw [Token.word?_of_isEnd ended, restOfLine_of_isEnd ended]
    rfl
  · rw [restOfLine_of_not_isEnd ended, ← behindLine_next ended]
    split
    case h_1 evaluation =>
      rw [tessellation, evaluation]
      exact pullEntryPoint_eq cursor.next.2 .tessEvaluation
    case h_2 control =>
      rw [tessellation, control]
      exact pullEntryPoint_eq cursor.next.2 .tessControl
    case h_3 =>
      rw [tessellation]
      split
      · contradiction
      · contradiction
      · rfl

/-- The counts of work groups are pulled as they are read. -/
theorem pullComputeGroups_eq (pipeline : Pipeline) :
    pullComputeGroups pipeline cursor =
      cursor.behindLine (computeGroups pipeline cursor.restOfLine) := by
  refine (pullWord_pulledAs cursor _).bind_line fun x after => ?_
  refine (pullWord_pulledAs after _).bind_line fun y after => ?_
  exact (pullWord_pulledAs after _).bind_line fun z after => pullEnd_eq_finish _ _ after

/-- `compute` is pulled as it is read. -/
theorem pullCompute_eq (pipeline : Pipeline) :
    pullCompute pipeline cursor = cursor.behindLine (compute pipeline cursor.restOfLine) := by
  have opens : cursor.restOfLine.head?.bind Token.word? = cursor.peek.word? := by
    by_cases ended : cursor.next.1.kind.isEnd = true
    · rw [restOfLine_of_isEnd ended, peek, Token.word?_of_isEnd ended]
      rfl
    · rw [restOfLine_of_not_isEnd ended]
      rfl
  unfold pullCompute
  split
  case h_1 entry =>
    rw [compute, opens, entry]
    exact pullEntryPoint_eq cursor .compute
  case h_2 name other found =>
    rw [compute, opens, found]
    split
    case h_1 same => exact absurd (Option.some.inj same) other
    case h_2 => rfl
    case h_3 => contradiction
  case h_3 counts =>
    rw [compute, opens, counts]
    exact pullComputeGroups_eq cursor pipeline

/-- `patch` is pulled as it is read. -/
theorem pullPatch_eq : pullPatch cursor = cursor.behindLine (patch cursor.restOfLine) := by
  obtain ⟨parameter, middle, first, firstRead, near⟩ := exists_pullOptional_eq cursor "parameter"
  obtain ⟨vertices, behind, second, secondRead, far⟩ := exists_pullOptional_eq middle "vertices"
  rw [pullPatch, patch, first, firstRead]
  cases parameter with
  | false => rfl
  | true =>
    dsimp only
    rw [second, secondRead]
    cases vertices with
    | false => rfl
    | true =>
      rw [← behindLine_of_same (far.trans near)]
      exact (pullWord_pulledAs behind _).bind_line fun _ after => pullEnd_eq_finish _ _ after

/-- The extent of a probe is pulled as it is read. -/
theorem pullExtent_pulledAs :
    cursor.PulledAs (pullExtent cursor) ((probeExtent cursor.restOfLine).map
      fun found => ((found.1, found.2.1), found.2.2)) := by
  have first := pullProbeWord_pulledAs cursor
  unfold pullExtent
  cases read : probeWord cursor.restOfLine with
  | error cause =>
    rw [read] at first
    rw [first.eq_error, probeExtent, read]
    exact .refused cause
  | ok found =>
    rw [read] at first
    obtain ⟨text, rest⟩ := found
    obtain ⟨after, pulled, rfl, same⟩ := first.exists_eq_ok
    have format (extent : Extent) : after.PulledAs
        (pullProbeWord after >>= fun word => .ok ((extent, word.1), word.2))
        ((probeWord after.restOfLine >>= fun word => .ok (extent, word.1, word.2)).map
          fun found => ((found.1, found.2.1), found.2.2)) := by
      have regroup :
          (probeWord after.restOfLine >>= fun word => .ok (extent, word.1, word.2)).map
              (fun found => ((found.1, found.2.1), found.2.2)) =
            probeWord after.restOfLine >>= fun word => .ok ((extent, word.1), word.2) := by
        cases probeWord after.restOfLine <;> rfl
      rw [regroup]
      exact (pullProbeWord_pulledAs after).bind fun format _ => .stay (extent, format)
    rw [pulled, ok_bind]
    refine PulledAs.of_same same ?_
    dsimp only
    split
    case h_1 =>
      rw [probeExtent, read]
      exact format .rect
    case h_2 =>
      rw [probeExtent, read]
      exact format .window
    case h_3 =>
      rw [probeExtent, read, ok_bind]
      dsimp only
      split
      · contradiction
      · contradiction
      · exact .stay (Extent.pixel, text)

/-- The coordinates of a probe are pulled as they are read. -/
theorem pullRegion_pulledAs (extent : Extent) :
    cursor.PulledAs (pullRegion extent cursor) (probeRegion extent cursor.restOfLine) := by
  cases extent with
  | window => exact .stay Region.window
  | pixel =>
    exact (pullBracketed_pulledAs cursor pullPair_pulledAs rfl).bind fun (x, y) _ =>
      .stay (Region.pixel x y)
  | rect =>
    exact (pullBracketed_pulledAs cursor pullQuadruple_pulledAs rfl).bind
      fun (x, y, width, height) _ => .stay (Region.rect x y width height)

/-- The colour of a probe is pulled as it is read. -/
theorem pullColor_pulledAs (withAlpha : Bool) :
    cursor.PulledAs (pullColor withAlpha cursor) (probeColor withAlpha cursor.restOfLine) := by
  cases withAlpha with
  | true =>
    exact (pullBracketed_pulledAs cursor pullQuadruple_pulledAs rfl).bind
      fun (r, g, b, a) _ => .stay (ProbeColor.rgba r g b a)
  | false =>
    exact (pullBracketed_pulledAs cursor pullTriple_pulledAs rfl).bind
      fun (r, g, b) _ => .stay (ProbeColor.rgb r g b)

/-- A probe of the framebuffer is pulled as it is read. -/
theorem pullProbeFramebuffer_eq (relative : Bool) :
    pullProbeFramebuffer relative cursor =
      cursor.behindLine (probeFramebuffer relative cursor.restOfLine) := by
  have first := pullExtent_pulledAs cursor
  unfold pullProbeFramebuffer probeFramebuffer
  cases read : probeExtent cursor.restOfLine with
  | error cause =>
    rw [read] at first
    rw [first.eq_error]
    rfl
  | ok found =>
    obtain ⟨extent, format, rest⟩ := found
    rw [read] at first
    obtain ⟨after, pulled, rfl, same⟩ := first.exists_eq_ok
    rw [pulled, ok_bind, ok_bind, ← behindLine_of_same same]
    dsimp only
    cases probeFormat format with
    | error cause => rfl
    | ok withAlpha =>
      refine (pullRegion_pulledAs after extent).bind_line fun region after => ?_
      refine (pullColor_pulledAs after withAlpha).bind_line fun color after => ?_
      exact pullEnd_eq_finish _ _ after

/-- A probe of a storage buffer is pulled as it is read. -/
theorem pullProbeBuffer_eq :
    pullProbeBuffer cursor = cursor.behindLine (probeBuffer cursor.restOfLine) := by
  refine (pullDatumType_pulledAs cursor _).bind_line fun type after => ?_
  refine (pullBinding_pulledAs after _).bind_line fun binding after => ?_
  refine (pullProbeOffset_pulledAs after).bind_line fun offset after => ?_
  refine (pullComparator_pulledAs after).bind_line fun comparator after => ?_
  dsimp only
  rw [pullValues_eq]
  cases values .probeBuffer type after.restOfLine <;> rfl

/-- `probe` is pulled as it is read. -/
theorem pullProbe_eq : pullProbe cursor = cursor.behindLine (probe cursor.restOfLine) := by
  obtain ⟨given, after, pulled, read, same⟩ := exists_pullOptional_eq cursor "ssbo"
  rw [pullProbe, probe, pulled, read, ← behindLine_of_same same]
  cases given with
  | true => exact pullProbeBuffer_eq after
  | false => exact pullProbeFramebuffer_eq after false

/-- `relative probe` is pulled as it is read. -/
theorem pullRelative_eq : pullRelative cursor = cursor.behindLine (relative cursor.restOfLine) := by
  obtain ⟨given, after, pulled, read, same⟩ := exists_pullOptional_eq cursor "probe"
  rw [pullRelative, relative, pulled, read, ← behindLine_of_same same]
  cases given with
  | true => exact pullProbeFramebuffer_eq after true
  | false => rfl

/-- The data of a buffer are pulled as they are read. -/
theorem pullBufferData_eq (command : DataCommand) (cause : Error) :
    pullBufferData command cause cursor =
      cursor.behindLine (bufferData command cause cursor.restOfLine) := by
  refine (pullDatumType_pulledAs cursor _).bind_line fun type after => ?_
  refine (pullWord_pulledAs after _).bind_line fun offset after => ?_
  dsimp only
  rw [pullValues_eq]
  cases values command type after.restOfLine <;> rfl

/-- What is done with a storage buffer is pulled as it is read. -/
theorem pullStorageUpdate_eq (binding : Binding) :
    pullStorageUpdate binding cursor =
      cursor.behindLine (storageUpdate binding cursor.restOfLine) := by
  have size := pullWord_pulledAs cursor .invalidStorageSize
  unfold pullStorageUpdate
  by_cases ended : cursor.next.1.kind.isEnd = true
  · rw [if_pos ended, restOfLine_of_isEnd ended]
    rfl
  · rw [restOfLine_of_not_isEnd ended] at size ⊢
    rw [if_neg ended, storageUpdate]
    split
    · exact size.bind_line fun _ after => pullEnd_eq_finish _ _ after
    · split
      · rw [pullBufferData_eq, behindLine_next ended]
        cases bufferData .storage .invalidStorageOffset cursor.next.2.restOfLine <;> rfl
      · rfl

/-- `ssbo` is pulled as it is read. -/
theorem pullStorage_eq : pullStorage cursor = cursor.behindLine (storage cursor.restOfLine) := by
  refine pullPresent_bind_line (pullBinding_pulledAs cursor .storage) rfl (fun _ _ => rfl)
    fun binding after => ?_
  dsimp only
  rw [pullStorageUpdate_eq]
  cases storageUpdate binding after.restOfLine <;> rfl

/-- `uniform` is pulled as it is read. -/
theorem pullUniform_eq : pullUniform cursor = cursor.behindLine (uniform cursor.restOfLine) := by
  obtain ⟨given, behind, pulled, read, same⟩ := exists_pullOptional_eq cursor "ubo"
  rw [pullUniform, uniform, pulled, read, ← behindLine_of_same same]
  cases given with
  | true =>
    refine (pullBinding_pulledAs behind _).bind_line fun binding after => ?_
    dsimp only
    rw [pullBufferData_eq]
    cases bufferData .uniform .invalidUniformOffset after.restOfLine <;> rfl
  | false =>
    dsimp only
    rw [pullBufferData_eq]
    cases bufferData .uniform .invalidUniformOffset behind.restOfLine <;> rfl

/-- `tolerance` is pulled as it is read. -/
theorem pullTolerance_eq :
    pullTolerance cursor = cursor.behindLine (tolerance cursor.restOfLine) := by
  rw [pullTolerance, pullTolerances_eq]
  cases read : toleranceList 0 cursor.restOfLine with
  | error cause =>
    rw [tolerance, read]
    rfl
  | ok tolerances =>
    rw [behindLine, Except.map, ok_bind]
    dsimp only
    split
    case h_1 none =>
      rw [tolerance, read, ok_bind, none]
      rfl
    case h_2 one =>
      rw [tolerance, read, ok_bind, one]
      rfl
    case h_3 four =>
      rw [tolerance, read, ok_bind, four]
      rfl
    case h_4 =>
      rw [tolerance, read, ok_bind]
      split
      · contradiction
      · contradiction
      · contradiction
      · rfl

/-- A command pulls what is left on its line and the end of the line, and gives the operation that
is read from its line. -/
theorem pullOperation_eq (pipeline : Pipeline) (name : String) :
    pullOperation pipeline name cursor =
      cursor.behindLine (readOperation pipeline name cursor.restOfLine) := by
  unfold pullOperation
  split
  case h_1 => exact pullClear_eq cursor
  case h_2 => exact pullDraw_eq cursor pipeline
  case h_3 => exact pullCompute_eq cursor pipeline
  case h_4 => exact pullPatch_eq cursor
  case h_5 => exact pullProbe_eq cursor
  case h_6 => exact pullRelative_eq cursor
  case h_7 => exact pullStorage_eq cursor
  case h_8 => exact pullUniform_eq cursor
  case h_9 => exact pullTolerance_eq cursor
  case h_10 => exact pullTessellation_eq cursor
  case h_11 => exact pullEntryPoint_eq cursor .vertex
  case h_12 => exact pullEntryPoint_eq cursor .geometry
  case h_13 => exact pullEntryPoint_eq cursor .fragment
  case h_14 =>
    rw [readOperation]
    · rfl
    all_goals assumption

end GpuScript.Command
