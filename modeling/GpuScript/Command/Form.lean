import GpuScript.Command.Operand

/-!
# Forms of commands

How the operation of a command is read from the tokens after its name, one function for each form.
Each reads its line to the end, so that nothing on a line is passed over.
-/

namespace GpuScript.Command

/-- `clear color` and four numbers. -/
def clearColor (tokens : List Token) : Except Error Operation := do
  let ((r, g, b, a), tokens) ← quadruple tokens
  finish (.extraOperand .clearColor) tokens
  .ok (.clearColor r g b a)

/-- `clear depth` and a number. -/
def clearDepth (tokens : List Token) : Except Error Operation := do
  let (value, tokens) ← number tokens
  finish (.extraOperand .clearDepth) tokens
  .ok (.clearDepth value)

/-- `clear stencil` and an unsigned word. -/
def clearStencil : List Token → Except Error Operation
  | [] => .error .missingStencilValue
  | tokens => do
    let (value, tokens) ← word .invalidStencilValue tokens
    finish (.extraOperand .clearStencil) tokens
    .ok (.clearStencil value)

/-- `clear`, alone or with what is to be set. -/
def clear : List Token → Except Error Operation
  | [] => .ok .clear
  | token :: rest =>
    match token.word? with
    | some "color" => clearColor rest
    | some "depth" => clearDepth rest
    | some "stencil" => clearStencil rest
    | _ => .error (.extraOperand .clear)

/-- `draw rect`, the two optional words and four numbers. -/
def drawRect (pipeline : Pipeline) (tokens : List Token) : Except Error Operation := do
  let (ortho, tokens) := optionalWord "ortho" tokens
  let (patch, tokens) := optionalWord "patch" tokens
  let ((x, y, width, height), tokens) ← quadruple tokens
  finish (.extraOperand .drawRect) tokens
  .ok (.drawRect ortho patch x y width height pipeline)

/-- A topology by one of the names that draws use. -/
def drawTopology : List Token → Except Error (Topology × List Token)
  | [] => .error .missingTopology
  | token :: rest =>
    match token.word? with
    | none => .error .missingTopology
    | some name =>
      match Topology.ofDrawName? name with
      | some topology => .ok (topology, rest)
      | none => .error (.unknownTopology name)

/-- The number of instances of a draw: zero if an instanced draw leaves it out. -/
def instanceCount (instanced : Bool) (tokens : List Token) :
    Except Error (Option UInt32 × List Token) :=
  match instanced, tokens with
  | false, tokens => .ok (none, tokens)
  | true, [] => .ok (some 0, [])
  | true, token :: rest =>
    (word .invalidInstanceCount (token :: rest)).map fun (count, rest) => (some count, rest)

/-- `draw arrays`, the two optional words, a topology and the counts. -/
def drawArrays (pipeline : Pipeline) (tokens : List Token) : Except Error Operation := do
  let (indexed, tokens) := optionalWord "indexed" tokens
  let (instanced, tokens) := optionalWord "instanced" tokens
  let (topology, tokens) ← drawTopology tokens
  let (firstVertex, tokens) ← word .invalidFirstVertex tokens
  let (vertexCount, tokens) ← word .invalidVertexCount tokens
  let (instances, tokens) ← instanceCount instanced tokens
  finish (.extraOperand .drawArrays) tokens
  .ok (.drawArrays indexed instances topology firstVertex vertexCount pipeline)

/-- `draw` and what is drawn. -/
def draw (pipeline : Pipeline) : List Token → Except Error Operation
  | [] => .error .invalidDraw
  | token :: rest =>
    match token.word? with
    | some "rect" => drawRect pipeline rest
    | some "arrays" => drawArrays pipeline rest
    | _ => .error .invalidDraw

/-- `entrypoint` and a name, after the words of a stage. -/
def entryPoint (stage : Stage) (tokens : List Token) : Except Error Operation :=
  match optionalWord "entrypoint" tokens with
  | (false, _) => .error (.unknownCommand stage.name)
  | (true, []) => .error .missingEntryPointName
  | (true, token :: rest) =>
    match token.word? with
    | none => .error .entryPointNameNotWord
    | some name => do
      finish (.extraOperand .entryPoint) rest
      .ok (.entryPoint stage name)

/-- `tessellation` and the rest of an entry point of one of its two stages. -/
def tessellation : List Token → Except Error Operation
  | [] => .error .invalidTessellationStage
  | token :: rest =>
    match token.word? with
    | some "evaluation" => entryPoint .tessEvaluation rest
    | some "control" => entryPoint .tessControl rest
    | _ => .error .invalidTessellationStage

/-- `compute` and three counts of work groups. -/
def computeGroups (pipeline : Pipeline) (tokens : List Token) : Except Error Operation := do
  let (x, tokens) ← word (.invalidGroupCount .x) tokens
  let (y, tokens) ← word (.invalidGroupCount .y) tokens
  let (z, tokens) ← word (.invalidGroupCount .z) tokens
  finish (.extraOperand .compute) tokens
  .ok (.compute x y z pipeline)

/-- `compute`, with counts or as the stage of an entry point. -/
def compute (pipeline : Pipeline) (tokens : List Token) : Except Error Operation :=
  match tokens.head?.bind Token.word? with
  | some "entrypoint" => entryPoint .compute tokens
  | some _ => .error (.unknownCommand Stage.compute.name)
  | none => computeGroups pipeline tokens

/-- `patch parameter vertices` and a count. -/
def patch (tokens : List Token) : Except Error Operation :=
  match optionalWord "parameter" tokens with
  | (false, _) => .error .missingPatchParameter
  | (true, tokens) =>
    match optionalWord "vertices" tokens with
    | (false, _) => .error .missingPatchVertices
    | (true, tokens) => do
      let (count, tokens) ← word .invalidPatchCount tokens
      finish (.extraOperand .patchVertices) tokens
      .ok (.patchVertices count)

/-- The next word of a probe. -/
def probeWord : List Token → Except Error (String × List Token)
  | [] => .error .invalidProbeWord
  | token :: rest =>
    match token.word? with
    | some text => .ok (text, rest)
    | none => .error .invalidProbeWord

/-- What a probe looks at, before its coordinates are known. -/
inductive Extent where
  | window | pixel | rect
  deriving DecidableEq

/-- The optional word for the extent of a probe, and the word after it. -/
def probeExtent (tokens : List Token) : Except Error (Extent × String × List Token) := do
  let (text, tokens) ← probeWord tokens
  match text with
  | "rect" =>
    let (format, tokens) ← probeWord tokens
    .ok (.rect, format, tokens)
  | "all" =>
    let (format, tokens) ← probeWord tokens
    .ok (.window, format, tokens)
  | format => .ok (.pixel, format, tokens)

/-- The coordinates of a probe. -/
def probeRegion (extent : Extent) (tokens : List Token) : Except Error (Region × List Token) :=
  match extent with
  | .window => .ok (.window, tokens)
  | .pixel => do
    let ((x, y), tokens) ← bracketed pair tokens
    .ok (.pixel x y, tokens)
  | .rect => do
    let ((x, y, width, height), tokens) ← bracketed quadruple tokens
    .ok (.rect x y width height, tokens)

/-- The colour of a probe, with alpha or without it. -/
def probeColor (withAlpha : Bool) (tokens : List Token) :
    Except Error (ProbeColor × List Token) :=
  match withAlpha with
  | true => do
    let ((r, g, b, a), tokens) ← bracketed quadruple tokens
    .ok (.rgba r g b a, tokens)
  | false => do
    let ((r, g, b), tokens) ← bracketed triple tokens
    .ok (.rgb r g b, tokens)

/-- The colour format of a probe: whether it has an alpha. -/
def probeFormat : String → Except Error Bool
  | "rgb" => .ok false
  | "rgba" => .ok true
  | _ => .error .invalidProbeFormat

/-- A probe of the framebuffer, after `probe`. -/
def probeFramebuffer (relative : Bool) (tokens : List Token) : Except Error Operation := do
  let (extent, format, tokens) ← probeExtent tokens
  let withAlpha ← probeFormat format
  let (region, tokens) ← probeRegion extent tokens
  let (color, tokens) ← probeColor withAlpha tokens
  finish (.extraOperand .probe) tokens
  .ok (.probe ⟨relative, region, color⟩)

/-- The offset of a probe of a storage buffer. -/
def probeOffset : List Token → Except Error (UInt32 × List Token)
  | [] => .error .probeOffsetNotNumber
  | token :: rest =>
    if token.kind.toDouble?.isSome then word .invalidProbeOffset (token :: rest)
    else .error .probeOffsetNotNumber

/-- A comparator. -/
def comparator : List Token → Except Error (Comparator × List Token)
  | [] => .error .invalidComparator
  | token :: rest =>
    match token.word?.bind Comparator.ofSymbol? with
    | some value => .ok (value, rest)
    | none => .error .invalidComparator

/-- A probe of a storage buffer, after `probe ssbo`. -/
def probeBuffer (tokens : List Token) : Except Error Operation := do
  let (type, tokens) ← datumType .probeBuffer tokens
  let (binding, tokens) ← binding .probeBuffer tokens
  let (offset, tokens) ← probeOffset tokens
  let (comparator, tokens) ← comparator tokens
  let values ← values .probeBuffer type tokens
  .ok (.probeBuffer ⟨binding, comparator, ⟨type, offset, values⟩⟩)

/-- `probe` and what is probed. -/
def probe (tokens : List Token) : Except Error Operation :=
  match optionalWord "ssbo" tokens with
  | (true, tokens) => probeBuffer tokens
  | (false, tokens) => probeFramebuffer false tokens

/-- `relative probe` and the framebuffer probe that is relative. -/
def relative (tokens : List Token) : Except Error Operation :=
  match optionalWord "probe" tokens with
  | (true, tokens) => probeFramebuffer true tokens
  | (false, _) => .error .relativeWithoutProbe

/-- A type, an offset and values. -/
def bufferData (command : DataCommand) (cause : Error) (tokens : List Token) :
    Except Error BufferData := do
  let (type, tokens) ← datumType command tokens
  let (offset, tokens) ← word cause tokens
  let values ← values command type tokens
  .ok ⟨type, offset, values⟩

/-- What a storage buffer command does with its buffer: a size, or `subdata` and values. -/
def storageUpdate (binding : Binding) : List Token → Except Error BufferUpdate
  | [] => .error .missingStorageSize
  | token :: rest =>
    if token.kind.toDouble?.isSome then do
      let (size, tokens) ← word .invalidStorageSize (token :: rest)
      finish (.extraOperand .bufferSize) tokens
      .ok (.storageSize binding size)
    else if token.isWord "subdata" then
      (bufferData .storage .invalidStorageOffset rest).map (.storage binding)
    else
      .error .invalidStorageOperand

/-- `ssbo`, a binding and what is done with the buffer. -/
def storage : List Token → Except Error Operation
  | [] => .error .missingStorageOperands
  | tokens => do
    let (binding, tokens) ← binding .storage tokens
    let update ← storageUpdate binding tokens
    .ok (.buffer update)

/-- `uniform` and values, for the push constants or for the buffer named after `ubo`. -/
def uniform (tokens : List Token) : Except Error Operation :=
  match optionalWord "ubo" tokens with
  | (true, tokens) => do
    let (binding, tokens) ← binding .uniform tokens
    let data ← bufferData .uniform .invalidUniformOffset tokens
    .ok (.buffer (.uniform binding data))
  | (false, tokens) => do
    let data ← bufferData .uniform .invalidUniformOffset tokens
    .ok (.buffer (.pushConstants data))

/-- The tolerances on the rest of a line, after a number of them: a decimal number each, with a
percent sign or without one. There is no place for a fifth. -/
def toleranceList : Nat → List Token → Except Error (List Tolerance)
  | _, [] => .ok []
  | count, token :: rest =>
    match token.kind.decimalDouble? with
    | none => .error .invalidTolerance
    | some value =>
      if 4 ≤ count then
        .error (.extraOperand .tolerance)
      else
        match rest with
        | [] => .ok [⟨value, false⟩]
        | sign :: after =>
          if sign.kind = .percent then
            (toleranceList (count + 1) after).map (⟨value, true⟩ :: ·)
          else
            (toleranceList (count + 1) (sign :: after)).map (⟨value, false⟩ :: ·)

/-- `tolerance` and one tolerance for all components or one for each. -/
def tolerance (tokens : List Token) : Except Error Operation := do
  let tolerances ← toleranceList 0 tokens
  match tolerances.length with
  | 0 => .error .missingTolerance
  | 1 | 4 => .ok (.tolerance tolerances)
  | _ => .error .incorrectToleranceCount

/-- The operation of the command with a name. -/
def readOperation (pipeline : Pipeline) (name : String) (tokens : List Token) :
    Except Error Operation :=
  match name with
  | "clear" => clear tokens
  | "draw" => draw pipeline tokens
  | "compute" => compute pipeline tokens
  | "patch" => patch tokens
  | "probe" => probe tokens
  | "relative" => relative tokens
  | "ssbo" => storage tokens
  | "uniform" => uniform tokens
  | "tolerance" => tolerance tokens
  | "tessellation" => tessellation tokens
  | "vertex" => entryPoint .vertex tokens
  | "geometry" => entryPoint .geometry tokens
  | "fragment" => entryPoint .fragment tokens
  | _ => .error (.unknownCommand name)

end GpuScript.Command
