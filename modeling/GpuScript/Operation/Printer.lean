import GpuScript.Operation.Basic

/-!
# Operations as script lines

An operation is written as the words of a command line with a space between them. The pipeline
state is not written; every operand is, so that the line reads back as the operation.
-/

namespace GpuScript

open Text

/-- The text of an unsigned word. -/
def wordText (value : UInt32) : String :=
  decimalText value.toNat

/-- A word if a condition holds. -/
def optionalWord (present : Bool) (word : String) : List String :=
  if present then [word] else []

namespace Binding

/-- A binding as scripts write it: the set is left out if it is the first one. -/
def text (binding : Binding) : String :=
  if binding.set = 0 then wordText binding.index
  else wordText binding.set ++ ":" ++ wordText binding.index

end Binding

namespace BufferData

/-- The type, the offset and the values. -/
def words (data : BufferData) : List String :=
  data.datumType.name :: wordText data.offset :: data.values.map Value.text

end BufferData

namespace BufferUpdate

/-- The words of a command that changes a buffer. -/
def words : BufferUpdate → List String
  | storageSize binding size => ["ssbo", binding.text, wordText size]
  | storage binding data => "ssbo" :: binding.text :: "subdata" :: data.words
  | uniform binding data => "uniform" :: "ubo" :: binding.text :: data.words
  | pushConstants data => "uniform" :: data.words

end BufferUpdate

namespace Probe

/-- The words of a command that probes the framebuffer. -/
def words (probe : Probe) : List String :=
  let format := match probe.color with
    | .rgb _ _ _ => "rgb"
    | .rgba _ _ _ _ => "rgba"
  let place := match probe.region with
    | .window => ["all", format]
    | .pixel x y => [format, x.text, y.text]
    | .rect x y width height => ["rect", format, x.text, y.text, width.text, height.text]
  let color := match probe.color with
    | .rgb r g b => [r.text, g.text, b.text]
    | .rgba r g b a => [r.text, g.text, b.text, a.text]
  optionalWord probe.relative "relative" ++ "probe" :: (place ++ color)

end Probe

namespace BufferProbe

/-- The words of a command that probes a storage buffer. -/
def words (probe : BufferProbe) : List String :=
  "probe" :: "ssbo" :: probe.data.datumType.name :: probe.binding.text
    :: wordText probe.data.offset :: probe.comparator.symbol :: probe.data.values.map Value.text

end BufferProbe

namespace Operation

/-- The words of the command line that does an operation. -/
def words : Operation → List String
  | clear => ["clear"]
  | clearColor r g b a => ["clear", "color", r.text, g.text, b.text, a.text]
  | clearDepth value => ["clear", "depth", value.text]
  | clearStencil value => ["clear", "stencil", wordText value]
  | drawRect ortho patch x y width height _ =>
    "draw" :: "rect" :: (optionalWord ortho "ortho" ++ optionalWord patch "patch"
      ++ [x.text, y.text, width.text, height.text])
  | drawArrays indexed instances topology firstVertex vertexCount _ =>
    "draw" :: "arrays" :: (optionalWord indexed "indexed"
      ++ optionalWord instances.isSome "instanced"
      ++ [topology.drawName, wordText firstVertex, wordText vertexCount]
      ++ instances.toList.map wordText)
  | compute x y z _ => ["compute", wordText x, wordText y, wordText z]
  | entryPoint stage name => stage.words ++ ["entrypoint", name]
  | patchVertices count => ["patch", "parameter", "vertices", wordText count]
  | probe framebuffer => framebuffer.words
  | probeBuffer storage => storage.words
  | buffer update => update.words
  | tolerance tolerances => "tolerance" :: tolerances.map Tolerance.text

/-- The command line that does an operation. -/
def text (operation : Operation) : String :=
  " ".intercalate operation.words

end Operation

end GpuScript
