import GpuScript.DatumType
import GpuScript.Pipeline.Basic
import GpuScript.Stage
import GpuScript.Tolerance

/-!
# Operations

What the commands of a test section do. Draws and compute commands carry the pipeline state with
which they run.
-/

namespace GpuScript

/-- How the values of a buffer are compared with the expected ones. -/
inductive Comparator where
  /-- The values are equal. -/
  | equal
  /-- The values differ. -/
  | notEqual
  /-- The values are equal within the tolerance; for integers, equal. -/
  | fuzzyEqual
  /-- The values are less. -/
  | less
  /-- The values are less or equal. -/
  | lessOrEqual
  /-- The values are greater. -/
  | greater
  /-- The values are greater or equal. -/
  | greaterOrEqual
  deriving DecidableEq

namespace Comparator

/-- Every comparator. -/
def all : List Comparator :=
  [.equal, .notEqual, .fuzzyEqual, .less, .lessOrEqual, .greater, .greaterOrEqual]

/-- The symbol of a comparator in scripts. -/
def symbol : Comparator → String
  | equal => "=="
  | notEqual => "!="
  | fuzzyEqual => "~="
  | less => "<"
  | lessOrEqual => "<="
  | greater => ">"
  | greaterOrEqual => ">="

/-- The comparator with a symbol. -/
def ofSymbol? (text : String) : Option Comparator :=
  all.find? fun comparator => comparator.symbol == text

end Comparator

/-- The place of a buffer: a descriptor set and a binding in it. -/
structure Binding where
  /-- The descriptor set. -/
  set : UInt32
  /-- The binding in the set. -/
  index : UInt32
  deriving DecidableEq

/-- Typed values for a buffer. -/
structure BufferData where
  /-- The type of the values. -/
  datumType : DatumType
  /-- The byte at which the values start. -/
  offset : UInt32
  /-- The values. -/
  values : List Value
  deriving DecidableEq, BEq

/-- A change of a buffer. -/
inductive BufferUpdate where
  /-- A storage buffer gets a size. -/
  | storageSize (binding : Binding) (size : UInt32)
  /-- Values are written to a storage buffer. -/
  | storage (binding : Binding) (data : BufferData)
  /-- Values are written to a uniform buffer. -/
  | uniform (binding : Binding) (data : BufferData)
  /-- Values are written to the push constants. -/
  | pushConstants (data : BufferData)
  deriving DecidableEq, BEq

/-- The part of the framebuffer that a probe looks at. -/
inductive Region where
  /-- All of it. -/
  | window
  /-- A single pixel. -/
  | pixel (x y : Single)
  /-- A rectangle. -/
  | rect (x y width height : Single)
  deriving DecidableEq, BEq

namespace Region

/-- The corner, the width and the height of a region. A pixel is one wide and one high; the whole
framebuffer is written as the pixel at the origin. -/
def bounds : Region → Single × Single × Single × Single
  | window => (Binary.zero, Binary.zero, Binary.ofInt 1, Binary.ofInt 1)
  | pixel x y => (x, y, Binary.ofInt 1, Binary.ofInt 1)
  | rect x y width height => (x, y, width, height)

end Region

/-- The colour that a probe expects. -/
inductive ProbeColor where
  /-- A colour whose alpha is not looked at. -/
  | rgb (r g b : Single)
  /-- A colour with alpha. -/
  | rgba (r g b a : Single)
  deriving DecidableEq, BEq

namespace ProbeColor

/-- The components of the colour, with zero for an alpha that is not looked at. -/
def components : ProbeColor → List Single
  | rgb r g b => [r, g, b, Binary.zero]
  | rgba r g b a => [r, g, b, a]

end ProbeColor

/-- A look at the framebuffer. -/
structure Probe where
  /-- Whether coordinates are fractions of the size of the framebuffer. -/
  relative : Bool
  /-- The part that is looked at. -/
  region : Region
  /-- The colour that is expected there. -/
  color : ProbeColor
  deriving DecidableEq, BEq

/-- A look at a storage buffer. -/
structure BufferProbe where
  /-- The buffer. -/
  binding : Binding
  /-- How values are compared. -/
  comparator : Comparator
  /-- The expected values and their place. -/
  data : BufferData
  deriving DecidableEq, BEq

/-- What a command does. -/
inductive Operation where
  /-- The framebuffer is cleared. -/
  | clear
  /-- The colour for clearing is set. -/
  | clearColor (r g b a : Single)
  /-- The depth for clearing is set. -/
  | clearDepth (value : Single)
  /-- The stencil value for clearing is set. -/
  | clearStencil (value : UInt32)
  /-- A rectangle is drawn. -/
  | drawRect (ortho patch : Bool) (x y width height : Single) (pipeline : Pipeline)
  /-- Vertices are drawn; `instances` is the number of instances of an instanced draw. -/
  | drawArrays (indexed : Bool) (instances : Option UInt32) (topology : Topology)
      (firstVertex vertexCount : UInt32) (pipeline : Pipeline)
  /-- Work groups are computed. -/
  | compute (x y z : UInt32) (pipeline : Pipeline)
  /-- The function that a stage starts with is set. -/
  | entryPoint (stage : Stage) (name : String)
  /-- The number of vertices of a patch is set. -/
  | patchVertices (count : UInt32)
  /-- The framebuffer is probed. -/
  | probe (probe : Probe)
  /-- A storage buffer is probed. -/
  | probeBuffer (probe : BufferProbe)
  /-- A buffer is changed. -/
  | buffer (update : BufferUpdate)
  /-- The tolerances of probes are set. -/
  | tolerance (tolerances : List Tolerance)
  deriving DecidableEq, BEq

/-- A command of a test section. -/
structure Command where
  /-- The line on which the command starts. -/
  line : Nat
  /-- What the command does. -/
  operation : Operation
  deriving DecidableEq, BEq

end GpuScript
