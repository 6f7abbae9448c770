import GpuScript.Pipeline.Named

/-!
# Depth and stencil tests

How tests compare, what they do to the stencil value, and the stencil state of one face.
-/

namespace GpuScript

/-- How a depth or stencil test compares. -/
inductive CompareOp where
  | never | less | equal | lessOrEqual | greater | notEqual | greaterOrEqual | always
  deriving DecidableEq

namespace CompareOp

/-- Every value of the enumeration, in order. -/
def all : List CompareOp :=
  [.never, .less, .equal, .lessOrEqual, .greater, .notEqual, .greaterOrEqual, .always]

/-- The name of the value in scripts. -/
def name : CompareOp → String
  | never => "VK_COMPARE_OP_NEVER"
  | less => "VK_COMPARE_OP_LESS"
  | equal => "VK_COMPARE_OP_EQUAL"
  | lessOrEqual => "VK_COMPARE_OP_LESS_OR_EQUAL"
  | greater => "VK_COMPARE_OP_GREATER"
  | notEqual => "VK_COMPARE_OP_NOT_EQUAL"
  | greaterOrEqual => "VK_COMPARE_OP_GREATER_OR_EQUAL"
  | always => "VK_COMPARE_OP_ALWAYS"

end CompareOp

instance : Named CompareOp where
  kind := "CompareOp"
  all := CompareOp.all
  name := CompareOp.name

/-- What a stencil test does to the stencil value. -/
inductive StencilOp where
  | keep | zero | replace | incrementAndClamp | decrementAndClamp | invert | incrementAndWrap
  | decrementAndWrap
  deriving DecidableEq

namespace StencilOp

/-- Every value of the enumeration, in order. -/
def all : List StencilOp :=
  [.keep, .zero, .replace, .incrementAndClamp, .decrementAndClamp, .invert, .incrementAndWrap,
    .decrementAndWrap]

/-- The name of the value in scripts. -/
def name : StencilOp → String
  | keep => "VK_STENCIL_OP_KEEP"
  | zero => "VK_STENCIL_OP_ZERO"
  | replace => "VK_STENCIL_OP_REPLACE"
  | incrementAndClamp => "VK_STENCIL_OP_INCREMENT_AND_CLAMP"
  | decrementAndClamp => "VK_STENCIL_OP_DECREMENT_AND_CLAMP"
  | invert => "VK_STENCIL_OP_INVERT"
  | incrementAndWrap => "VK_STENCIL_OP_INCREMENT_AND_WRAP"
  | decrementAndWrap => "VK_STENCIL_OP_DECREMENT_AND_WRAP"

end StencilOp

instance : Named StencilOp where
  kind := "StencilOp"
  all := StencilOp.all
  name := StencilOp.name

/-- The stencil state of one face. -/
structure StencilFace where
  /-- What happens when the stencil test fails. -/
  failOp : StencilOp
  /-- What happens when both tests pass. -/
  passOp : StencilOp
  /-- What happens when the stencil test passes and the depth test fails. -/
  depthFailOp : StencilOp
  /-- How the stencil test compares. -/
  compareOp : CompareOp
  /-- The bits that are compared. -/
  compareMask : UInt32
  /-- The bits that are written. -/
  writeMask : UInt32
  /-- The value that the stencil value is compared with. -/
  reference : UInt32
  deriving DecidableEq

namespace StencilFace

/-- A face whose stencil test passes always and changes nothing. -/
def default : StencilFace where
  failOp := .keep
  passOp := .keep
  depthFailOp := .keep
  compareOp := .always
  compareMask := 0xFFFFFFFF
  writeMask := 0xFFFFFFFF
  reference := 0

end StencilFace

end GpuScript
