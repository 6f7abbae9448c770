import GpuScript.Binary.Basic
import GpuScript.Pipeline.Blend
import GpuScript.Pipeline.DepthStencil
import GpuScript.Pipeline.Primitive

/-!
# Pipeline state

The state with which a draw or a compute command runs. A test section starts from `default` and
changes it by property lines.
-/

namespace GpuScript

/-- The state with which a draw or a compute command runs. -/
structure Pipeline where
  /-- How vertices are assembled. -/
  topology : Topology
  /-- What is drawn of a polygon. -/
  polygonMode : PolygonMode
  /-- Which faces are discarded. -/
  cullMode : CullMode
  /-- The winding order of front faces. -/
  frontFace : FrontFace
  /-- The logical operation with the framebuffer. -/
  logicOp : LogicOp
  /-- The factor of the colour of the source. -/
  srcColorBlendFactor : BlendFactor
  /-- The factor of the colour of the destination. -/
  dstColorBlendFactor : BlendFactor
  /-- The factor of the alpha of the source. -/
  srcAlphaBlendFactor : BlendFactor
  /-- The factor of the alpha of the destination. -/
  dstAlphaBlendFactor : BlendFactor
  /-- How colours are combined. -/
  colorBlendOp : BlendOp
  /-- How alphas are combined. -/
  alphaBlendOp : BlendOp
  /-- The components of a colour that are written. -/
  colorWriteMask : ColorMask
  /-- How the depth test compares. -/
  depthCompareOp : CompareOp
  /-- The stencil state of front faces. -/
  front : StencilFace
  /-- The stencil state of back faces. -/
  back : StencilFace
  /-- The width of lines. -/
  lineWidth : Single
  /-- The constant part of the depth bias. -/
  depthBiasConstantFactor : Single
  /-- The bound of the depth bias. -/
  depthBiasClamp : Single
  /-- The part of the depth bias that grows with the slope. -/
  depthBiasSlopeFactor : Single
  /-- The lower bound of the depth bounds test. -/
  minDepthBounds : Single
  /-- The upper bound of the depth bounds test. -/
  maxDepthBounds : Single
  /-- A special index starts a new primitive. -/
  primitiveRestartEnable : Bool
  /-- Depths are clamped instead of clipped. -/
  depthClampEnable : Bool
  /-- All primitives are discarded. -/
  rasterizerDiscardEnable : Bool
  /-- The depth bias is applied. -/
  depthBiasEnable : Bool
  /-- The logical operation is applied. -/
  logicOpEnable : Bool
  /-- Blending is applied. -/
  blendEnable : Bool
  /-- The depth test is applied. -/
  depthTestEnable : Bool
  /-- Depths are written. -/
  depthWriteEnable : Bool
  /-- The depth bounds test is applied. -/
  depthBoundsTestEnable : Bool
  /-- The stencil test is applied. -/
  stencilTestEnable : Bool
  deriving DecidableEq, BEq

namespace Pipeline

/-- The state at the start of a test section. -/
def default : Pipeline where
  topology := .triangleStrip
  polygonMode := .fill
  cullMode := .none
  frontFace := .counterClockwise
  logicOp := .clear
  srcColorBlendFactor := .one
  dstColorBlendFactor := .zero
  srcAlphaBlendFactor := .one
  dstAlphaBlendFactor := .zero
  colorBlendOp := .add
  alphaBlendOp := .add
  colorWriteMask := ColorMask.all
  depthCompareOp := .always
  front := StencilFace.default
  back := StencilFace.default
  lineWidth := Binary.ofInt 1
  depthBiasConstantFactor := Binary.zero
  depthBiasClamp := Binary.zero
  depthBiasSlopeFactor := Binary.zero
  minDepthBounds := Binary.zero
  maxDepthBounds := Binary.zero
  primitiveRestartEnable := false
  depthClampEnable := false
  rasterizerDiscardEnable := false
  depthBiasEnable := false
  logicOpEnable := false
  blendEnable := false
  depthTestEnable := false
  depthWriteEnable := false
  depthBoundsTestEnable := false
  stencilTestEnable := false

end Pipeline

end GpuScript
