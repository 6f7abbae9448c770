import GpuScript.Pipeline.Basic
import GpuScript.SortedTable

/-!
# Properties of a pipeline

Every single field of the pipeline state, the seven fields of either stencil face included, is a
property with a name and a type of values. A property can be read and replaced: replacing it
changes the answer for this property alone.
-/

namespace GpuScript

/-- The properties that are switched on or off. -/
inductive Toggle where
  | primitiveRestart | depthClamp | rasterizerDiscard | depthBias | logicOp | blend | depthTest
  | depthWrite | depthBoundsTest | stencilTest
  deriving DecidableEq

/-- The properties that are numbers. -/
inductive Scalar where
  | lineWidth | depthBiasConstantFactor | depthBiasClamp | depthBiasSlopeFactor | minDepthBounds
  | maxDepthBounds
  deriving DecidableEq

/-- What a blend factor multiplies. -/
inductive BlendOperand where
  | srcColor | dstColor | srcAlpha | dstAlpha
  deriving DecidableEq

/-- The part of a colour that a blend operation combines. -/
inductive BlendPart where
  | color | alpha
  deriving DecidableEq

/-- The two faces of a polygon. -/
inductive Face where
  | front | back
  deriving DecidableEq

/-- The outcomes of the tests that a stencil operation belongs to. -/
inductive StencilOutcome where
  | fail | pass | depthFail
  deriving DecidableEq

/-- The words of a stencil face. -/
inductive StencilWord where
  | compareMask | writeMask | reference
  deriving DecidableEq

/-- A single field of the pipeline state. -/
inductive Property where
  | topology | polygonMode | cullMode | frontFace | logicOp
  | blendFactor (operand : BlendOperand)
  | blendOp (part : BlendPart)
  | colorWriteMask
  | depthCompareOp
  | stencilCompareOp (face : Face)
  | stencilOp (face : Face) (outcome : StencilOutcome)
  | stencilWord (face : Face) (word : StencilWord)
  | scalar (scalar : Scalar)
  | toggle (toggle : Toggle)
  deriving DecidableEq

namespace Property

/-- The type of the values of a property. -/
abbrev Value : Property → Type
  | topology => Topology
  | polygonMode => PolygonMode
  | cullMode => CullMode
  | frontFace => FrontFace
  | logicOp => LogicOp
  | blendFactor _ => BlendFactor
  | blendOp _ => BlendOp
  | colorWriteMask => ColorMask
  | depthCompareOp => CompareOp
  | stencilCompareOp _ => CompareOp
  | stencilOp _ _ => StencilOp
  | stencilWord _ _ => UInt32
  | scalar _ => Single
  | toggle _ => Bool

/-- The name of a property in scripts. -/
def name : Property → String
  | topology => "topology"
  | polygonMode => "polygonMode"
  | cullMode => "cullMode"
  | frontFace => "frontFace"
  | logicOp => "logicOp"
  | blendFactor .srcColor => "srcColorBlendFactor"
  | blendFactor .dstColor => "dstColorBlendFactor"
  | blendFactor .srcAlpha => "srcAlphaBlendFactor"
  | blendFactor .dstAlpha => "dstAlphaBlendFactor"
  | blendOp .color => "colorBlendOp"
  | blendOp .alpha => "alphaBlendOp"
  | colorWriteMask => "colorWriteMask"
  | depthCompareOp => "depthCompareOp"
  | stencilOp .front .fail => "front.failOp"
  | stencilOp .front .pass => "front.passOp"
  | stencilOp .front .depthFail => "front.depthFailOp"
  | stencilCompareOp .front => "front.compareOp"
  | stencilWord .front .compareMask => "front.compareMask"
  | stencilWord .front .writeMask => "front.writeMask"
  | stencilWord .front .reference => "front.reference"
  | stencilOp .back .fail => "back.failOp"
  | stencilOp .back .pass => "back.passOp"
  | stencilOp .back .depthFail => "back.depthFailOp"
  | stencilCompareOp .back => "back.compareOp"
  | stencilWord .back .compareMask => "back.compareMask"
  | stencilWord .back .writeMask => "back.writeMask"
  | stencilWord .back .reference => "back.reference"
  | scalar .lineWidth => "lineWidth"
  | scalar .depthBiasConstantFactor => "depthBiasConstantFactor"
  | scalar .depthBiasClamp => "depthBiasClamp"
  | scalar .depthBiasSlopeFactor => "depthBiasSlopeFactor"
  | scalar .minDepthBounds => "minDepthBounds"
  | scalar .maxDepthBounds => "maxDepthBounds"
  | toggle .primitiveRestart => "primitiveRestartEnable"
  | toggle .depthClamp => "depthClampEnable"
  | toggle .rasterizerDiscard => "rasterizerDiscardEnable"
  | toggle .depthBias => "depthBiasEnable"
  | toggle .logicOp => "logicOpEnable"
  | toggle .blend => "blendEnable"
  | toggle .depthTest => "depthTestEnable"
  | toggle .depthWrite => "depthWriteEnable"
  | toggle .depthBoundsTest => "depthBoundsTestEnable"
  | toggle .stencilTest => "stencilTestEnable"

/-- The properties by name. -/
def table : SortedTable Property where
  key := name
  entries :=
    #[.blendOp .alpha,
      .stencilWord .back .compareMask,
      .stencilCompareOp .back,
      .stencilOp .back .depthFail,
      .stencilOp .back .fail,
      .stencilOp .back .pass,
      .stencilWord .back .reference,
      .stencilWord .back .writeMask,
      .toggle .blend,
      .blendOp .color,
      .colorWriteMask,
      .cullMode,
      .scalar .depthBiasClamp,
      .scalar .depthBiasConstantFactor,
      .toggle .depthBias,
      .scalar .depthBiasSlopeFactor,
      .toggle .depthBoundsTest,
      .toggle .depthClamp,
      .depthCompareOp,
      .toggle .depthTest,
      .toggle .depthWrite,
      .blendFactor .dstAlpha,
      .blendFactor .dstColor,
      .stencilWord .front .compareMask,
      .stencilCompareOp .front,
      .stencilOp .front .depthFail,
      .stencilOp .front .fail,
      .stencilOp .front .pass,
      .stencilWord .front .reference,
      .stencilWord .front .writeMask,
      .frontFace,
      .scalar .lineWidth,
      .logicOp,
      .toggle .logicOp,
      .scalar .maxDepthBounds,
      .scalar .minDepthBounds,
      .polygonMode,
      .toggle .primitiveRestart,
      .toggle .rasterizerDiscard,
      .blendFactor .srcAlpha,
      .blendFactor .srcColor,
      .toggle .stencilTest,
      .topology]
  sorted := by decide +kernel

/-- The property with a name. -/
def ofName? (text : String) : Option Property :=
  table.find? text

end Property

namespace StencilFace

/-- The operation for an outcome. -/
def op (face : StencilFace) : StencilOutcome → StencilOp
  | .fail => face.failOp
  | .pass => face.passOp
  | .depthFail => face.depthFailOp

/-- The face with another operation for an outcome. -/
def setOp (face : StencilFace) (value : StencilOp) : StencilOutcome → StencilFace
  | .fail => { face with failOp := value }
  | .pass => { face with passOp := value }
  | .depthFail => { face with depthFailOp := value }

/-- One of the words of the face. -/
def word (face : StencilFace) : StencilWord → UInt32
  | .compareMask => face.compareMask
  | .writeMask => face.writeMask
  | .reference => face.reference

/-- The face with another word. -/
def setWord (face : StencilFace) (value : UInt32) : StencilWord → StencilFace
  | .compareMask => { face with compareMask := value }
  | .writeMask => { face with writeMask := value }
  | .reference => { face with reference := value }

end StencilFace

namespace Pipeline

/-- The stencil state of a face. -/
def stencil (pipeline : Pipeline) : Face → StencilFace
  | .front => pipeline.front
  | .back => pipeline.back

/-- The pipeline with another stencil state of a face. -/
def setStencil (pipeline : Pipeline) (value : StencilFace) : Face → Pipeline
  | .front => { pipeline with front := value }
  | .back => { pipeline with back := value }

/-- The value of a property. -/
def get (pipeline : Pipeline) : (property : Property) → property.Value
  | .topology => pipeline.topology
  | .polygonMode => pipeline.polygonMode
  | .cullMode => pipeline.cullMode
  | .frontFace => pipeline.frontFace
  | .logicOp => pipeline.logicOp
  | .blendFactor .srcColor => pipeline.srcColorBlendFactor
  | .blendFactor .dstColor => pipeline.dstColorBlendFactor
  | .blendFactor .srcAlpha => pipeline.srcAlphaBlendFactor
  | .blendFactor .dstAlpha => pipeline.dstAlphaBlendFactor
  | .blendOp .color => pipeline.colorBlendOp
  | .blendOp .alpha => pipeline.alphaBlendOp
  | .colorWriteMask => pipeline.colorWriteMask
  | .depthCompareOp => pipeline.depthCompareOp
  | .scalar .lineWidth => pipeline.lineWidth
  | .scalar .depthBiasConstantFactor => pipeline.depthBiasConstantFactor
  | .scalar .depthBiasClamp => pipeline.depthBiasClamp
  | .scalar .depthBiasSlopeFactor => pipeline.depthBiasSlopeFactor
  | .scalar .minDepthBounds => pipeline.minDepthBounds
  | .scalar .maxDepthBounds => pipeline.maxDepthBounds
  | .toggle .primitiveRestart => pipeline.primitiveRestartEnable
  | .toggle .depthClamp => pipeline.depthClampEnable
  | .toggle .rasterizerDiscard => pipeline.rasterizerDiscardEnable
  | .toggle .depthBias => pipeline.depthBiasEnable
  | .toggle .logicOp => pipeline.logicOpEnable
  | .toggle .blend => pipeline.blendEnable
  | .toggle .depthTest => pipeline.depthTestEnable
  | .toggle .depthWrite => pipeline.depthWriteEnable
  | .toggle .depthBoundsTest => pipeline.depthBoundsTestEnable
  | .toggle .stencilTest => pipeline.stencilTestEnable
  | .stencilCompareOp face => (pipeline.stencil face).compareOp
  | .stencilOp face outcome => (pipeline.stencil face).op outcome
  | .stencilWord face word => (pipeline.stencil face).word word

/-- The pipeline with another value of a property. -/
def set (pipeline : Pipeline) : (property : Property) → property.Value → Pipeline
  | .topology, value => { pipeline with topology := value }
  | .polygonMode, value => { pipeline with polygonMode := value }
  | .cullMode, value => { pipeline with cullMode := value }
  | .frontFace, value => { pipeline with frontFace := value }
  | .logicOp, value => { pipeline with logicOp := value }
  | .blendFactor .srcColor, value => { pipeline with srcColorBlendFactor := value }
  | .blendFactor .dstColor, value => { pipeline with dstColorBlendFactor := value }
  | .blendFactor .srcAlpha, value => { pipeline with srcAlphaBlendFactor := value }
  | .blendFactor .dstAlpha, value => { pipeline with dstAlphaBlendFactor := value }
  | .blendOp .color, value => { pipeline with colorBlendOp := value }
  | .blendOp .alpha, value => { pipeline with alphaBlendOp := value }
  | .colorWriteMask, value => { pipeline with colorWriteMask := value }
  | .depthCompareOp, value => { pipeline with depthCompareOp := value }
  | .scalar .lineWidth, value => { pipeline with lineWidth := value }
  | .scalar .depthBiasConstantFactor, value => { pipeline with depthBiasConstantFactor := value }
  | .scalar .depthBiasClamp, value => { pipeline with depthBiasClamp := value }
  | .scalar .depthBiasSlopeFactor, value => { pipeline with depthBiasSlopeFactor := value }
  | .scalar .minDepthBounds, value => { pipeline with minDepthBounds := value }
  | .scalar .maxDepthBounds, value => { pipeline with maxDepthBounds := value }
  | .toggle .primitiveRestart, value => { pipeline with primitiveRestartEnable := value }
  | .toggle .depthClamp, value => { pipeline with depthClampEnable := value }
  | .toggle .rasterizerDiscard, value => { pipeline with rasterizerDiscardEnable := value }
  | .toggle .depthBias, value => { pipeline with depthBiasEnable := value }
  | .toggle .logicOp, value => { pipeline with logicOpEnable := value }
  | .toggle .blend, value => { pipeline with blendEnable := value }
  | .toggle .depthTest, value => { pipeline with depthTestEnable := value }
  | .toggle .depthWrite, value => { pipeline with depthWriteEnable := value }
  | .toggle .depthBoundsTest, value => { pipeline with depthBoundsTestEnable := value }
  | .toggle .stencilTest, value => { pipeline with stencilTestEnable := value }
  | .stencilCompareOp face, value =>
    pipeline.setStencil { pipeline.stencil face with compareOp := value } face
  | .stencilOp face outcome, value =>
    pipeline.setStencil ((pipeline.stencil face).setOp value outcome) face
  | .stencilWord face word, value =>
    pipeline.setStencil ((pipeline.stencil face).setWord value word) face

/-- A property that was replaced has its new value. -/
@[simp]
theorem get_set (pipeline : Pipeline) (property : Property) (value : property.Value) :
    (pipeline.set property value).get property = value := by
  cases property with
  | blendFactor operand => cases operand <;> rfl
  | blendOp part => cases part <;> rfl
  | stencilCompareOp face => cases face <;> rfl
  | stencilOp face outcome => cases face <;> cases outcome <;> rfl
  | stencilWord face word => cases face <;> cases word <;> rfl
  | scalar scalar => cases scalar <;> rfl
  | toggle toggle => cases toggle <;> rfl
  | _ => rfl

end Pipeline

end GpuScript
