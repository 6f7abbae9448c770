import GpuScript.Pipeline.Property
import GpuScript.Proofs.SortedTable
import Mathlib.Logic.Function.Basic

/-!
# Properties are the coordinates of a pipeline

The properties of a pipeline state are its single fields: their values can be chosen freely, and
together they are the whole state (`Pipeline.bijective_get`). Replacing a property is an update of
this one coordinate (`Pipeline.get_set_eq_update`), and each property is found by its own name alone
(`Property.ofName?_eq_some_iff`).
-/

namespace GpuScript

namespace Property

/-- Every property stands in the table. -/
theorem mem_table (property : Property) : property ∈ table.entries := by
  cases property with
  | blendFactor operand => cases operand <;> decide +kernel
  | blendOp part => cases part <;> decide +kernel
  | stencilCompareOp face => cases face <;> decide +kernel
  | stencilOp face outcome => cases face <;> cases outcome <;> decide +kernel
  | stencilWord face word => cases face <;> cases word <;> decide +kernel
  | scalar scalar => cases scalar <;> decide +kernel
  | toggle toggle => cases toggle <;> decide +kernel
  | _ => decide +kernel

/-- A name is that of one property, and every property has a name. -/
theorem ofName?_eq_some_iff {text : String} {property : Property} :
    ofName? text = some property ↔ property.name = text := by
  constructor
  · exact SortedTable.key_of_find?
  · rintro rfl
    exact SortedTable.find?_key property.mem_table

end Property

/-- The stencil state of a face with given values of the properties. -/
def StencilFace.ofValues (values : (property : Property) → property.Value) (face : Face) :
    StencilFace where
  failOp := values (.stencilOp face .fail)
  passOp := values (.stencilOp face .pass)
  depthFailOp := values (.stencilOp face .depthFail)
  compareOp := values (.stencilCompareOp face)
  compareMask := values (.stencilWord face .compareMask)
  writeMask := values (.stencilWord face .writeMask)
  reference := values (.stencilWord face .reference)

namespace Pipeline

/-- The pipeline state with given values of the properties. -/
def ofValues (values : (property : Property) → property.Value) : Pipeline where
  topology := values .topology
  polygonMode := values .polygonMode
  cullMode := values .cullMode
  frontFace := values .frontFace
  logicOp := values .logicOp
  srcColorBlendFactor := values (.blendFactor .srcColor)
  dstColorBlendFactor := values (.blendFactor .dstColor)
  srcAlphaBlendFactor := values (.blendFactor .srcAlpha)
  dstAlphaBlendFactor := values (.blendFactor .dstAlpha)
  colorBlendOp := values (.blendOp .color)
  alphaBlendOp := values (.blendOp .alpha)
  colorWriteMask := values .colorWriteMask
  depthCompareOp := values .depthCompareOp
  front := .ofValues values .front
  back := .ofValues values .back
  lineWidth := values (.scalar .lineWidth)
  depthBiasConstantFactor := values (.scalar .depthBiasConstantFactor)
  depthBiasClamp := values (.scalar .depthBiasClamp)
  depthBiasSlopeFactor := values (.scalar .depthBiasSlopeFactor)
  minDepthBounds := values (.scalar .minDepthBounds)
  maxDepthBounds := values (.scalar .maxDepthBounds)
  primitiveRestartEnable := values (.toggle .primitiveRestart)
  depthClampEnable := values (.toggle .depthClamp)
  rasterizerDiscardEnable := values (.toggle .rasterizerDiscard)
  depthBiasEnable := values (.toggle .depthBias)
  logicOpEnable := values (.toggle .logicOp)
  blendEnable := values (.toggle .blend)
  depthTestEnable := values (.toggle .depthTest)
  depthWriteEnable := values (.toggle .depthWrite)
  depthBoundsTestEnable := values (.toggle .depthBoundsTest)
  stencilTestEnable := values (.toggle .stencilTest)

/-- The properties have the values that were given. -/
@[simp]
theorem get_ofValues (values : (property : Property) → property.Value) :
    (ofValues values).get = values := by
  funext property
  cases property with
  | blendFactor operand => cases operand <;> rfl
  | blendOp part => cases part <;> rfl
  | stencilCompareOp face => cases face <;> rfl
  | stencilOp face outcome => cases face <;> cases outcome <;> rfl
  | stencilWord face word => cases face <;> cases word <;> rfl
  | scalar scalar => cases scalar <;> rfl
  | toggle toggle => cases toggle <;> rfl
  | _ => rfl

/-- The values of its properties make up a pipeline state. -/
@[simp]
theorem ofValues_get (pipeline : Pipeline) : ofValues pipeline.get = pipeline :=
  rfl

/-- A pipeline state is any choice of values for the properties. -/
theorem bijective_get : Function.Bijective get :=
  Function.bijective_iff_has_inverse.mpr ⟨ofValues, ofValues_get, get_ofValues⟩

/-- To replace a property is to make up the state with another value for it. -/
theorem set_eq_ofValues (pipeline : Pipeline) (property : Property) (value : property.Value) :
    pipeline.set property value = ofValues (Function.update pipeline.get property value) := by
  cases property with
  | blendFactor operand => cases operand <;> rfl
  | blendOp part => cases part <;> rfl
  | stencilCompareOp face => cases face <;> rfl
  | stencilOp face outcome => cases face <;> cases outcome <;> rfl
  | stencilWord face word => cases face <;> cases word <;> rfl
  | scalar scalar => cases scalar <;> rfl
  | toggle toggle => cases toggle <;> rfl
  | _ => rfl

/-- Replacing a property updates its value and keeps all others. -/
theorem get_set_eq_update (pipeline : Pipeline) (property : Property) (value : property.Value) :
    (pipeline.set property value).get = Function.update pipeline.get property value := by
  rw [set_eq_ofValues, get_ofValues]

/-- A property that was not replaced keeps its value. -/
theorem get_set_of_ne {property other : Property} (different : other ≠ property)
    (pipeline : Pipeline) (value : property.Value) :
    (pipeline.set property value).get other = pipeline.get other := by
  rw [get_set_eq_update, Function.update_of_ne different]

end Pipeline

end GpuScript
