import GpuScript.Json.Basic
import GpuScript.Script.Basic

/-!
# Scripts as JSON

The JSON value of a script and of everything in it. Alternatives are told apart by a member `type`
or `kind`, or by the one member of an object that is named for the alternative.
-/

namespace GpuScript

/-- An unsigned word as a JSON value. -/
def Json.word (value : UInt32) : Json :=
  .integer value.toNat

/-- A value of an enumeration by its name. -/
def Json.named {α : Type} [Named α] (value : α) : Json :=
  .string (Named.name value)

/-- An alternative by its name. -/
def Json.variant (name : String) (members : List (String × Json)) : Json :=
  .object [(name, .object members)]

namespace BaseType

/-- What JSON calls a kind of number. -/
def jsonName : BaseType → String
  | signed => "SInt"
  | unsigned => "UInt"
  | float => "Float"

end BaseType

namespace Stage

/-- What JSON calls a stage. -/
def jsonName : Stage → String
  | vertex => "vertex"
  | tessControl => "tess_ctrl"
  | tessEvaluation => "tess_eval"
  | geometry => "geometry"
  | fragment => "fragment"
  | compute => "compute"

end Stage

namespace Comparator

/-- What JSON calls a comparator. -/
def jsonName : Comparator → String
  | equal => "equal"
  | notEqual => "not_equal"
  | fuzzyEqual => "fuzzy_equal"
  | less => "less"
  | lessOrEqual => "less_or_equal"
  | greater => "greater"
  | greaterOrEqual => "greater_or_equal"

end Comparator

namespace Value

/-- A value as a JSON value. -/
def toJson : Value → Json
  | signed _ bits => .integer bits.toInt
  | unsigned _ bits => .integer bits.toNat
  | float precision number => .float precision number

end Value

namespace DatumType

/-- A type of buffer data as a JSON value. -/
def toJson (datumType : DatumType) : Json :=
  .object
    [("name", .string datumType.name),
      ("base_type", .string datumType.base.jsonName),
      ("bits", .natural datumType.bits),
      ("columns", .natural datumType.columns),
      ("rows", .natural datumType.rows)]

end DatumType

namespace Tolerance

/-- A tolerance as a JSON value. -/
def toJson (tolerance : Tolerance) : Json :=
  .object [("value", .float .double tolerance.value), ("is_percent", .bool tolerance.isPercent)]

end Tolerance

namespace StencilFace

/-- The stencil state of a face as a JSON value. -/
def toJson (face : StencilFace) : Json :=
  .object
    [("fail_op", .named face.failOp),
      ("pass_op", .named face.passOp),
      ("depth_fail_op", .named face.depthFailOp),
      ("compare_op", .named face.compareOp),
      ("compare_mask", .word face.compareMask),
      ("write_mask", .word face.writeMask),
      ("reference", .word face.reference)]

end StencilFace

namespace Pipeline

/-- The fields of a pipeline state as members. -/
def members (pipeline : Pipeline) : List (String × Json) :=
  [("topology", .named pipeline.topology),
    ("polygon_mode", .named pipeline.polygonMode),
    ("cull_mode", .named pipeline.cullMode),
    ("front_face", .named pipeline.frontFace),
    ("logic_op", .named pipeline.logicOp),
    ("src_color_blend_factor", .named pipeline.srcColorBlendFactor),
    ("dst_color_blend_factor", .named pipeline.dstColorBlendFactor),
    ("src_alpha_blend_factor", .named pipeline.srcAlphaBlendFactor),
    ("dst_alpha_blend_factor", .named pipeline.dstAlphaBlendFactor),
    ("color_blend_op", .named pipeline.colorBlendOp),
    ("alpha_blend_op", .named pipeline.alphaBlendOp),
    ("color_write_mask", .natural pipeline.colorWriteMask.toNat),
    ("depth_compare_op", .named pipeline.depthCompareOp),
    ("front", pipeline.front.toJson),
    ("back", pipeline.back.toJson),
    ("line_width", .single pipeline.lineWidth),
    ("depth_bias_constant_factor", .single pipeline.depthBiasConstantFactor),
    ("depth_bias_clamp", .single pipeline.depthBiasClamp),
    ("depth_bias_slope_factor", .single pipeline.depthBiasSlopeFactor),
    ("min_depth_bounds", .single pipeline.minDepthBounds),
    ("max_depth_bounds", .single pipeline.maxDepthBounds),
    ("primitive_restart_enable", .bool pipeline.primitiveRestartEnable),
    ("depth_clamp_enable", .bool pipeline.depthClampEnable),
    ("rasterizer_discard_enable", .bool pipeline.rasterizerDiscardEnable),
    ("depth_bias_enable", .bool pipeline.depthBiasEnable),
    ("logic_op_enable", .bool pipeline.logicOpEnable),
    ("blend_enable", .bool pipeline.blendEnable),
    ("depth_test_enable", .bool pipeline.depthTestEnable),
    ("depth_write_enable", .bool pipeline.depthWriteEnable),
    ("depth_bounds_test_enable", .bool pipeline.depthBoundsTestEnable),
    ("stencil_test_enable", .bool pipeline.stencilTestEnable)]

/-- A pipeline state as a JSON value. -/
def toJson (pipeline : Pipeline) : Json :=
  .object pipeline.members

end Pipeline

namespace BufferData

/-- Typed values as a JSON value. -/
def toJson (data : BufferData) : Json :=
  .variant "subdata"
    [("datum_type", data.datumType.toJson),
      ("offset", .word data.offset),
      ("values", .array (data.values.map Value.toJson))]

end BufferData

namespace BufferUpdate

/-- A change of a buffer as a JSON value. Push constants have no binding, so theirs is zero. -/
def toJson (update : BufferUpdate) : Json :=
  let buffer (kind : String) (binding : Binding) (data : Json) : Json :=
    .variant "buffer"
      [("kind", .string kind),
        ("descriptor_set", .word binding.set),
        ("binding", .word binding.index),
        ("data", data)]
  match update with
  | storageSize binding size => buffer "ssbo" binding (.object [("size", .word size)])
  | storage binding data => buffer "ssbo" binding data.toJson
  | uniform binding data => buffer "ubo" binding data.toJson
  | pushConstants data => buffer "push_constant" ⟨0, 0⟩ data.toJson

end BufferUpdate

namespace Probe

/-- A probe of the framebuffer as a JSON value. -/
def toJson (probe : Probe) : Json :=
  let (x, y, width, height) := probe.region.bounds
  .variant "probe"
    [("relative", .bool probe.relative),
      ("whole_window", .bool (match probe.region with | .window => true | _ => false)),
      ("is_rect", .bool (match probe.region with | .rect .. => true | _ => false)),
      ("is_rgba", .bool (match probe.color with | .rgba .. => true | _ => false)),
      ("x", .single x),
      ("y", .single y),
      ("width", .single width),
      ("height", .single height),
      ("color", .array (probe.color.components.map Json.single))]

end Probe

namespace BufferProbe

/-- A probe of a storage buffer as a JSON value. -/
def toJson (probe : BufferProbe) : Json :=
  .variant "probe_ssbo"
    [("descriptor_set", .word probe.binding.set),
      ("binding", .word probe.binding.index),
      ("offset", .word probe.data.offset),
      ("comparator", .string probe.comparator.jsonName),
      ("datum_type", probe.data.datumType.toJson),
      ("values", .array (probe.data.values.map Value.toJson))]

end BufferProbe

namespace Operation

/-- An operation as a JSON value. -/
def toJson : Operation → Json
  | clear => .string "clear"
  | clearColor r g b a =>
    .variant "clear_color" [("r", .single r), ("g", .single g), ("b", .single b), ("a", .single a)]
  | clearDepth value => .variant "clear_depth" [("value", .single value)]
  | clearStencil value => .variant "clear_stencil" [("value", .word value)]
  | drawRect ortho patch x y width height pipeline =>
    .variant "draw_rect"
      [("ortho", .bool ortho),
        ("patch", .bool patch),
        ("x", .single x),
        ("y", .single y),
        ("width", .single width),
        ("height", .single height),
        ("pipeline", pipeline.toJson)]
  | drawArrays indexed instances topology firstVertex vertexCount pipeline =>
    .variant "draw_arrays"
      [("indexed", .bool indexed),
        ("instanced", .bool instances.isSome),
        ("topology", .named topology),
        ("first_vertex", .word firstVertex),
        ("vertex_count", .word vertexCount),
        ("instance_count", .word (instances.getD 0)),
        ("pipeline", pipeline.toJson)]
  | compute x y z pipeline =>
    .variant "compute"
      [("x", .word x), ("y", .word y), ("z", .word z), ("pipeline", pipeline.toJson)]
  | entryPoint stage name =>
    .variant "entry_point" [("stage", .string stage.jsonName), ("name", .string name)]
  | patchVertices count => .variant "patch_parameter_vertices" [("count", .word count)]
  | probe framebuffer => framebuffer.toJson
  | probeBuffer storage => storage.toJson
  | buffer update => update.toJson
  | tolerance tolerances =>
    .variant "tolerance" [("tolerances", .array (tolerances.map Tolerance.toJson))]

/-- The pipeline state that an operation carries, if it carries one. -/
def pipeline? : Operation → Option Pipeline
  | drawRect _ _ _ _ _ _ pipeline => some pipeline
  | drawArrays _ _ _ _ _ pipeline => some pipeline
  | compute _ _ _ pipeline => some pipeline
  | _ => none

end Operation

namespace Command

/-- A command as a JSON value. -/
def toJson (command : Command) : Json :=
  .object [("line_num", .natural command.line), ("op", command.operation.toJson)]

end Command

namespace VertexTable

/-- A column as a JSON value. -/
def columnJson (column : Column) : Json :=
  .object
    [("location", .word column.location),
      ("format", .string column.format.name),
      ("offset", .natural column.offset)]

/-- The fields of a vertex table as members. -/
def members (table : VertexTable) : List (String × Json) :=
  [("headers", .array (table.columns.map columnJson)),
    ("rows",
      .array (table.rows.map fun row =>
        .array (row.map fun cell => .array (cell.map Value.toJson)))),
    ("stride", .natural table.stride)]

end VertexTable

namespace Requirement

/-- What a requirement asks for besides its name, as a JSON value. -/
def argumentJson? : Requirement → Option Json
  | feature _ => none
  | framebuffer format => some (.object [("format", .string format.name)])
  | depthStencil format => some (.object [("format", .string format.name)])
  | framebufferSize width height =>
    some (.variant "size" [("width", .word width), ("height", .word height)])
  | vulkanVersion major minor patch =>
    some (.variant "version"
      [("major", .word major), ("minor", .word minor), ("patch", .word patch)])

/-- A requirement as a JSON value. -/
def toJson (requirement : Requirement) : Json :=
  .object (("feature", .string requirement.name)
    :: (requirement.argumentJson?.map fun argument => ("argument", argument)).toList)

end Requirement

namespace ShaderSource

/-- A shader as a JSON value. -/
def toJson : ShaderSource → Json
  | glsl text => .object [("kind", .string "glsl"), ("source", .string text)]
  | assembly text => .object [("kind", .string "spirv_asm"), ("source", .string text)]
  | words values =>
    .object [("kind", .string "binary"), ("source", .array (values.map Json.word))]
  | passthrough => .object [("kind", .string "passthrough")]

end ShaderSource

namespace Test

/-- The fields of a test as members. -/
def members (body : Test) : List (String × Json) :=
  [("commands", .array (body.commands.map Command.toJson)),
    ("pipeline_data", body.pipeline.toJson)]

end Test

namespace Node

/-- A node as a JSON value. -/
def toJson : Node → Json
  | require requirements =>
    .object
      [("type", .string "require"),
        ("requirements", .array (requirements.requirements.map Requirement.toJson)),
        ("extensions", .array (requirements.extensions.map Json.string))]
  | shader stage source =>
    .object
      [("type", .string "shader"), ("stage", .string stage.jsonName), ("source", source.toJson)]
  | vertexData table => .object (("type", .string "vertex_data") :: table.members)
  | indices values =>
    .object
      [("type", .string "indices"),
        ("indices", .array (values.map fun index => .natural index.toNat))]
  | test body => .object (("type", .string "test") :: body.members)

end Node

namespace Script

/-- A script as a JSON value. -/
def toJson (script : Script) : Json :=
  .object [("filename", .string script.name), ("nodes", .array (script.nodes.map Node.toJson))]

end Script

namespace SectionKind

/-- What JSON calls the format of a shader. -/
def formatName : ShaderFormat → String
  | .glsl => "glsl"
  | .assembly => "spirv_asm"
  | .words => "spirv_hex"

/-- A kind of section as a JSON value. -/
def toJson : SectionKind → Json
  | comment => .string "comment"
  | require => .string "require"
  | shader stage format =>
    .variant "shader" [("stage", .string stage.jsonName), ("format", .string (formatName format))]
  | passthrough => .string "vertex_shader_passthrough"
  | vertexData => .string "vertex_data"
  | indices => .string "indices"
  | test => .string "test"

end SectionKind

end GpuScript
