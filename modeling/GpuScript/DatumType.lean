import GpuScript.Format.Table

/-!
# Types of buffer data

A type of buffer data is a scalar, a vector or a matrix with components of one kind. It is named as
in shaders (vec3, i16vec2, mat2x3) or by an image format: a packed format is one unsigned word, any
other format whose parts are alike is a vector of them.
-/

namespace GpuScript

/-- The shape of the values of a buffer command. -/
structure DatumType where
  /-- The name that the type was found by. -/
  name : String
  /-- The kind of number of a component. -/
  base : BaseType
  /-- The number of bits of a component. -/
  bits : Nat
  /-- The number of columns. -/
  columns : Nat
  /-- The number of components in a column. -/
  rows : Nat
  deriving DecidableEq

namespace DatumType

/-- The types with names as in shaders, in the order of their names. -/
def shaderTypes : Array DatumType :=
  #[⟨"dmat2", .float, 64, 2, 2⟩,
    ⟨"dmat2x2", .float, 64, 2, 2⟩,
    ⟨"dmat2x3", .float, 64, 2, 3⟩,
    ⟨"dmat2x4", .float, 64, 2, 4⟩,
    ⟨"dmat3", .float, 64, 3, 3⟩,
    ⟨"dmat3x2", .float, 64, 3, 2⟩,
    ⟨"dmat3x3", .float, 64, 3, 3⟩,
    ⟨"dmat3x4", .float, 64, 3, 4⟩,
    ⟨"dmat4", .float, 64, 4, 4⟩,
    ⟨"dmat4x2", .float, 64, 4, 2⟩,
    ⟨"dmat4x3", .float, 64, 4, 3⟩,
    ⟨"dmat4x4", .float, 64, 4, 4⟩,
    ⟨"double", .float, 64, 1, 1⟩,
    ⟨"dvec2", .float, 64, 1, 2⟩,
    ⟨"dvec3", .float, 64, 1, 3⟩,
    ⟨"dvec4", .float, 64, 1, 4⟩,
    ⟨"float", .float, 32, 1, 1⟩,
    ⟨"i16vec2", .signed, 16, 1, 2⟩,
    ⟨"i16vec3", .signed, 16, 1, 3⟩,
    ⟨"i16vec4", .signed, 16, 1, 4⟩,
    ⟨"i64vec2", .signed, 64, 1, 2⟩,
    ⟨"i64vec3", .signed, 64, 1, 3⟩,
    ⟨"i64vec4", .signed, 64, 1, 4⟩,
    ⟨"i8vec2", .signed, 8, 1, 2⟩,
    ⟨"i8vec3", .signed, 8, 1, 3⟩,
    ⟨"i8vec4", .signed, 8, 1, 4⟩,
    ⟨"int", .signed, 32, 1, 1⟩,
    ⟨"int16_t", .signed, 16, 1, 1⟩,
    ⟨"int64_t", .signed, 64, 1, 1⟩,
    ⟨"int8_t", .signed, 8, 1, 1⟩,
    ⟨"ivec2", .signed, 32, 1, 2⟩,
    ⟨"ivec3", .signed, 32, 1, 3⟩,
    ⟨"ivec4", .signed, 32, 1, 4⟩,
    ⟨"mat2", .float, 32, 2, 2⟩,
    ⟨"mat2x2", .float, 32, 2, 2⟩,
    ⟨"mat2x3", .float, 32, 2, 3⟩,
    ⟨"mat2x4", .float, 32, 2, 4⟩,
    ⟨"mat3", .float, 32, 3, 3⟩,
    ⟨"mat3x2", .float, 32, 3, 2⟩,
    ⟨"mat3x3", .float, 32, 3, 3⟩,
    ⟨"mat3x4", .float, 32, 3, 4⟩,
    ⟨"mat4", .float, 32, 4, 4⟩,
    ⟨"mat4x2", .float, 32, 4, 2⟩,
    ⟨"mat4x3", .float, 32, 4, 3⟩,
    ⟨"mat4x4", .float, 32, 4, 4⟩,
    ⟨"u16vec2", .unsigned, 16, 1, 2⟩,
    ⟨"u16vec3", .unsigned, 16, 1, 3⟩,
    ⟨"u16vec4", .unsigned, 16, 1, 4⟩,
    ⟨"u64vec2", .unsigned, 64, 1, 2⟩,
    ⟨"u64vec3", .unsigned, 64, 1, 3⟩,
    ⟨"u64vec4", .unsigned, 64, 1, 4⟩,
    ⟨"u8vec2", .unsigned, 8, 1, 2⟩,
    ⟨"u8vec3", .unsigned, 8, 1, 3⟩,
    ⟨"u8vec4", .unsigned, 8, 1, 4⟩,
    ⟨"uint", .unsigned, 32, 1, 1⟩,
    ⟨"uint16_t", .unsigned, 16, 1, 1⟩,
    ⟨"uint64_t", .unsigned, 64, 1, 1⟩,
    ⟨"uint8_t", .unsigned, 8, 1, 1⟩,
    ⟨"uvec2", .unsigned, 32, 1, 2⟩,
    ⟨"uvec3", .unsigned, 32, 1, 3⟩,
    ⟨"uvec4", .unsigned, 32, 1, 4⟩,
    ⟨"vec2", .float, 32, 1, 2⟩,
    ⟨"vec3", .float, 32, 1, 3⟩,
    ⟨"vec4", .float, 32, 1, 4⟩]

/-- The types with names as in shaders, by name. -/
def shaderTable : SortedTable DatumType where
  key := DatumType.name
  entries := shaderTypes
  sorted := by decide +kernel

/-- The type of the cells of a format; none if the format is not packed and its parts differ. -/
def ofFormat? (format : Format) : Option DatumType :=
  match format.packedBits with
  | some bits => some ⟨format.name, .unsigned, bits, 1, 1⟩
  | none =>
    format.uniformPart?.map fun part =>
      ⟨format.name, part.mode.base, part.bits, 1, format.parts.length⟩

/-- The type with a name: a type of shaders, or else the type of a format. -/
def ofName? (name : String) : Option DatumType :=
  match shaderTable.find? name with
  | some datumType => some datumType
  | none => (Format.ofName? name).bind ofFormat?

/-- The message for a name that no type has. -/
def invalidMessage (name : String) : String :=
  "Invalid type provided: " ++ name

/-- The number of values that make up one datum. -/
def elementCount (datumType : DatumType) : Nat :=
  datumType.rows * datumType.columns

/-- The mode of the parts of formats that hold components of a kind. -/
def mode : BaseType → Mode
  | .float => .sfloat
  | .signed => .sint
  | .unsigned => .uint

/-- The format that is laid out like a column of the type. -/
def toFormat? (datumType : DatumType) : Option Format :=
  Format.ofVector? datumType.bits (mode datumType.base) datumType.rows

/-- The value that a token stands for as a component of the type. -/
def value? (datumType : DatumType) (token : Token) : Option Value :=
  Value.ofToken? datumType.base datumType.bits token

end DatumType

end GpuScript
