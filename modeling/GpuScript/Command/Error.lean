import GpuScript.Pipeline.Property

/-!
# Errors in test sections

Why a line of a test section is refused, one constructor for each cause, and the message for each.
-/

namespace GpuScript.Command

/-- The forms of command lines that end after their operands. -/
inductive Form where
  | clear | clearColor | clearDepth | clearStencil | drawRect | drawArrays | compute | entryPoint
  | patchVertices | probe | bufferSize | tolerance
  deriving DecidableEq

/-- The commands with typed values. -/
inductive DataCommand where
  | probeBuffer | storage | uniform
  deriving DecidableEq

/-- The commands that name a buffer by its binding. -/
inductive BindingCommand where
  | probeBuffer | storage | uniform
  deriving DecidableEq

/-- The three directions of work groups. -/
inductive Axis where
  | x | y | z
  deriving DecidableEq

/-- Why a line of a test section is refused. -/
inductive Error where
  /-- The line does not open with a word. -/
  | nameNotWord
  /-- No command has the name. -/
  | unknownCommand (name : String)
  /-- An operand is not a number. -/
  | invalidNumber
  /-- An operand follows the last one of a command. -/
  | extraOperand (form : Form)
  /-- An operand follows the value of a property. -/
  | extraPropertyOperand (property : Property)
  /-- A stencil value is missing. -/
  | missingStencilValue
  /-- A stencil value is not an unsigned word. -/
  | invalidStencilValue
  /-- A draw is of no known kind. -/
  | invalidDraw
  /-- A draw has no topology. -/
  | missingTopology
  /-- No topology has the name. -/
  | unknownTopology (name : String)
  /-- The first vertex of a draw is not an unsigned word. -/
  | invalidFirstVertex
  /-- The vertex count of a draw is not an unsigned word. -/
  | invalidVertexCount
  /-- The instance count of a draw is not an unsigned word. -/
  | invalidInstanceCount
  /-- A number of work groups is not an unsigned word. -/
  | invalidGroupCount (axis : Axis)
  /-- A tessellation stage is neither of the two. -/
  | invalidTessellationStage
  /-- An entry point has no name. -/
  | missingEntryPointName
  /-- The name of an entry point is not a word. -/
  | entryPointNameNotWord
  /-- A patch command does not go on with its second word. -/
  | missingPatchParameter
  /-- A patch command does not go on with its third word. -/
  | missingPatchVertices
  /-- The vertex count of a patch is not an unsigned word. -/
  | invalidPatchCount
  /-- Something other than a probe is relative. -/
  | relativeWithoutProbe
  /-- A tuple of a probe is opened and not closed. -/
  | missingCloseBracket
  /-- A tuple of a probe is closed and not opened. -/
  | missingOpenBracket
  /-- A probe goes on with something that is not a word. -/
  | invalidProbeWord
  /-- A probe has no known colour format. -/
  | invalidProbeFormat
  /-- A type is missing. -/
  | missingType (command : DataCommand)
  /-- No type has the name. -/
  | unknownType (name : String)
  /-- A token is no value of the type. -/
  | invalidValue (command : DataCommand) (token : String)
  /-- The values do not make up whole data. -/
  | incorrectValueCount (command : DataCommand)
  /-- A binding is neither a number nor a pair of numbers. -/
  | invalidBinding (command : BindingCommand)
  /-- The offset of a probe is a number but not an unsigned word. -/
  | invalidProbeOffset
  /-- The offset of a probe is not a number. -/
  | probeOffsetNotNumber
  /-- No comparator has the symbol. -/
  | invalidComparator
  /-- A storage buffer command has no operands. -/
  | missingStorageOperands
  /-- A storage buffer command ends after the binding. -/
  | missingStorageSize
  /-- The size of a storage buffer is not an unsigned word. -/
  | invalidStorageSize
  /-- A storage buffer command goes on in no known way. -/
  | invalidStorageOperand
  /-- The offset in a storage buffer is not an unsigned word. -/
  | invalidStorageOffset
  /-- The offset of a uniform is not an unsigned word. -/
  | invalidUniformOffset
  /-- A tolerance is not a decimal number. -/
  | invalidTolerance
  /-- A tolerance command has no operands. -/
  | missingTolerance
  /-- A tolerance command has two or three tolerances. -/
  | incorrectToleranceCount
  /-- A property has no value. -/
  | missingPropertyValue (property : Property)
  /-- The value of a property is not a word. -/
  | invalidPropertyValue (property : Property)
  /-- The value of a property has an unknown name. -/
  | unknownPropertyValue (property : Property)
  /-- A property has no parameter. -/
  | missingPropertyParameter (property : Property)
  /-- The parameter of a property is of the wrong kind. -/
  | invalidPropertyParameter (property : Property)
  /-- The parameter of a property has an unknown name. -/
  | unknownPropertyParameter (property : Property)
  /-- A switch is neither on nor off. -/
  | invalidToggle
  /-- No value of an enumeration has the name. -/
  | unknownName (kind name : String)
  deriving DecidableEq

namespace Form

/-- What a message calls an operand after the last one of a form. -/
def extraMessage : Form → String
  | clear => "Extra parameter to clear command"
  | clearColor => "Extra parameter to clear color command"
  | clearDepth => "Extra parameter to clear depth command"
  | clearStencil => "Extra parameter to clear stencil command"
  | drawRect => "Extra parameter to draw rect command"
  | drawArrays => "Extra parameter to draw arrays command"
  | compute => "Extra parameter to compute command"
  | entryPoint => "Extra parameter for entrypoint command"
  | patchVertices => "Extra parameter for patch parameter vertices command"
  | probe => "Extra parameter to probe command"
  | bufferSize => "Extra parameter for ssbo command"
  | tolerance => "Extra parameter for tolerance command"

end Form

namespace DataCommand

/-- What messages call a command with typed values. -/
def name : DataCommand → String
  | probeBuffer => "probe ssbo"
  | storage => "ssbo"
  | uniform => "uniform"

end DataCommand

namespace BindingCommand

/-- What messages call a command with a binding. -/
def name : BindingCommand → String
  | probeBuffer => "probe ssbo"
  | storage => "ssbo"
  | uniform => "uniform ubo"

end BindingCommand

namespace Axis

/-- The letter of a direction. -/
def name : Axis → String
  | x => "X"
  | y => "Y"
  | z => "Z"

end Axis

namespace Error

/-- The message for a cause. -/
def message : Error → String
  | nameNotWord => "Command name must be a string"
  | unknownCommand name => "Unknown command: " ++ name
  | invalidNumber => "Invalid conversion to double"
  | extraOperand form => form.extraMessage
  | extraPropertyOperand property => "Extra parameter for " ++ property.name ++ " command"
  | missingStencilValue => "Missing stencil value for clear stencil command"
  | invalidStencilValue => "Invalid stencil value for clear stencil command"
  | invalidDraw => "Invalid value for draw command"
  | missingTopology => "Missing draw arrays topology"
  | unknownTopology name => "Unknown parameter to draw arrays: " ++ name
  | invalidFirstVertex => "Missing integer first vertex value for draw arrays"
  | invalidVertexCount => "Missing integer vertex count value for draw arrays"
  | invalidInstanceCount => "Invalid instance count value for draw arrays"
  | invalidGroupCount axis => "Missing integer value for compute " ++ axis.name ++ " entry"
  | invalidTessellationStage =>
    "Tessellation entrypoint must have <evaluation|control> in name"
  | missingEntryPointName => "Missing entrypoint name"
  | entryPointNameNotWord => "Entrypoint name must be a string"
  | missingPatchParameter => "Missing parameter flag to patch command"
  | missingPatchVertices => "Missing vertices flag to patch command"
  | invalidPatchCount => "Invalid count parameter for patch parameter vertices"
  | relativeWithoutProbe => "relative must be used with probe"
  | missingCloseBracket => "Missing close bracket for probe command"
  | missingOpenBracket => "Missing open bracket for probe command"
  | invalidProbeWord => "Invalid token in probe command"
  | invalidProbeFormat => "Invalid format specified to probe command"
  | missingType command => "Missing type for " ++ command.name ++ " command"
  | unknownType name => "Invalid type provided: " ++ name
  | invalidValue command token =>
    "Invalid value provided to " ++ command.name ++ " command: " ++ token
  | incorrectValueCount command =>
    "Incorrect number of values provided to " ++ command.name ++ " command"
  | invalidBinding command => "Invalid binding value for " ++ command.name ++ " command"
  | invalidProbeOffset => "Invalid offset for probe ssbo command"
  | probeOffsetNotNumber => "Invalid value for probe ssbo command"
  | invalidComparator => "Invalid comparator"
  | missingStorageOperands => "Missing binding and size values for ssbo command"
  | missingStorageSize => "Missing size value for ssbo command"
  | invalidStorageSize => "Invalid size value for ssbo command"
  | invalidStorageOperand => "Invalid value for ssbo command"
  | invalidStorageOffset => "Invalid offset for ssbo command"
  | invalidUniformOffset => "Invalid offset value for uniform command"
  | invalidTolerance => "Invalid value for tolerance command"
  | missingTolerance => "Missing value for tolerance command"
  | incorrectToleranceCount => "Invalid number of tolerance parameters provided"
  | missingPropertyValue property => "Missing value for " ++ property.name ++ " command"
  | invalidPropertyValue property => "Invalid value for " ++ property.name ++ " command"
  | unknownPropertyValue property => "Unknown value for " ++ property.name ++ " command"
  | missingPropertyParameter property =>
    "Missing parameter for " ++ property.name ++ " command"
  | invalidPropertyParameter property =>
    "Invalid parameter for " ++ property.name ++ " command"
  | unknownPropertyParameter property =>
    "Unknown parameter for " ++ property.name ++ " command"
  | invalidToggle => "Invalid value passed as a boolean string"
  | unknownName kind name => "Unknown " ++ kind ++ " provided: " ++ name

end Error

end GpuScript.Command
