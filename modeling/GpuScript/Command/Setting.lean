import GpuScript.Command.Operand

/-!
# Property lines

How the value of a property is read from the operands of its line. Most properties take one
operand; cull modes and colour write masks take a list of names, in one token or several, joined by
bars or not.
-/

namespace GpuScript.Command

open Text

/-- The one operand of a property that is a word: names what is missing or of the wrong kind. -/
def propertyWord (missing invalid : Error) : List Token → Except Error (String × List Token)
  | [] => .error missing
  | token :: rest =>
    match token.word? with
    | some text => .ok (text, rest)
    | none => .error invalid

/-- A choice of an enumeration whose unknown names are blamed on the property. -/
def choiceValue (α : Type) [Named α] (property : Property) (tokens : List Token) :
    Except Error (α × List Token) := do
  let (name, rest) ←
    propertyWord (.missingPropertyValue property) (.invalidPropertyValue property) tokens
  match Named.ofName? name with
  | some value => .ok (value, rest)
  | none => .error (.unknownPropertyValue property)

/-- A choice of an enumeration whose unknown names are blamed on the enumeration. -/
def choiceParameter (α : Type) [Named α] (property : Property) (tokens : List Token) :
    Except Error (α × List Token) := do
  let (name, rest) ←
    propertyWord (.missingPropertyParameter property) (.invalidPropertyParameter property) tokens
  match Named.ofName? name with
  | some value => .ok (value, rest)
  | none => .error (.unknownName (Named.kind α) name)

/-- A switch, in any letter case. -/
def toggleOf? (text : String) : Option Bool :=
  let lower := text.toList.map Char.toLower
  if lower = "true".toList then some true
  else if lower = "false".toList then some false
  else none

/-- A switch. -/
def toggleValue (property : Property) (tokens : List Token) :
    Except Error (Bool × List Token) := do
  let (text, rest) ←
    propertyWord (.missingPropertyValue property) (.invalidPropertyValue property) tokens
  match toggleOf? text with
  | some value => .ok (value, rest)
  | none => .error .invalidToggle

/-- A number. -/
def scalarValue (property : Property) : List Token → Except Error (Single × List Token)
  | [] => .error (.missingPropertyValue property)
  | tokens => number tokens

/-- An unsigned word. -/
def wordParameter (property : Property) : List Token → Except Error (UInt32 × List Token)
  | [] => .error (.missingPropertyParameter property)
  | tokens => word (.invalidPropertyParameter property) tokens

/-- The names in a token of a bit list: what stands between bars. -/
def bitNames (token : Token) : List String :=
  ((pieces (· == '|') token.text.toList).filter (fun name => !name.isEmpty)).map String.ofList

/-- The cull modes that names add to a mode. -/
def cullModeNames (cause : Error) : CullMode → List String → Except Error CullMode
  | mode, [] => .ok mode
  | mode, name :: names =>
    match (Named.ofName? name : Option CullMode) with
    | some other => cullModeNames cause (mode.union other) names
    | none => .error cause

/-- The cull modes that the tokens of a line add to a mode. -/
def cullModeTokens : CullMode → List Token → Except Error CullMode
  | mode, [] => .ok mode
  | mode, token :: rest =>
    match token.word? with
    | none => .error (.invalidPropertyValue .cullMode)
    | some _ =>
      match cullModeNames (.unknownPropertyValue .cullMode) mode (bitNames token) with
      | .ok mode => cullModeTokens mode rest
      | .error cause => .error cause

/-- A list of cull modes: all operands of the line. -/
def cullModeValue : List Token → Except Error CullMode
  | [] => .error (.missingPropertyValue .cullMode)
  | tokens => cullModeTokens .none tokens

/-- The components that names add to a mask. -/
def colorMaskNames (cause : Error) : ColorMask → List String → Except Error ColorMask
  | mask, [] => .ok mask
  | mask, name :: names =>
    match ColorMask.ofName? name with
    | some bit => colorMaskNames cause (mask ||| bit) names
    | none => .error cause

/-- The components that the tokens of a line add to a mask. -/
def colorMaskTokens : ColorMask → List Token → Except Error ColorMask
  | mask, [] => .ok mask
  | mask, token :: rest =>
    match token.word? with
    | none => .error (.unknownPropertyParameter .colorWriteMask)
    | some _ =>
      match colorMaskNames (.unknownPropertyParameter .colorWriteMask) mask (bitNames token) with
      | .ok mask => colorMaskTokens mask rest
      | .error cause => .error cause

/-- A list of colour components: all operands of the line. -/
def colorMaskValue : List Token → Except Error ColorMask
  | [] => .error (.missingPropertyParameter .colorWriteMask)
  | tokens => colorMaskTokens 0 tokens

/-- The value of a property and the tokens after it. A list takes all tokens of the line. -/
def propertyValue :
    (property : Property) → List Token → Except Error (property.Value × List Token)
  | .topology, tokens => choiceValue Topology .topology tokens
  | .polygonMode, tokens => choiceValue PolygonMode .polygonMode tokens
  | .frontFace, tokens => choiceValue FrontFace .frontFace tokens
  | .logicOp, tokens => choiceValue LogicOp .logicOp tokens
  | .cullMode, tokens => (cullModeValue tokens).map fun mode => (mode, [])
  | .colorWriteMask, tokens => (colorMaskValue tokens).map fun mask => (mask, [])
  | .blendFactor operand, tokens => choiceParameter BlendFactor (.blendFactor operand) tokens
  | .blendOp part, tokens => choiceParameter BlendOp (.blendOp part) tokens
  | .depthCompareOp, tokens => choiceParameter CompareOp .depthCompareOp tokens
  | .stencilCompareOp face, tokens => choiceParameter CompareOp (.stencilCompareOp face) tokens
  | .stencilOp face outcome, tokens => choiceParameter StencilOp (.stencilOp face outcome) tokens
  | .stencilWord face word, tokens => wordParameter (.stencilWord face word) tokens
  | .scalar scalar, tokens => scalarValue (.scalar scalar) tokens
  | .toggle toggle, tokens => toggleValue (.toggle toggle) tokens

end GpuScript.Command
