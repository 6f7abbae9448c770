import GpuScript.Command.Setting
import GpuScript.Proofs.Token.Unplaced

/-!
# Values do not depend on line numbers

The value that is read for a property, and the cause why none is, come from the kinds and the texts
of the operands alone (`Command.propertyValue_map_unplaced`): a property line says the same wherever
it stands.
-/

namespace GpuScript.Command

/-- What was read, with the tokens after it without their line numbers. -/
def unplaceRest {α : Type} (result : α × List Token) : α × List Token :=
  (result.1, result.2.map Token.unplaced)

/-- Steps that do not depend on line numbers can follow one another. -/
theorem bind_map_unplaced {α β : Type} (reading : Except Error (α × List Token))
    {onward : α × List Token → Except Error (β × List Token)}
    (natural : ∀ result, onward (unplaceRest result) = (onward result).map unplaceRest) :
    (reading.map unplaceRest >>= onward) = (reading >>= onward).map unplaceRest := by
  cases reading with
  | error cause => rfl
  | ok result => exact natural result

variable (tokens : List Token)

/-- A word operand does not depend on line numbers. -/
theorem propertyWord_map_unplaced (missing invalid : Error) :
    propertyWord missing invalid (tokens.map Token.unplaced) =
      (propertyWord missing invalid tokens).map unplaceRest := by
  cases tokens with
  | nil => rfl
  | cons token rest =>
    rw [List.map_cons, propertyWord, propertyWord, Token.word?_unplaced]
    cases token.word? <;> rfl

/-- A choice of an enumeration does not depend on line numbers. -/
theorem choiceValue_map_unplaced (α : Type) [Named α] (property : Property) :
    choiceValue α property (tokens.map Token.unplaced) =
      (choiceValue α property tokens).map unplaceRest := by
  rw [choiceValue, choiceValue, propertyWord_map_unplaced]
  refine bind_map_unplaced _ fun (name, rest) => ?_
  dsimp only [unplaceRest]
  cases (Named.ofName? name : Option α) <;> rfl

/-- A choice of a parameter does not depend on line numbers. -/
theorem choiceParameter_map_unplaced (α : Type) [Named α] (property : Property) :
    choiceParameter α property (tokens.map Token.unplaced) =
      (choiceParameter α property tokens).map unplaceRest := by
  rw [choiceParameter, choiceParameter, propertyWord_map_unplaced]
  refine bind_map_unplaced _ fun (name, rest) => ?_
  dsimp only [unplaceRest]
  cases (Named.ofName? name : Option α) <;> rfl

/-- A switch does not depend on line numbers. -/
theorem toggleValue_map_unplaced (property : Property) :
    toggleValue property (tokens.map Token.unplaced) =
      (toggleValue property tokens).map unplaceRest := by
  rw [toggleValue, toggleValue, propertyWord_map_unplaced]
  refine bind_map_unplaced _ fun (text, rest) => ?_
  dsimp only [unplaceRest]
  cases toggleOf? text <;> rfl

/-- A number does not depend on line numbers. -/
theorem scalarValue_map_unplaced (property : Property) :
    scalarValue property (tokens.map Token.unplaced) =
      (scalarValue property tokens).map unplaceRest := by
  cases tokens with
  | nil => rfl
  | cons token rest =>
    change number (token.unplaced :: rest.map Token.unplaced) =
      (number (token :: rest)).map unplaceRest
    rw [number, number, Token.kind_unplaced]
    cases token.kind.toDouble? <;> rfl

/-- An unsigned word does not depend on line numbers. -/
theorem wordParameter_map_unplaced (property : Property) :
    wordParameter property (tokens.map Token.unplaced) =
      (wordParameter property tokens).map unplaceRest := by
  cases tokens with
  | nil => rfl
  | cons token rest =>
    change word _ (token.unplaced :: rest.map Token.unplaced) =
      (word _ (token :: rest)).map unplaceRest
    rw [word, word, Token.kind_unplaced]
    cases token.kind.word32? <;> rfl

/-- A list of cull modes does not depend on line numbers. -/
theorem cullModeValue_map_unplaced :
    cullModeValue (tokens.map Token.unplaced) = cullModeValue tokens := by
  have tail (mode : CullMode) (tokens : List Token) :
      cullModeTokens mode (tokens.map Token.unplaced) = cullModeTokens mode tokens := by
    induction tokens generalizing mode with
    | nil => rfl
    | cons token rest ih =>
      rw [List.map_cons, cullModeTokens, cullModeTokens, Token.word?_unplaced]
      simp only [bitNames, Token.text_unplaced, ih]
  cases tokens with
  | nil => rfl
  | cons token rest => exact tail .none (token :: rest)

/-- A list of colour components does not depend on line numbers. -/
theorem colorMaskValue_map_unplaced :
    colorMaskValue (tokens.map Token.unplaced) = colorMaskValue tokens := by
  have tail (mask : ColorMask) (tokens : List Token) :
      colorMaskTokens mask (tokens.map Token.unplaced) = colorMaskTokens mask tokens := by
    induction tokens generalizing mask with
    | nil => rfl
    | cons token rest ih =>
      rw [List.map_cons, colorMaskTokens, colorMaskTokens, Token.word?_unplaced]
      simp only [bitNames, Token.text_unplaced, ih]
  cases tokens with
  | nil => rfl
  | cons token rest => exact tail 0 (token :: rest)

/-- The value of a property does not depend on line numbers. -/
theorem propertyValue_map_unplaced (property : Property) :
    propertyValue property (tokens.map Token.unplaced) =
      (propertyValue property tokens).map unplaceRest := by
  cases property with
  | topology | polygonMode | frontFace | logicOp => exact choiceValue_map_unplaced tokens _ _
  | cullMode =>
    rw [propertyValue, propertyValue, cullModeValue_map_unplaced]
    cases cullModeValue tokens <;> rfl
  | colorWriteMask =>
    rw [propertyValue, propertyValue, colorMaskValue_map_unplaced]
    cases colorMaskValue tokens <;> rfl
  | blendFactor | blendOp | depthCompareOp | stencilCompareOp | stencilOp =>
    exact choiceParameter_map_unplaced tokens _ _
  | stencilWord => exact wordParameter_map_unplaced tokens _
  | scalar => exact scalarValue_map_unplaced tokens _
  | toggle => exact toggleValue_map_unplaced tokens _

end GpuScript.Command
