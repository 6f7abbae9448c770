import GpuScript.Proofs.Command.BitList
import GpuScript.Proofs.Command.Pulling

/-!
# Property lines pulled from one cursor

The value of a property, as it is pulled from a cursor that knows nothing of logical lines. Most
properties take one token, and look for the end of the line when the value is known already; cull
modes and colour write masks take tokens up to the end of the line, which passes over it. In either
case the value is that of the tokens of the line, and the line ends, or is refused, as it does when
they are read (`Command.pullSetting_eq`).
-/

namespace GpuScript.Command

open Cursor Text

variable {α : Type}

/-- What a word stands for; the end of the line and other tokens are refused. -/
def pullChoice (missing invalid : Error) (choose : String → Except Error α) :
    Cursor → Except Error (α × Cursor) :=
  pullOperand fun token =>
    if token.kind.isEnd then
      .error missing
    else
      match token.word? with
      | some name => choose name
      | none => .error invalid

/-- The value of a property, for a choice whose unknown names are blamed on the property. -/
def pullChoiceValue (α : Type) [Named α] (property : Property) :
    Cursor → Except Error (α × Cursor) :=
  pullChoice (.missingPropertyValue property) (.invalidPropertyValue property) fun name =>
    orError (.unknownPropertyValue property) (Named.ofName? name)

/-- The value of a property, for a choice whose unknown names are blamed on the enumeration. -/
def pullChoiceParameter (α : Type) [Named α] (property : Property) :
    Cursor → Except Error (α × Cursor) :=
  pullChoice (.missingPropertyParameter property) (.invalidPropertyParameter property) fun name =>
    orError (.unknownName (Named.kind α) name) (Named.ofName? name)

/-- A switch. -/
def pullToggle (property : Property) : Cursor → Except Error (Bool × Cursor) :=
  pullChoice (.missingPropertyValue property) (.invalidPropertyValue property) fun name =>
    orError .invalidToggle (toggleOf? name)

/-- A number. -/
def pullScalar (property : Property) : Cursor → Except Error (Single × Cursor) :=
  pullPresent (.missingPropertyValue property) .invalidNumber fun token =>
    token.kind.toDouble?.map Binary.toSingle

/-- An unsigned word. -/
def pullParameter (property : Property) : Cursor → Except Error (UInt32 × Cursor) :=
  pullPresent (.missingPropertyParameter property) (.invalidPropertyParameter property) fun token =>
    token.kind.word32?

/-- The names in a token, joined to a value. -/
def addNames (ofName? : String → Option α) (join : α → α → α) (notWord unknown : Error)
    (value : α) (token : Token) : Except Error α :=
  match token.word? with
  | none => .error notWord
  | some _ => gatherNames ofName? join unknown value (bitNames token)

/-- The names on the rest of a line, joined to a value, and the end of the line. -/
def pullNames (missing : Error) (ofName? : String → Option α) (join : α → α → α)
    (notWord unknown : Error) (value : α) (cursor : Cursor) : Except Error (α × Cursor) :=
  if cursor.peek.kind.isEnd then .error missing
  else pullEach (addNames ofName? join notWord unknown) value cursor

/-- A list of cull modes, and the end of the line. -/
def pullCullMode : Cursor → Except Error (CullMode × Cursor) :=
  pullNames (.missingPropertyValue .cullMode) Named.ofName? CullMode.union
    (.invalidPropertyValue .cullMode) (.unknownPropertyValue .cullMode) .none

/-- A list of colour components, and the end of the line. -/
def pullColorMask : Cursor → Except Error (ColorMask × Cursor) :=
  pullNames (.missingPropertyParameter .colorWriteMask) ColorMask.ofName? (· ||| ·)
    (.unknownPropertyParameter .colorWriteMask) (.unknownPropertyParameter .colorWriteMask) 0

/-- How a property line ends: with the cursor behind it, or with a cause why it is refused. -/
abbrev Ending : Type := Except Error (Option Operation × Cursor)

/-- A value that is followed by the end of the line. -/
def withEnd (property : Property) (pulled : Except Error (α × Cursor)) :
    Except Error (α × Ending) :=
  pulled.map fun (value, after) => (value, pullEnd (.extraPropertyOperand property) none after)

/-- A value that the end of the line was pulled with. -/
def withoutEnd (pulled : Except Error (α × Cursor)) : Except Error (α × Ending) :=
  pulled.map fun (value, after) => (value, .ok (none, after))

/-- The value of a property, and how its line ends. -/
def pullSetting : (property : Property) → Cursor → Except Error (property.Value × Ending)
  | .topology, cursor => withEnd .topology (pullChoiceValue Topology .topology cursor)
  | .polygonMode, cursor => withEnd .polygonMode (pullChoiceValue PolygonMode .polygonMode cursor)
  | .frontFace, cursor => withEnd .frontFace (pullChoiceValue FrontFace .frontFace cursor)
  | .logicOp, cursor => withEnd .logicOp (pullChoiceValue LogicOp .logicOp cursor)
  | .cullMode, cursor => withoutEnd (pullCullMode cursor)
  | .colorWriteMask, cursor => withoutEnd (pullColorMask cursor)
  | .blendFactor operand, cursor =>
    withEnd (.blendFactor operand) (pullChoiceParameter BlendFactor (.blendFactor operand) cursor)
  | .blendOp part, cursor =>
    withEnd (.blendOp part) (pullChoiceParameter BlendOp (.blendOp part) cursor)
  | .depthCompareOp, cursor =>
    withEnd .depthCompareOp (pullChoiceParameter CompareOp .depthCompareOp cursor)
  | .stencilCompareOp face, cursor =>
    withEnd (.stencilCompareOp face) (pullChoiceParameter CompareOp (.stencilCompareOp face) cursor)
  | .stencilOp face outcome, cursor =>
    withEnd (.stencilOp face outcome)
      (pullChoiceParameter StencilOp (.stencilOp face outcome) cursor)
  | .stencilWord face word, cursor =>
    withEnd (.stencilWord face word) (pullParameter (.stencilWord face word) cursor)
  | .scalar scalar, cursor => withEnd (.scalar scalar) (pullScalar (.scalar scalar) cursor)
  | .toggle toggle, cursor => withEnd (.toggle toggle) (pullToggle (.toggle toggle) cursor)

variable (cursor : Cursor) (property : Property)

/-- What a word stands for is pulled as it is read. -/
theorem pullChoice_pulledAs {missing invalid : Error} {choose : String → Except Error α}
    {read : List Token → Except Error (α × List Token)}
    (agree : ∀ tokens, read tokens = do
      let (name, rest) ← propertyWord missing invalid tokens
      let value ← choose name
      .ok (value, rest)) :
    cursor.PulledAs (pullChoice missing invalid choose cursor) (read cursor.restOfLine) := by
  refine pullOperand_pulledAs (fun token final => ⟨missing, if_pos final, ?_⟩)
    (fun token rest inner => ?_) cursor
  · rw [agree]
    rfl
  · rw [agree, propertyWord, if_neg (Bool.eq_false_iff.mp inner)]
    cases token.word? with
    | none => rfl
    | some name =>
      rw [ok_bind]
      dsimp only
      cases choose name <;> rfl

/-- A choice that is blamed on the property is pulled as it is read. -/
theorem pullChoiceValue_pulledAs (α : Type) [Named α] :
    cursor.PulledAs (pullChoiceValue α property cursor)
      (choiceValue α property cursor.restOfLine) := by
  refine pullChoice_pulledAs cursor fun tokens => congrArg _ (funext fun (name, rest) => ?_)
  dsimp only
  cases (Named.ofName? name : Option α) <;> rfl

/-- A choice that is blamed on the enumeration is pulled as it is read. -/
theorem pullChoiceParameter_pulledAs (α : Type) [Named α] :
    cursor.PulledAs (pullChoiceParameter α property cursor)
      (choiceParameter α property cursor.restOfLine) := by
  refine pullChoice_pulledAs cursor fun tokens => congrArg _ (funext fun (name, rest) => ?_)
  dsimp only
  cases (Named.ofName? name : Option α) <;> rfl

/-- A switch is pulled as it is read. -/
theorem pullToggle_pulledAs :
    cursor.PulledAs (pullToggle property cursor) (toggleValue property cursor.restOfLine) := by
  refine pullChoice_pulledAs cursor fun tokens => congrArg _ (funext fun (name, rest) => ?_)
  dsimp only
  cases toggleOf? name <;> rfl

/-- A number is pulled as it is read. -/
theorem pullScalar_pulledAs :
    cursor.PulledAs (pullScalar property cursor) (scalarValue property cursor.restOfLine) := by
  refine pullPresent_pulledAs rfl (fun token rest => ?_) cursor
  change number (token :: rest) = _
  rw [number]
  cases token.kind.toDouble? <;> rfl

/-- An unsigned word is pulled as it is read. -/
theorem pullParameter_pulledAs :
    cursor.PulledAs (pullParameter property cursor) (wordParameter property cursor.restOfLine) := by
  refine pullPresent_pulledAs rfl (fun token rest => ?_) cursor
  change word _ (token :: rest) = _
  rw [word]
  cases token.kind.word32? <;> rfl

/-- Names that are joined token by token are gathered from the tokens in order. -/
theorem foldlM_addNames (ofName? : String → Option α) (join : α → α → α) (notWord unknown : Error)
    (value : α) (tokens : List Token) :
    tokens.foldlM (addNames ofName? join notWord unknown) value =
      gatherTokens ofName? join notWord unknown value tokens := by
  induction tokens generalizing value with
  | nil => rfl
  | cons token rest ih =>
    rw [List.foldlM_cons, addNames, gatherTokens]
    cases token.word? with
    | none => rfl
    | some text =>
      dsimp only
      cases gatherNames ofName? join unknown value (bitNames token) with
      | error cause => rfl
      | ok later => exact ih later

/-- Names are gathered from the tokens that are left on the line, if there are any. -/
theorem pullNames_eq {missing notWord unknown : Error} {ofName? : String → Option α}
    {join : α → α → α} {value : α} {read : List Token → Except Error α}
    (empty : read [] = .error missing)
    (agree : ∀ token rest,
      read (token :: rest) = gatherTokens ofName? join notWord unknown value (token :: rest)) :
    pullNames missing ofName? join notWord unknown value cursor =
      cursor.behindLine (read cursor.restOfLine) := by
  unfold pullNames
  rw [peek]
  by_cases ended : cursor.next.1.kind.isEnd = true
  · rw [if_pos ended, restOfLine_of_isEnd ended, empty]
    rfl
  · rw [if_neg ended, pullEach_eq, foldlM_addNames, restOfLine_of_not_isEnd ended, agree]

/-- A list of cull modes is pulled as it is read. -/
theorem pullCullMode_eq :
    pullCullMode cursor = cursor.behindLine (cullModeValue cursor.restOfLine) :=
  pullNames_eq cursor rfl fun token rest => cullModeTokens_eq_gatherTokens .none (token :: rest)

/-- A list of colour components is pulled as it is read. -/
theorem pullColorMask_eq :
    pullColorMask cursor = cursor.behindLine (colorMaskValue cursor.restOfLine) :=
  pullNames_eq cursor rfl fun token rest => colorMaskTokens_eq_gatherTokens 0 (token :: rest)

/-- A value that was read, and how its line ends then. -/
def settle (read : Except Error (α × List Token)) : Except Error (α × Ending) :=
  read.map fun (value, rest) =>
    (value, cursor.behindLine ((finish (.extraPropertyOperand property) rest).map fun _ => none))

/-- A value before the end of its line settles the line as it does when it is read. -/
theorem withEnd_eq {pulled : Except Error (α × Cursor)} {read : Except Error (α × List Token)}
    (agree : cursor.PulledAs pulled read) :
    withEnd property pulled = settle cursor property read := by
  cases agree with
  | refused cause => rfl
  | @taken value after same =>
    have ending : pullEnd (.extraPropertyOperand property) (none : Option Operation) after =
        cursor.behindLine ((finish (.extraPropertyOperand property) after.restOfLine).map
          fun _ => none) := by
      rw [pullEnd_eq_finish, behindLine_of_same same]
      cases finish (.extraPropertyOperand property) after.restOfLine <;> rfl
    change Except.ok (value, pullEnd _ none after) = _
    rw [ending]
    rfl

/-- A value that takes the whole line settles the line as it does when it is read. -/
theorem withoutEnd_eq (read : Except Error α) :
    withoutEnd (cursor.behindLine read) =
      settle cursor property (read.map fun value => (value, [])) := by
  cases read <;> rfl

/-- The value of a property is that of the tokens that are left on its line, and the line ends as it
does when they are read. -/
theorem pullSetting_eq :
    pullSetting property cursor =
      settle cursor property (propertyValue property cursor.restOfLine) := by
  cases property with
  | topology | polygonMode | frontFace | logicOp =>
    exact withEnd_eq cursor _ (pullChoiceValue_pulledAs cursor _ _)
  | cullMode =>
    rw [pullSetting, pullCullMode_eq]
    exact withoutEnd_eq cursor .cullMode _
  | colorWriteMask =>
    rw [pullSetting, pullColorMask_eq]
    exact withoutEnd_eq cursor .colorWriteMask _
  | blendFactor operand => exact withEnd_eq cursor _ (pullChoiceParameter_pulledAs cursor _ _)
  | blendOp part => exact withEnd_eq cursor _ (pullChoiceParameter_pulledAs cursor _ _)
  | depthCompareOp => exact withEnd_eq cursor _ (pullChoiceParameter_pulledAs cursor _ _)
  | stencilCompareOp face => exact withEnd_eq cursor _ (pullChoiceParameter_pulledAs cursor _ _)
  | stencilOp face outcome => exact withEnd_eq cursor _ (pullChoiceParameter_pulledAs cursor _ _)
  | stencilWord face word => exact withEnd_eq cursor _ (pullParameter_pulledAs cursor _)
  | scalar scalar => exact withEnd_eq cursor _ (pullScalar_pulledAs cursor _)
  | toggle toggle => exact withEnd_eq cursor _ (pullToggle_pulledAs cursor _)

end GpuScript.Command
