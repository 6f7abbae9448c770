import GpuScript.Command.Form
import GpuScript.Proofs.Operation.Operands
import GpuScript.Proofs.Result

/-!
# Operands that survive

A number survives when its text, read alone and converted as the operand that it is, gives an equal
number. Then the readers of operands give an equal number in a line as well. Equality is that of
the numbers: the two zeros are equal.
-/

namespace GpuScript

open Command

/-- The first token of a text that stands alone. -/
def firstToken (text : String) : Token :=
  (Cursor.ofText text 1).peek

/-- The number of an operand that may have any notation. -/
def singleOf? (token : Token) : Option Single :=
  token.kind.toDouble?.map Binary.toSingle

/-- A value was found, and it is equal to a given one. -/
def FindsEqual {α : Type} [BEq α] (found : Option α) (value : α) : Prop :=
  ∃ again, found = some again ∧ (again == value) = true

instance {α : Type} [BEq α] (found : Option α) (value : α) : Decidable (FindsEqual found value) :=
  decidable_of_iff (found.any (· == value) = true) (Option.any_eq_true _ _)

/-- A number survives as an operand. -/
def Binary.Survives (number : Single) : Prop :=
  FindsEqual (singleOf? (firstToken number.text)) number

/-- A tolerance survives: so does its number, which is decimal. -/
def Tolerance.Survives (tolerance : Tolerance) : Prop :=
  FindsEqual (firstToken tolerance.value.text).kind.decimalDouble? tolerance.value

/-- The values of a buffer survive as components of their type. -/
def BufferData.Survives (data : BufferData) : Prop :=
  ∀ value ∈ data.values, FindsEqual (data.datumType.value? (firstToken value.text)) value

/-- The coordinates of a region survive. -/
def Region.Survives : Region → Prop
  | window => True
  | pixel x y => x.Survives ∧ y.Survives
  | rect x y width height => x.Survives ∧ y.Survives ∧ width.Survives ∧ height.Survives

/-- The components of a colour survive. -/
def ProbeColor.Survives : ProbeColor → Prop
  | rgb r g b => r.Survives ∧ g.Survives ∧ b.Survives
  | rgba r g b a => r.Survives ∧ g.Survives ∧ b.Survives ∧ a.Survives

/-- The values that a change of a buffer writes survive. -/
def BufferUpdate.Survives : BufferUpdate → Prop
  | storageSize _ _ => True
  | storage _ data => data.Survives
  | uniform _ data => data.Survives
  | pushConstants data => data.Survives

/-- Every number of an operation survives. Unsigned words always do. -/
def Operation.Survives : Operation → Prop
  | clear | clearStencil _ | drawArrays _ _ _ _ _ _ | compute _ _ _ _ | entryPoint _ _
  | patchVertices _ => True
  | clearColor r g b a => r.Survives ∧ g.Survives ∧ b.Survives ∧ a.Survives
  | clearDepth value => value.Survives
  | drawRect _ _ x y width height _ =>
    x.Survives ∧ y.Survives ∧ width.Survives ∧ height.Survives
  | probe framebuffer => framebuffer.region.Survives ∧ framebuffer.color.Survives
  | probeBuffer storage => storage.data.Survives
  | buffer update => update.Survives
  | tolerance tolerances => ∀ tolerance ∈ tolerances, tolerance.Survives

instance (number : Single) : Decidable number.Survives :=
  inferInstanceAs (Decidable (FindsEqual _ _))

instance (tolerance : Tolerance) : Decidable tolerance.Survives :=
  inferInstanceAs (Decidable (FindsEqual _ _))

instance (data : BufferData) : Decidable data.Survives :=
  inferInstanceAs (Decidable (∀ value ∈ data.values, FindsEqual _ _))

instance : (region : Region) → Decidable region.Survives
  | .window => inferInstanceAs (Decidable True)
  | .pixel _ _ => inferInstanceAs (Decidable (_ ∧ _))
  | .rect _ _ _ _ => inferInstanceAs (Decidable (_ ∧ _ ∧ _ ∧ _))

instance : (color : ProbeColor) → Decidable color.Survives
  | .rgb _ _ _ => inferInstanceAs (Decidable (_ ∧ _ ∧ _))
  | .rgba _ _ _ _ => inferInstanceAs (Decidable (_ ∧ _ ∧ _ ∧ _))

instance : (update : BufferUpdate) → Decidable update.Survives
  | .storageSize _ _ => inferInstanceAs (Decidable True)
  | .storage _ data | .uniform _ data | .pushConstants data =>
    inferInstanceAs (Decidable data.Survives)

instance : (operation : Operation) → Decidable operation.Survives
  | .clear | .clearStencil _ | .drawArrays _ _ _ _ _ _ | .compute _ _ _ _ | .entryPoint _ _
  | .patchVertices _ => inferInstanceAs (Decidable True)
  | .clearColor _ _ _ _ => inferInstanceAs (Decidable (_ ∧ _ ∧ _ ∧ _))
  | .clearDepth value => inferInstanceAs (Decidable value.Survives)
  | .drawRect _ _ _ _ _ _ _ => inferInstanceAs (Decidable (_ ∧ _ ∧ _ ∧ _))
  | .probe _ => inferInstanceAs (Decidable (_ ∧ _))
  | .probeBuffer storage => inferInstanceAs (Decidable storage.data.Survives)
  | .buffer update => inferInstanceAs (Decidable update.Survives)
  | .tolerance tolerances =>
    inferInstanceAs (Decidable (∀ tolerance ∈ tolerances, tolerance.Survives))

namespace Command

/-- An unsigned word reads back. -/
theorem word_wordToken (cause : Error) (value : UInt32) (rest : List Token) :
    word cause (wordToken (wordText value) :: rest) = .ok (value, rest) := by
  rw [word, wordToken, word32?_ofWord_wordText]

/-- A binding reads back. -/
theorem binding_wordToken (command : BindingCommand) (value : Binding) (rest : List Token) :
    binding command (wordToken value.text :: rest) = .ok (value, rest) := by
  rw [binding, bindingOf?_wordToken]

/-- The token of a number is no word. -/
theorem word?_of_toDouble? {token : Token} (number : token.kind.toDouble?.isSome = true) :
    token.word? = none := by
  unfold Token.word?
  split
  · rename_i word
    rw [word] at number
    cases number
  · rfl

end Command

end GpuScript
