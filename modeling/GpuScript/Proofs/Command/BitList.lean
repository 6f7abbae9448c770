import GpuScript.Command.Setting
import GpuScript.Proofs.Result
import GpuScript.Proofs.Token.Words

/-!
# Lists of names as sets

Cull modes and colour write masks are sets, of faces and of bits, and are written as lists of names.
Both are read in the same way: the names stand between bars in the operands of the line, and the set
that each name stands for is joined to the set so far (`gatherTokens`). An element is in the result
exactly if it was there before or is in the set of some name (`Joins.gatherTokens_iff`), in whatever
order and however often the names are written.
-/

namespace GpuScript

namespace Text

variable {α : Type} {separates : α → Bool}

/-- A piece of a list holds no separator, and stands between two of them or at an end. -/
theorem mem_pieces_iff {elements piece : List α} :
    piece ∈ pieces separates elements ↔ (∀ element ∈ piece, separates element = false) ∧
      ∃ before after, elements = before ++ piece ++ after ∧
        (∀ last ∈ before.getLast?, separates last = true) ∧
        (∀ next ∈ after.head?, separates next = true) := by
  constructor
  · intro listed
    refine ⟨fun element inside => (mem_of_mem_pieces listed inside).2, ?_⟩
    generalize cut : pieces separates elements = all at listed
    induction all generalizing elements with
    | nil => cases listed
    | cons first others ih =>
      rcases List.mem_cons.mp listed with rfl | later
      · rcases pieces_eq_cons cut with ⟨rfl, _⟩ | ⟨separator, after, split, rfl, _⟩
        · exact ⟨[], [], by simp, by simp, by simp⟩
        · exact ⟨[], separator :: after, by simp, by simp, by simpa using split⟩
      · rcases pieces_eq_cons cut with ⟨_, rfl⟩ | ⟨separator, rest, split, rfl, inner⟩
        · cases later
        · obtain ⟨before, after, rfl, last, next⟩ := ih inner later
          refine ⟨first ++ separator :: before, after, by simp, ?_, next⟩
          cases before with
          | nil => simpa using split
          | cons opening before => simpa [List.getLast?_cons] using last
  · rintro ⟨plain, before, after, rfl, last, next⟩
    have alone : piece ∈ pieces separates piece := by
      rw [pieces_of_plain plain]
      exact List.mem_cons_self
    have front : piece ∈ pieces separates (before ++ piece) := by
      rcases List.eq_nil_or_concat before with rfl | ⟨others, separator, rfl⟩
      · exact alone
      · rw [List.concat_eq_append, List.append_assoc, List.singleton_append,
          pieces_append_cons (last separator (by simp))]
        exact List.mem_append_right _ alone
    cases after with
    | nil => rwa [List.append_nil]
    | cons separator rest =>
      rw [pieces_append_cons (next separator rfl)]
      exact List.mem_append_left _ front

end Text

namespace Command

open Text

/-- A name stands in a text between bars, or between a bar and an end of the text. -/
def Names (text name : String) : Prop :=
  name ≠ "" ∧ '|' ∉ name.toList ∧ ∃ before after, text.toList = before ++ name.toList ++ after ∧
    (∀ last ∈ before.getLast?, last = '|') ∧ ∀ next ∈ after.head?, next = '|'

/-- The names of a token are those that stand in its text. -/
theorem mem_bitNames_iff {token : Token} {name : String} :
    name ∈ bitNames token ↔ Names token.text name := by
  have bar (character : Char) : (character == '|') = false ↔ character ≠ '|' := by simp
  have plain : (∀ character ∈ name.toList, (character == '|') = false) ↔ '|' ∉ name.toList := by
    simp only [bar]
    exact ⟨fun all inside => all '|' inside rfl, fun absent character inside same =>
      absent (same ▸ inside)⟩
  have listed : name ∈ bitNames token ↔
      name ≠ "" ∧ name.toList ∈ pieces (· == '|') token.text.toList := by
    constructor
    · intro found
      obtain ⟨piece, kept, rfl⟩ := List.mem_map.mp found
      obtain ⟨cut, nonempty⟩ := List.mem_filter.mp kept
      refine ⟨fun empty => ?_, by rwa [String.toList_ofList]⟩
      rw [String.ofList_eq_empty_iff] at empty
      simp [empty] at nonempty
    · rintro ⟨nonempty, cut⟩
      refine List.mem_map.mpr ⟨name.toList, List.mem_filter.mpr ⟨cut, ?_⟩, String.ofList_toList⟩
      simpa using nonempty
  rw [listed, mem_pieces_iff, plain, Names]
  simp only [beq_iff_eq]

/-- Joins the values of names to a value, one by one. -/
def gatherNames {α : Type} (ofName? : String → Option α) (join : α → α → α) (unknown : Error) :
    α → List String → Except Error α
  | value, [] => .ok value
  | value, name :: names =>
    match ofName? name with
    | some other => gatherNames ofName? join unknown (join value other) names
    | none => .error unknown

/-- Joins the values of the names in tokens to a value, one by one. -/
def gatherTokens {α : Type} (ofName? : String → Option α) (join : α → α → α)
    (notWord unknown : Error) : α → List Token → Except Error α
  | value, [] => .ok value
  | value, token :: rest =>
    match token.word? with
    | none => .error notWord
    | some _ =>
      match gatherNames ofName? join unknown value (bitNames token) with
      | .ok value => gatherTokens ofName? join notWord unknown value rest
      | .error cause => .error cause

/-- Cull modes are gathered by their union. -/
theorem cullModeTokens_eq_gatherTokens (mode : CullMode) (tokens : List Token) :
    cullModeTokens mode tokens =
      gatherTokens Named.ofName? CullMode.union (.invalidPropertyValue .cullMode)
        (.unknownPropertyValue .cullMode) mode tokens := by
  have names (mode : CullMode) (names : List String) :
      cullModeNames (.unknownPropertyValue .cullMode) mode names =
        gatherNames Named.ofName? CullMode.union (.unknownPropertyValue .cullMode) mode names := by
    induction names generalizing mode with
    | nil => rfl
    | cons name names ih =>
      rw [cullModeNames, gatherNames]
      cases (Named.ofName? name : Option CullMode) with
      | none => rfl
      | some other => exact ih (mode.union other)
  induction tokens generalizing mode with
  | nil => rfl
  | cons token rest ih =>
    rw [cullModeTokens, gatherTokens, names]
    cases token.word? with
    | none => rfl
    | some text =>
      cases gatherNames Named.ofName? CullMode.union _ mode (bitNames token) with
      | error cause => rfl
      | ok middle => exact ih middle

/-- Components of a mask are gathered by a bitwise or. -/
theorem colorMaskTokens_eq_gatherTokens (mask : ColorMask) (tokens : List Token) :
    colorMaskTokens mask tokens =
      gatherTokens ColorMask.ofName? (· ||| ·) (.unknownPropertyParameter .colorWriteMask)
        (.unknownPropertyParameter .colorWriteMask) mask tokens := by
  have names (mask : ColorMask) (names : List String) :
      colorMaskNames (.unknownPropertyParameter .colorWriteMask) mask names =
        gatherNames ColorMask.ofName? (· ||| ·) (.unknownPropertyParameter .colorWriteMask) mask
          names := by
    induction names generalizing mask with
    | nil => rfl
    | cons name names ih =>
      rw [colorMaskNames, gatherNames]
      cases ColorMask.ofName? name with
      | none => rfl
      | some bit => exact ih (mask ||| bit)
  induction tokens generalizing mask with
  | nil => rfl
  | cons token rest ih =>
    rw [colorMaskTokens, gatherTokens, names]
    cases token.word? with
    | none => rfl
    | some text =>
      cases gatherNames ColorMask.ofName? (· ||| ·) _ mask (bitNames token) with
      | error cause => rfl
      | ok middle => exact ih middle

/-- A list of cull modes is gathered from no faces on. -/
theorem gatherTokens_of_cullModeValue {tokens : List Token} {mode : CullMode}
    (read : cullModeValue tokens = .ok mode) :
    gatherTokens Named.ofName? CullMode.union (.invalidPropertyValue .cullMode)
      (.unknownPropertyValue .cullMode) .none tokens = .ok mode := by
  rw [← cullModeTokens_eq_gatherTokens]
  cases tokens with
  | nil => cases read
  | cons token rest => exact read

/-- A list of components is gathered from no bits on. -/
theorem gatherTokens_of_colorMaskValue {tokens : List Token} {mask : ColorMask}
    (read : colorMaskValue tokens = .ok mask) :
    gatherTokens ColorMask.ofName? (· ||| ·) (.unknownPropertyParameter .colorWriteMask)
      (.unknownPropertyParameter .colorWriteMask) 0 tokens = .ok mask := by
  rw [← colorMaskTokens_eq_gatherTokens]
  cases tokens with
  | nil => cases read
  | cons token rest => exact read

/-- Values are sets: a value that is joined to another one adds its elements, and values with the
same elements are equal. -/
structure Joins {α β : Type} (join : α → α → α) (holds : α → β → Prop) : Prop where
  /-- An element is in one of two sets if it is in the set that they are joined to. -/
  join_iff : ∀ {first second element},
    holds (join first second) element ↔ holds first element ∨ holds second element
  /-- A set is its elements. -/
  ext : ∀ {first second}, (∀ element, holds first element ↔ holds second element) → first = second

section Gather

variable {α β : Type} {ofName? : String → Option α} {join : α → α → α} {holds : α → β → Prop}
  {notWord unknown : Error}

/-- The names of tokens that are gathered are known names, and an element is in the result if it was
there before or is in the set of a name. -/
theorem Joins.gatherNames_iff (joins : Joins join holds) {value result : α} {names : List String}
    (gathered : gatherNames ofName? join unknown value names = .ok result) (element : β) :
    holds result element ↔
      holds value element ∨ ∃ name ∈ names, ∃ other, ofName? name = some other ∧
        holds other element := by
  induction names generalizing value with
  | nil =>
    obtain rfl := Except.ok.inj gathered
    simp
  | cons name names ih =>
    rw [gatherNames] at gathered
    cases known : ofName? name with
    | none =>
      rw [known] at gathered
      cases gathered
    | some other =>
      rw [known] at gathered
      rw [ih gathered, joins.join_iff]
      simp only [List.exists_mem_cons_iff, known, Option.some.injEq, exists_eq_left', or_assoc]

/-- An element is in the set that is gathered from tokens if it was there before or is in the set of
a name in one of the tokens. -/
theorem Joins.gatherTokens_iff (joins : Joins join holds) {value result : α} {tokens : List Token}
    (gathered : gatherTokens ofName? join notWord unknown value tokens = .ok result)
    (element : β) :
    holds result element ↔
      holds value element ∨ ∃ token ∈ tokens, ∃ name, Names token.text name ∧
        ∃ other, ofName? name = some other ∧ holds other element := by
  induction tokens generalizing value with
  | nil =>
    obtain rfl := Except.ok.inj gathered
    simp
  | cons token rest ih =>
    rw [gatherTokens] at gathered
    cases word : token.word? with
    | none =>
      rw [word] at gathered
      cases gathered
    | some text =>
      rw [word] at gathered
      cases own : gatherNames ofName? join unknown value (bitNames token) with
      | error cause =>
        rw [own] at gathered
        cases gathered
      | ok middle =>
        rw [own] at gathered
        rw [ih gathered, joins.gatherNames_iff own]
        simp only [mem_bitNames_iff, List.exists_mem_cons_iff, or_assoc]

end Gather

end Command

/-- The face is one of those that the mode discards. -/
def CullMode.Discards (mode : CullMode) : Face → Prop
  | .front => mode = .front ∨ mode = .frontAndBack
  | .back => mode = .back ∨ mode = .frontAndBack

instance (mode : CullMode) : (face : Face) → Decidable (mode.Discards face)
  | .front => inferInstanceAs (Decidable (_ ∨ _))
  | .back => inferInstanceAs (Decidable (_ ∨ _))

/-- Cull modes are sets of faces, and a union discards the faces of both. -/
theorem CullMode.joins_union : Command.Joins CullMode.union CullMode.Discards where
  join_iff {first second face} := by
    cases first <;> cases second <;> cases face <;> decide
  ext {first second} same := by
    have front := same .front
    have back := same .back
    cases first <;> cases second <;> simp_all [CullMode.Discards]

/-- The mask has the bit with a number. -/
def ColorMask.Has (mask : ColorMask) (bit : Nat) : Prop :=
  mask.toNat.testBit bit = true

/-- Masks are sets of bits, and a bitwise or has the bits of both. -/
theorem ColorMask.joins_or : Command.Joins (α := ColorMask) (· ||| ·) ColorMask.Has where
  join_iff {first second bit} := by
    rw [Has, UInt8.toNat_or, Nat.testBit_or, Bool.or_eq_true]
    exact Iff.rfl
  ext {first second} same := by
    refine UInt8.toNat_inj.mp (Nat.eq_of_testBit_eq fun bit => ?_)
    exact Bool.eq_iff_iff.mpr (same bit)

end GpuScript
