import GpuScript.Indices
import GpuScript.Proofs.Checked.Result
import GpuScript.Proofs.Checked.Table
import GpuScript.Proofs.Checked.Token
import GpuScript.Requirement

/-!
# Requirements at indices

The numbers of a version are written into three slots and taken from them, and a format or a feature
is taken from its table. A part without a slot refuses the version and is never written
(`fillSlots_eq_none`), so all three slots are there (`version?_eq`), and a require section is read
without anything that is none (`requirements?_eq`). The same is said of the tokens of an index
section (`indices?_eq`).
-/

namespace GpuScript.Checked

open Requirement Text

/-- Slots with the numbers that texts write from an index on; nothing if a text writes no number or
has no slot. -/
def fillSlots (slots : List UInt32) (index : Nat) : List (List Char) → Option (List UInt32)
  | [] => some slots
  | text :: rest =>
    if index < slots.length then
      match word32? text with
      | some number => fillSlots (slots.set index number) (index + 1) rest
      | none => none
    else
      none

/-- The version that a text stands for, taken from its slots. -/
def version? (text : String) : Option (Option (UInt32 × UInt32 × UInt32)) :=
  match fillSlots [0, 0, 0] 0 (pieces (· == '.') text.toList) with
  | none => some none
  | some slots => do
    let major ← slots[0]?
    let minor ← slots[1]?
    let patch ← slots[2]?
    some (some (major, minor, patch))

/-- A version, which takes all tokens that are left. -/
def readVersion? (line : Nat) : List Token → Reading (Located Requirement.Error) Requirement
  | [token] => do
    let found ← ask (version? token.text)
    match found with
    | some (major, minor, patch) => given (.ok (.vulkanVersion major minor patch))
    | none => given (.error ⟨line, .invalidVersion⟩)
  | _ => given (.error ⟨line, .invalidVersion⟩)

/-- A format and the tokens after it, for a line with a number. -/
def readFormat? (line : Nat) :
    List Token → Reading (Located Requirement.Error) (Format × List Token)
  | [] => given (.error ⟨line, .missingFormat⟩)
  | token :: rest => do
    let found ← ask (lookUp? Format.table token.text)
    match found with
    | some format => given (.ok (format, rest))
    | none => given (.error ⟨line, .unknownFormat token.text⟩)

/-- A line that requires a format. -/
def readFormatLine? (line : Nat) (name : String) (make : Format → Requirement)
    (tokens : List Token) : Reading (Located Requirement.Error) RequireEntry := do
  let (format, tokens) ← readFormat? line tokens
  let () ← given (Requirement.finish name tokens)
  given (.ok (.requirement (make format)))

/-- What a line asks for whose first word is a name. -/
def readNamed? (line : Nat) (name : String) (tokens : List Token) :
    Reading (Located Requirement.Error) RequireEntry :=
  match name with
  | "framebuffer" => readFormatLine? line name .framebuffer tokens
  | "depthstencil" => readFormatLine? line name .depthStencil tokens
  | "fbsize" => given ((readSize line tokens).map .requirement)
  | "vulkan" => do
    let version ← readVersion? line tokens
    given (.ok (.requirement version))
  | _ => do
    let found ← ask (lookUp? Feature.table name)
    match found with
    | some device => do
      let () ← given (Requirement.finish name tokens)
      given (.ok (.requirement (.feature device)))
    | none =>
      if name.toList.all isExtensionCharacter then do
        let () ← given (Requirement.finish name tokens)
        given (.ok (.extension name))
      else
        given (.error ⟨line, .invalidLine⟩)

/-- What a line asks for. -/
def readRequireLine? (line : TokenLine) : Reading (Located Requirement.Error) RequireEntry :=
  match line.first.word? with
  | none => given (.error ⟨line.line, .invalidLine⟩)
  | some name => readNamed? line.line name line.rest

/-- What the body of a section asks for whose first line has the given number. -/
def requirements? (text : String) (firstLine : Nat) :
    Reading (Located Requirement.Error) Requirements := do
  let lines ← ask (tokenLines? text firstLine)
  let entries ← lines.mapM readRequireLine?
  given (.ok (Requirements.ofEntries entries))

/-- The indices in the body of a section whose first line has the given number. -/
def indices? (text : String) (firstLine : Nat) : Reading (Located Indices.Error) (List UInt16) := do
  let tokens ← ask (tokens? text firstLine)
  given ((tokens.filter fun token => !token.kind.isEnd).mapM Indices.read)

/-- More texts than there are slots left are not written. -/
theorem fillSlots_eq_none {slots : List UInt32} {index : Nat} {texts : List (List Char)}
    (inside : index ≤ slots.length) (many : slots.length < index + texts.length) :
    fillSlots slots index texts = none := by
  induction texts generalizing slots index with
  | nil =>
    rw [List.length_nil] at many
    omega
  | cons text rest ih =>
    rw [List.length_cons] at many
    by_cases room : index < slots.length
    · rw [fillSlots, if_pos room]
      cases word32? text with
      | none => rfl
      | some number =>
        exact ih (by rw [List.length_set]; omega) (by rw [List.length_set]; omega)
    · rw [fillSlots, if_neg room]

/-- The three slots of a version are there. -/
theorem version?_eq (text : String) : version? text = some (versionOf? text) := by
  have parts := pieces_ne_nil (· == '.') text.toList
  rw [version?, versionOf?]
  rcases cut : pieces (· == '.') text.toList with _ | ⟨major, _ | ⟨minor, _ | ⟨patch, rest⟩⟩⟩
  · exact (parts cut).elim
  · cases first : word32? major <;> simp [fillSlots, first]
  · cases first : word32? major <;> cases second : word32? minor <;>
      simp [fillSlots, first, second]
  · cases rest with
    | nil =>
      cases first : word32? major <;> cases second : word32? minor <;>
        cases third : word32? patch <;> simp [fillSlots, first, second, third]
    | cons fourth rest =>
      rw [fillSlots_eq_none (by simp) (by simp)]
      simp only [List.map_cons]
      cases word32? major <;> cases word32? minor <;> cases word32? patch <;> rfl

/-- A version is read without a slot that is none. -/
theorem readVersion?_eq (line : Nat) (tokens : List Token) :
    readVersion? line tokens = given (readVersion line tokens) := by
  rcases tokens with _ | ⟨token, _ | ⟨second, rest⟩⟩
  · rfl
  · rw [readVersion?, readVersion, version?_eq, ask_some, given_ok_bind]
    cases versionOf? token.text <;> rfl
  · rfl

/-- A format is found without an index that is none. -/
theorem readFormat?_eq (line : Nat) (tokens : List Token) :
    readFormat? line tokens = given (readFormat line tokens) := by
  cases tokens with
  | nil => rfl
  | cons token rest =>
    rw [readFormat?, readFormat, lookUp?_eq, ask_some, given_ok_bind, Format.ofName?]
    cases Format.table.find? token.text <;> rfl

/-- A line that requires a format is read without an index that is none. -/
theorem readFormatLine?_eq (line : Nat) (name : String) (make : Format → Requirement)
    (tokens : List Token) :
    readFormatLine? line name make tokens = given (do
      let (format, tokens) ← readFormat line tokens
      Requirement.finish name tokens
      .ok (.requirement (make format))) := by
  rw [readFormatLine?, readFormat?_eq]
  exact given_bind _ fun ⟨format, tokens⟩ _ => given_bind _ fun _ _ => rfl

/-- What a line asks for is found without anything that is none. -/
theorem readNamed?_eq (line : Nat) (name : String) (tokens : List Token) :
    readNamed? line name tokens = given (RequireEntry.readNamed line name tokens) := by
  unfold readNamed?
  split
  case h_1 => exact readFormatLine?_eq line "framebuffer" .framebuffer tokens
  case h_2 => exact readFormatLine?_eq line "depthstencil" .depthStencil tokens
  case h_3 => rfl
  case h_4 =>
    rw [readVersion?_eq]
    exact given_bind_ok _ _
  case h_5 notFramebuffer notDepth notSize notVersion =>
    rw [lookUp?_eq, ask_some, given_ok_bind, RequireEntry.readNamed, Feature.ofName?]
    · cases Feature.table.find? name with
      | some device => exact given_bind _ fun _ _ => rfl
      | none =>
        dsimp only
        by_cases plain : name.toList.all isExtensionCharacter = true
        · rw [if_pos plain, if_pos plain]
          exact given_bind _ fun _ _ => rfl
        · rw [if_neg plain, if_neg plain]
    all_goals assumption

/-- A line of a require section is read without anything that is none. -/
theorem readRequireLine?_eq (line : TokenLine) :
    readRequireLine? line = given (RequireEntry.readLine line) := by
  rw [readRequireLine?, RequireEntry.readLine]
  cases line.first.word? with
  | none => rfl
  | some name => exact readNamed?_eq line.line name line.rest

/-- Whatever the text, what it requires is read without anything that is none. -/
theorem requirements?_eq (text : String) (firstLine : Nat) :
    requirements? text firstLine = given (Requirements.parse text firstLine) := by
  rw [requirements?, tokenLines?_eq, ask_some, given_ok_bind,
    mapM_given fun line _ => readRequireLine?_eq line]
  exact given_bind_ok _ _

/-- Whatever the text, its indices are read without a part that is none. -/
theorem indices?_eq (text : String) (firstLine : Nat) :
    indices? text firstLine = given (Indices.parse text firstLine) := by
  rw [indices?, tokens?_eq, ask_some, given_ok_bind]
  rfl

end GpuScript.Checked
