import GpuScript.Proofs.SortedTable
import GpuScript.Proofs.Token.Pulling
import GpuScript.Requirement

/-!
# Require sections read from one cursor

A require section can be read without its logical lines at hand: one cursor runs through the body,
every line pulls the tokens that it asks for, one, two or none, and then the end of the line. A line
that is accepted in this way leaves the cursor behind its own end (`pullLine_eq`), whatever it asks
for, so no line takes anything of the next one, and the section is the same as when it is cut into
lines first (`pull_eq`).
-/

namespace GpuScript

open Text

namespace Requirement

/-- The end of a line after what it requires, pulled from a cursor. -/
def pullEnd (name : String) (cursor : Cursor) : Except (Located Error) Cursor :=
  let (token, after) := cursor.next
  if token.kind.isEnd then .ok after else .error ⟨token.line, .extraOperand name⟩

/-- A format, pulled from a cursor for a line with a number. -/
def pullFormat (line : Nat) (cursor : Cursor) : Except (Located Error) (Format × Cursor) :=
  let (token, after) := cursor.next
  if token.kind.isEnd then
    .error ⟨line, .missingFormat⟩
  else
    match Format.ofName? token.text with
    | some format => .ok (format, after)
    | none => .error ⟨line, .unknownFormat token.text⟩

/-- A size, pulled from a cursor that has to be at the end of the line then. -/
def pullSize (line : Nat) (cursor : Cursor) : Except (Located Error) (Requirement × Cursor) :=
  let (width, middle) := cursor.next
  let (height, after) := middle.next
  match width.kind.word32?, height.kind.word32? with
  | some width, some height =>
    if after.peek.kind.isEnd then
      .ok (.framebufferSize width height, after)
    else
      .error ⟨line, .invalidSize⟩
  | _, _ => .error ⟨line, .invalidSize⟩

/-- A version, pulled from a cursor that has to be at the end of the line then. -/
def pullVersion (line : Nat) (cursor : Cursor) : Except (Located Error) (Requirement × Cursor) :=
  let (token, after) := cursor.next
  match versionOf? token.text with
  | some (major, minor, patch) =>
    if !token.kind.isEnd && after.peek.kind.isEnd then
      .ok (.vulkanVersion major minor patch, after)
    else
      .error ⟨line, .invalidVersion⟩
  | none => .error ⟨line, .invalidVersion⟩

/-- A requirement and the end of its line. -/
def pullRequirement (requirement : Requirement) (cursor : Cursor) :
    Except (Located Error) (RequireEntry × Cursor) := do
  let after ← pullEnd requirement.name cursor
  .ok (.requirement requirement, after)

/-- What a line asks for whose first word is a name, pulled from the cursor behind that word. -/
def pullNamed (line : Nat) (name : String) (cursor : Cursor) :
    Except (Located Error) (RequireEntry × Cursor) :=
  match name with
  | "framebuffer" => do
    let (format, after) ← pullFormat line cursor
    pullRequirement (.framebuffer format) after
  | "depthstencil" => do
    let (format, after) ← pullFormat line cursor
    pullRequirement (.depthStencil format) after
  | "fbsize" => do
    let (size, after) ← pullSize line cursor
    pullRequirement size after
  | "vulkan" => do
    let (version, after) ← pullVersion line cursor
    pullRequirement version after
  | _ =>
    match Feature.ofName? name with
    | some device => pullRequirement (.feature device) cursor
    | none =>
      if name.toList.all isExtensionCharacter then do
        let after ← pullEnd name cursor
        .ok (.extension name, after)
      else
        .error ⟨line, .invalidLine⟩

/-- What a line asks for that opens with a token, pulled from the cursor behind that token. -/
def pullLine (token : Token) (cursor : Cursor) : Except (Located Error) (RequireEntry × Cursor) :=
  match token.word? with
  | none => .error ⟨token.line, .invalidLine⟩
  | some name => pullNamed token.line name cursor

/-- The end of a line is pulled if nothing is left on the line. -/
theorem pullEnd_eq (name : String) (cursor : Cursor) :
    pullEnd name cursor =
      (finish name cursor.restOfLine).map fun _ => cursor.skipLine.2 := by
  unfold pullEnd
  by_cases ended : cursor.next.1.kind.isEnd = true
  · rw [Cursor.restOfLine_of_isEnd ended, Cursor.skipLine_of_isEnd ended]
    exact if_pos ended
  · rw [Cursor.restOfLine_of_not_isEnd ended]
    exact if_neg ended

/-- A requirement ends its line if nothing is left on the line. -/
theorem pullRequirement_eq {requirement : Requirement} {name : String}
    (named : requirement.name = name) (cursor : Cursor) :
    pullRequirement requirement cursor =
      (do finish name cursor.restOfLine; .ok (RequireEntry.requirement requirement)).map
        fun entry => (entry, cursor.skipLine.2) := by
  rw [pullRequirement, named, pullEnd_eq]
  cases finish name cursor.restOfLine <;> rfl

/-- A format and the end of its line are pulled as they are read. -/
theorem pullFormat_bind_eq (line : Nat) {name : String} (make : Format → Requirement)
    (named : ∀ format, (make format).name = name) (cursor : Cursor) :
    (do
      let (format, after) ← pullFormat line cursor
      pullRequirement (make format) after) =
      (do
        let (format, tokens) ← readFormat line cursor.restOfLine
        finish name tokens
        .ok (RequireEntry.requirement (make format))).map
          fun entry => (entry, cursor.skipLine.2) := by
  unfold pullFormat
  by_cases ended : cursor.next.1.kind.isEnd = true
  · simp only [ended, if_true, Cursor.restOfLine_of_isEnd ended]
    rfl
  · simp only [ended, Cursor.restOfLine_of_not_isEnd ended, readFormat]
    cases Format.ofName? cursor.next.1.text with
    | none => rfl
    | some format =>
      rw [Cursor.skipLine_of_not_isEnd ended]
      exact pullRequirement_eq (named format) cursor.next.2

/-- A size and the end of its line are pulled as they are read. -/
theorem pullSize_bind_eq (line : Nat) (cursor : Cursor) :
    (do
      let (size, after) ← pullSize line cursor
      pullRequirement size after) =
      ((readSize line cursor.restOfLine).map RequireEntry.requirement).map
        fun entry => (entry, cursor.skipLine.2) := by
  unfold pullSize
  by_cases noWidth : cursor.next.1.kind.isEnd = true
  · rw [Cursor.restOfLine_of_isEnd noWidth]
    simp only [TokenKind.word32?_of_isEnd noWidth]
    rfl
  rw [Cursor.restOfLine_of_not_isEnd noWidth, Cursor.skipLine_of_not_isEnd noWidth]
  by_cases noHeight : cursor.next.2.next.1.kind.isEnd = true
  · rw [Cursor.restOfLine_of_isEnd noHeight]
    simp only [TokenKind.word32?_of_isEnd noHeight]
    cases cursor.next.1.kind.word32? <;> rfl
  rw [Cursor.restOfLine_of_not_isEnd noHeight, Cursor.skipLine_of_not_isEnd noHeight]
  by_cases ended : cursor.next.2.next.2.next.1.kind.isEnd = true
  · rw [Cursor.restOfLine_of_isEnd ended]
    simp only [readSize, Cursor.peek, ended, if_true]
    cases cursor.next.1.kind.word32? with
    | none => rfl
    | some width =>
      cases cursor.next.2.next.1.kind.word32? with
      | none => rfl
      | some height =>
        refine (pullRequirement_eq rfl _).trans ?_
        rw [Cursor.restOfLine_of_isEnd ended]
        rfl
  · rw [Cursor.restOfLine_of_not_isEnd ended]
    simp only [readSize, Cursor.peek, ended]
    cases cursor.next.1.kind.word32? <;> cases cursor.next.2.next.1.kind.word32? <;> rfl

/-- A version and the end of its line are pulled as they are read. -/
theorem pullVersion_bind_eq (line : Nat) (cursor : Cursor) :
    (do
      let (version, after) ← pullVersion line cursor
      pullRequirement version after) =
      ((readVersion line cursor.restOfLine).map RequireEntry.requirement).map
        fun entry => (entry, cursor.skipLine.2) := by
  unfold pullVersion
  by_cases missing : cursor.next.1.kind.isEnd = true
  · simp only [Cursor.restOfLine_of_isEnd missing, missing]
    cases versionOf? cursor.next.1.text <;> rfl
  rw [Cursor.restOfLine_of_not_isEnd missing, Cursor.skipLine_of_not_isEnd missing]
  by_cases ended : cursor.next.2.next.1.kind.isEnd = true
  · rw [Cursor.restOfLine_of_isEnd ended]
    simp only [readVersion, Cursor.peek, missing, ended]
    cases versionOf? cursor.next.1.text with
    | none => rfl
    | some version =>
      refine (pullRequirement_eq rfl _).trans ?_
      rw [Cursor.restOfLine_of_isEnd ended]
      rfl
  · rw [Cursor.restOfLine_of_not_isEnd ended]
    simp only [readVersion, Cursor.peek, missing, ended]
    cases versionOf? cursor.next.1.text <;> rfl

/-- A line with a name pulls what is left on it and its end, and asks for what it is read as. -/
theorem pullNamed_eq (line : Nat) (name : String) (cursor : Cursor) :
    pullNamed line name cursor =
      (RequireEntry.readNamed line name cursor.restOfLine).map
        fun entry => (entry, cursor.skipLine.2) := by
  unfold pullNamed
  split
  case h_1 => exact pullFormat_bind_eq line .framebuffer (fun _ => rfl) cursor
  case h_2 => exact pullFormat_bind_eq line .depthStencil (fun _ => rfl) cursor
  case h_3 => exact pullSize_bind_eq line cursor
  case h_4 => exact pullVersion_bind_eq line cursor
  case h_5 notFramebuffer notDepth notSize notVersion =>
    rw [RequireEntry.readNamed]
    · cases found : Feature.ofName? name with
      | some device =>
        have named : (Requirement.feature device).name = name := SortedTable.key_of_find? found
        exact pullRequirement_eq named cursor
      | none =>
        dsimp only
        by_cases plain : name.toList.all isExtensionCharacter = true
        · rw [if_pos plain, if_pos plain, pullEnd_eq]
          cases finish name cursor.restOfLine <;> rfl
        · rw [if_neg plain, if_neg plain]
          rfl
    all_goals assumption

/-- A line pulls what is left on it and its end, and asks for what it is read as. -/
theorem pullLine_eq (token : Token) (cursor : Cursor) :
    pullLine token cursor =
      (RequireEntry.readLine ⟨token, cursor.restOfLine⟩).map
        fun entry => (entry, cursor.skipLine.2) := by
  rw [pullLine, RequireEntry.readLine]
  cases token.word? with
  | none => rfl
  | some name => exact pullNamed_eq token.line name cursor

/-- A line that is accepted leaves no more text than there was behind its first token. -/
theorem length_le_of_pullLine {token : Token} {cursor after : Cursor} {entry : RequireEntry}
    (pulled : pullLine token cursor = .ok (entry, after)) :
    after.rest.length ≤ cursor.rest.length := by
  rw [pullLine_eq] at pulled
  obtain ⟨_, _, same⟩ := map_eq_ok.mp pulled
  obtain ⟨_, rfl⟩ := Prod.mk.inj same
  exact cursor.length_skipLine_le

end Requirement

namespace Requirements

open Requirement

/-- What a section asks for, with one more entry behind the others. -/
def add (requirements : Requirements) : RequireEntry → Requirements
  | .requirement requirement =>
    { requirements with requirements := requirements.requirements ++ [requirement] }
  | .extension name => { requirements with extensions := requirements.extensions ++ [name] }

/-- What the lines at a cursor ask for, behind what was found before. -/
def pullFrom (found : Requirements) (cursor : Cursor) :
    Except (Located Requirement.Error) Requirements :=
  if ended : cursor.next.1.kind = .endOfData then
    .ok found
  else if cursor.next.1.kind = .endOfLine then
    have := Cursor.length_next_lt cursor ended
    pullFrom found cursor.next.2
  else
    match pulled : pullLine cursor.next.1 cursor.next.2 with
    | .error error => .error error
    | .ok (entry, after) =>
      have := Cursor.length_next_lt cursor ended
      have := length_le_of_pullLine pulled
      pullFrom (found.add entry) after
  termination_by cursor.rest.length

/-- What the body of a section asks for whose first line has the given number, read from one
cursor. -/
def pull (text : String) (firstLine : Nat) : Except (Located Requirement.Error) Requirements :=
  pullFrom ⟨[], []⟩ (Cursor.ofText text firstLine)

/-- Only a section without entries asks for nothing. -/
theorem isEmpty_ofEntries (entries : List RequireEntry) :
    (ofEntries entries).isEmpty = entries.isEmpty := by
  cases entries with
  | nil => rfl
  | cons first rest =>
    cases first with
    | requirement value => rfl
    | extension name => exact Bool.and_false _

/-- Entries that are added one by one are listed in order. -/
theorem foldl_add_ofEntries (before entries : List RequireEntry) :
    entries.foldl add (ofEntries before) = ofEntries (before ++ entries) := by
  induction entries generalizing before with
  | nil => rw [List.foldl_nil, List.append_nil]
  | cons entry rest ih =>
    have added : (ofEntries before).add entry = ofEntries (before ++ [entry]) := by
      cases entry <;> simp [add, ofEntries, RequireEntry.requirement?, RequireEntry.extension?]
    rw [List.foldl_cons, added, ih, List.append_assoc, List.singleton_append]

/-- The lines at a cursor add what they are read as. -/
theorem pullFrom_eq (found : Requirements) (cursor : Cursor) :
    pullFrom found cursor =
      ((TokenLine.ofTokens cursor.tokens).mapM RequireEntry.readLine).map
        fun entries => entries.foldl add found := by
  fun_induction pullFrom found cursor with
  | case1 found cursor ended =>
    rw [Cursor.ofTokens_tokens_of_endOfData ended]
    rfl
  | case2 found cursor going ended shorter ih =>
    rw [ih, Cursor.ofTokens_tokens_of_isEnd (TokenKind.isEnd_iff.mpr (.inr ended))]
  | case3 found cursor going inner error pulled =>
    have opens := TokenKind.not_isEnd going inner
    rw [pullLine_eq, map_eq_error] at pulled
    rw [Cursor.ofTokens_tokens_of_not_isEnd opens, List.mapM_cons, pulled]
    rfl
  | case4 found cursor going inner entry after pulled _ _ ih =>
    -- The cursor stands behind the end of this line and no other: what is left are the others.
    have opens := TokenKind.not_isEnd going inner
    rw [pullLine_eq] at pulled
    obtain ⟨_, own, same⟩ := map_eq_ok.mp pulled
    obtain ⟨rfl, rfl⟩ := Prod.mk.inj same
    rw [ih, Cursor.ofTokens_tokens_of_not_isEnd opens, List.mapM_cons, own, ok_bind]
    cases (TokenLine.ofTokens cursor.next.2.skipLine.2.tokens).mapM RequireEntry.readLine <;> rfl

/-- However a section is read, from one cursor or cut into lines first, it asks for the same. -/
theorem pull_eq (text : String) (firstLine : Nat) : pull text firstLine = parse text firstLine := by
  rw [pull, pullFrom_eq, parse]
  exact congrArg (Except.map · _) (funext fun entries => foldl_add_ofEntries [] entries)

end Requirements

end GpuScript
