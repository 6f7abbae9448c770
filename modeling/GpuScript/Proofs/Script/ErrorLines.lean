import GpuScript.Node
import GpuScript.Proofs.Result
import GpuScript.Proofs.Test.Lines
import GpuScript.Proofs.Token.Line

/-!
# The lines of errors

Every reader of a section that refuses a body names a line of the body (`Node.ofSection_error`):
the line of a token that it looked at, the line on which a logical line starts, or the physical
line with a word. The readers go through tokens from the front, so what holds of the tokens that
are left holds of all tokens (`Located.Among.mono`).
-/

namespace GpuScript

open Text

/-- The number is that of a physical line of a text whose first line has the given number. -/
def OnLineOf (text : String) (firstLine number : Nat) : Prop :=
  ∃ index line, (physicalLines text.toList)[index]? = some line ∧ number = firstLine + index

/-- The tokens of a text that end no line stand on its lines. -/
theorem onLineOf_of_mem_tokens {text : String} {firstLine : Nat} {token : Token}
    (listed : token ∈ (Cursor.ofText text firstLine).tokens) (inner : token.kind.isEnd = false) :
    OnLineOf text firstLine token.line :=
  Cursor.exists_physicalLine_of_mem listed inner

/-- The tokens of the logical lines of a text stand on its lines. -/
theorem onLineOf_of_mem_ofText {text : String} {firstLine : Nat} {line : TokenLine} {token : Token}
    (found : line ∈ TokenLine.ofText text firstLine) (listed : token ∈ line.tokens) :
    OnLineOf text firstLine token.line := by
  obtain ⟨among, inner⟩ := TokenLine.mem_of_mem_ofTokens found listed
  exact onLineOf_of_mem_tokens among inner

/-- The line of an error is the given one or that of one of the tokens. -/
def Located.Among {α : Type} (line : Nat) (tokens : List Token) (error : Located α) : Prop :=
  error.line = line ∨ ∃ token ∈ tokens, token.line = error.line

/-- An error among the tokens that are left is one among all tokens. -/
theorem Located.Among.mono {α : Type} {line : Nat} {rest tokens : List Token} {error : Located α}
    (among : error.Among line rest) (part : rest <:+ tokens) : error.Among line tokens :=
  among.imp_right fun ⟨token, listed, same⟩ => ⟨token, part.mem listed, same⟩

/-- An error among the tokens of a logical line is on a line of the text. -/
theorem Located.Among.onLineOf {α : Type} {text : String} {firstLine : Nat} {line : TokenLine}
    {error : Located α} (among : error.Among line.line line.tokens)
    (found : line ∈ TokenLine.ofText text firstLine) : OnLineOf text firstLine error.line := by
  rcases among with same | ⟨token, listed, same⟩
  · rw [same]
    exact onLineOf_of_mem_ofText found List.mem_cons_self
  · rw [← same]
    exact onLineOf_of_mem_ofText found listed

namespace Requirement

/-- What follows a requirement is refused on its own line. -/
theorem finish_error {name : String} {tokens : List Token} {error : Located Error}
    (refused : finish name tokens = .error error) (line : Nat) : error.Among line tokens := by
  cases tokens with
  | nil => cases refused
  | cons token rest =>
    obtain rfl := Except.error.inj refused
    exact Or.inr ⟨token, List.mem_cons_self, rfl⟩

/-- A format is refused on the line on which the requirement starts. -/
theorem readFormat_error {line : Nat} {tokens : List Token} {error : Located Error}
    (refused : readFormat line tokens = .error error) : error.line = line := by
  unfold readFormat at refused
  split at refused
  · obtain rfl := Except.error.inj refused
    rfl
  · split at refused
    · cases refused
    · obtain rfl := Except.error.inj refused
      rfl

/-- A format takes a single token. -/
theorem readFormat_suffix {line : Nat} {tokens rest : List Token} {format : Format}
    (accepted : readFormat line tokens = .ok (format, rest)) : rest <:+ tokens := by
  unfold readFormat at accepted
  split at accepted
  · cases accepted
  · split at accepted
    · obtain ⟨_, rfl⟩ := Prod.mk.inj (Except.ok.inj accepted)
      exact List.suffix_cons _ _
    · cases accepted

/-- A size is refused on the line on which the requirement starts. -/
theorem readSize_error {line : Nat} {tokens : List Token} {error : Located Error}
    (refused : readSize line tokens = .error error) : error.line = line := by
  unfold readSize at refused
  repeat' split at refused
  all_goals cases refused
  all_goals rfl

/-- A version is refused on the line on which the requirement starts. -/
theorem readVersion_error {line : Nat} {tokens : List Token} {error : Located Error}
    (refused : readVersion line tokens = .error error) : error.line = line := by
  unfold readVersion at refused
  repeat' split at refused
  all_goals cases refused
  all_goals rfl

end Requirement

/-- A line of a require section is refused where one of its tokens stands. -/
theorem RequireEntry.readNamed_error {line : Nat} {name : String} {tokens : List Token}
    {error : Located Requirement.Error} (refused : readNamed line name tokens = .error error) :
    error.Among line tokens := by
  have formats (name : String) (wrap : Format → RequireEntry)
      (refused : (Requirement.readFormat line tokens >>= fun read =>
        Requirement.finish name read.2 >>= fun _ => .ok (wrap read.1)) = .error error) :
      error.Among line tokens := by
    rcases bind_eq_error.mp refused with first | ⟨read, first, refused⟩
    · exact Or.inl (Requirement.readFormat_error first)
    · rcases bind_eq_error.mp refused with second | ⟨_, _, impossible⟩
      · exact (Requirement.finish_error second line).mono (Requirement.readFormat_suffix first)
      · cases impossible
  have finishes (entry : RequireEntry)
      (refused : (Requirement.finish name tokens >>= fun _ => .ok entry) = .error error) :
      error.Among line tokens := by
    rcases bind_eq_error.mp refused with first | ⟨_, _, impossible⟩
    · exact Requirement.finish_error first line
    · cases impossible
  unfold readNamed at refused
  split at refused
  · exact formats _ (fun format => .requirement (.framebuffer format)) refused
  · exact formats _ (fun format => .requirement (.depthStencil format)) refused
  · exact Or.inl (Requirement.readSize_error (map_eq_error.mp refused))
  · exact Or.inl (Requirement.readVersion_error (map_eq_error.mp refused))
  · split at refused
    · exact finishes _ refused
    · split at refused
      · exact finishes _ refused
      · obtain rfl := Except.error.inj refused
        exact Or.inl rfl

/-- The body of a require section is refused on one of its lines. -/
theorem Requirements.parse_error {text : String} {firstLine : Nat}
    {error : Located Requirement.Error} (refused : parse text firstLine = .error error) :
    OnLineOf text firstLine error.line := by
  obtain ⟨line, found, own⟩ := exists_of_mapM_eq_error (map_eq_error.mp refused)
  have among : error.Among line.line line.tokens := by
    unfold RequireEntry.readLine at own
    split at own
    · obtain rfl := Except.error.inj own
      exact Or.inl rfl
    · exact (RequireEntry.readNamed_error own).mono (List.suffix_cons _ _)
  exact among.onLineOf found

/-- The body of an index section is refused on one of its lines. -/
theorem Indices.parse_error {text : String} {firstLine : Nat} {error : Located Indices.Error}
    (refused : Indices.parse text firstLine = .error error) :
    OnLineOf text firstLine error.line := by
  obtain ⟨token, found, own⟩ := exists_of_mapM_eq_error refused
  obtain ⟨listed, inner⟩ := List.mem_filter.mp found
  have same : error.line = token.line := by
    unfold Indices.read at own
    cases cause : Indices.ofToken token with
    | ok value => simp [cause, Except.mapError] at own
    | error kind =>
      rw [cause] at own
      obtain rfl := Except.error.inj own
      rfl
  rw [same]
  exact onLineOf_of_mem_tokens listed (by simpa using inner)

namespace VertexTable

/-- A column is refused where its token stands. -/
theorem readColumns_error {start line : Nat} {tokens : List Token} {error : Located Error}
    (refused : readColumns start tokens = .error error) : error.Among line tokens := by
  induction tokens generalizing start with
  | nil => cases refused
  | cons token rest ih =>
    unfold readColumns at refused
    split at refused
    · obtain rfl := Except.error.inj refused
      exact Or.inr ⟨token, List.mem_cons_self, rfl⟩
    · exact (ih (map_eq_error.mp refused)).mono (List.suffix_cons _ _)

/-- A reading of tokens names the line of one of them, or the line on which the row starts, when
the tokens are refused; otherwise it leaves the tokens after some of them. -/
def Reads {α : Type} (line : Nat) (tokens : List Token) :
    Except (Located Error) (α × List Token) → Prop
  | .error error => error.Among line tokens
  | .ok (_, rest) => rest <:+ tokens

/-- Reading may go on with the tokens that are left. -/
theorem Reads.bind {α β : Type} {line : Nat} {tokens : List Token}
    {first : Except (Located Error) (α × List Token)} (own : Reads line tokens first)
    {next : α × List Token → Except (Located Error) (β × List Token)}
    (later : ∀ read, Reads line read.2 (next read)) : Reads line tokens (first >>= next) := by
  cases first with
  | error error => exact own
  | ok read =>
    have onward := later read
    change Reads line tokens (next read)
    cases result : next read with
    | error error =>
      rw [result] at onward
      exact Located.Among.mono onward own
    | ok rest =>
      rw [result] at onward
      exact onward.trans own

/-- A value is refused where its token stands. -/
theorem reads_readValue (line : Nat) (base : BaseType) (bits : Nat) (allowHex : Bool)
    (tokens : List Token) : Reads line tokens (readValue line base bits allowHex tokens) := by
  cases tokens with
  | nil => exact Or.inl rfl
  | cons token rest =>
    have refused : Located.Among line (token :: rest) ⟨token.line, Error.invalidValue⟩ :=
      Or.inr ⟨token, List.mem_cons_self, rfl⟩
    rw [readValue]
    split
    · split
      · exact List.suffix_cons _ _
      · exact refused
    · exact List.suffix_cons _ _
    · exact refused

/-- The parts of a cell are refused where one of their tokens stands. -/
theorem reads_readParts (line : Nat) (parts : List Part) (tokens : List Token) :
    Reads line tokens (readParts line parts tokens) := by
  induction parts generalizing tokens with
  | nil => exact List.suffix_refl _
  | cons part parts ih =>
    refine (reads_readValue line _ _ _ tokens).bind fun value => ?_
    exact (ih value.2).bind fun values => List.suffix_refl _

/-- A cell is refused where one of its tokens stands. -/
theorem reads_readCell (line : Nat) (format : Format) (tokens : List Token) :
    Reads line tokens (readCell line format tokens) := by
  unfold readCell
  split
  · exact (reads_readValue line _ _ _ tokens).bind fun value => List.suffix_refl _
  · exact reads_readParts line _ tokens

/-- A row is refused where one of its tokens stands or on the line on which it starts. -/
theorem readCells_error {line : Nat} {columns : List Column} {tokens : List Token}
    {error : Located Error} (refused : readCells line columns tokens = .error error) :
    error.Among line tokens := by
  induction columns generalizing tokens with
  | nil =>
    cases tokens with
    | nil => cases refused
    | cons token rest =>
      obtain rfl := Except.error.inj refused
      exact Or.inl rfl
  | cons column columns ih =>
    have own := reads_readCell line column.format tokens
    rcases bind_eq_error.mp refused with first | ⟨cell, first, refused⟩
    · rw [first] at own
      exact own
    · rw [first] at own
      rcases bind_eq_error.mp refused with second | ⟨_, _, impossible⟩
      · exact (ih second).mono own
      · cases impossible

/-- The body of a vertex data section is refused on one of its lines. -/
theorem parse?_error {text : String} {firstLine : Nat} {error : Located Error}
    (refused : parse? text firstLine = .error error) : OnLineOf text firstLine error.line := by
  rw [parse?] at refused
  cases lines : TokenLine.ofText text firstLine with
  | nil =>
    rw [lines] at refused
    cases refused
  | cons header rows =>
    rw [lines] at refused
    rcases bind_eq_error.mp refused with first | ⟨columns, _, refused⟩
    · exact (readColumns_error first).onLineOf (lines ▸ List.mem_cons_self)
    · rcases bind_eq_error.mp refused with second | ⟨_, _, impossible⟩
      · obtain ⟨row, listed, own⟩ := exists_of_mapM_eq_error second
        exact (readCells_error own).onLineOf (lines ▸ List.mem_cons_of_mem _ listed)
      · cases impossible

end VertexTable

/-- Lines with hexadecimal words are refused on one of them. -/
theorem ShaderWords.readLines_error {line : Nat} {lines : List (List Char)}
    {error : Located String} (refused : readLines line lines = .error error) :
    ∃ index own, lines[index]? = some own ∧ error.line = line + index := by
  induction lines generalizing line with
  | nil => cases refused
  | cons first rest ih =>
    rcases bind_eq_error.mp refused with own | ⟨_, _, refused⟩
    · obtain ⟨word, _, cause⟩ := exists_of_mapM_eq_error own
      refine ⟨0, first, rfl, ?_⟩
      unfold ShaderWords.read at cause
      split at cause
      · cases cause
      · obtain rfl := Except.error.inj cause
        rfl
    · rcases bind_eq_error.mp refused with others | ⟨_, _, impossible⟩
      · obtain ⟨index, own, placed, number⟩ := ih others
        exact ⟨index + 1, own, placed, by omega⟩
      · cases impossible

/-- The first line of a test section that is refused is one of its logical lines. -/
theorem Test.exists_of_failure {pipeline : Pipeline} {lines : List TokenLine}
    {failure : Located Command.Error}
    (found : (readLines pipeline lines).failure = some failure) :
    ∃ line ∈ lines, failure.line = line.line := by
  induction lines generalizing pipeline with
  | nil => cases found
  | cons line rest ih =>
    rw [readLines_cons, TestReading.failure_andThen] at found
    rcases Option.or_eq_some_iff.mp found with own | ⟨_, later⟩
    · unfold LineResult.reading at own
      split at own
      · obtain rfl := Option.some.inj own
        exact ⟨line, List.mem_cons_self, rfl⟩
      · cases own
    · obtain ⟨other, listed, same⟩ := ih later
      exact ⟨other, List.mem_cons_of_mem _ listed, same⟩

namespace Node

/-- An error of a script names a line of a body. -/
def NamesLineOf (body : String) (firstLine : Nat) (error : ScriptError) : Prop :=
  ∃ number cause, error = .line ⟨number, cause⟩ ∧ OnLineOf body firstLine number

/-- An error of a script names a line of the body of a section. -/
def RefusedIn (part : Section) (error : ScriptError) : Prop :=
  part.kind ≠ .passthrough ∧ NamesLineOf part.body part.firstLine error

variable {body : String} {firstLine : Nat} {error : ScriptError}

/-- A located error on a line of a body names that line. -/
theorem namesLineOf_ofLocated {α : Type} {cause : Located α} (wrap : α → LineError)
    (placed : OnLineOf body firstLine cause.line) :
    NamesLineOf body firstLine (.ofLocated wrap cause) :=
  ⟨cause.line, wrap cause.cause, rfl, placed⟩

/-- A require section is refused on a line of its body. -/
theorem readRequire_error (refused : readRequire body firstLine = .error error) :
    NamesLineOf body firstLine error := by
  unfold readRequire at refused
  split at refused
  · rename_i cause own
    obtain rfl := Except.error.inj refused
    exact namesLineOf_ofLocated _ (Requirements.parse_error own)
  · cases refused

/-- An index section is refused on a line of its body. -/
theorem readIndices_error (refused : readIndices body firstLine = .error error) :
    NamesLineOf body firstLine error := by
  unfold readIndices at refused
  split at refused
  · rename_i cause own
    obtain rfl := Except.error.inj refused
    exact namesLineOf_ofLocated _ (Indices.parse_error own)
  · cases refused

/-- A vertex data section is refused on a line of its body. -/
theorem readVertexData_error (refused : readVertexData body firstLine = .error error) :
    NamesLineOf body firstLine error := by
  unfold readVertexData at refused
  split at refused
  · rename_i cause own
    obtain rfl := Except.error.inj refused
    exact namesLineOf_ofLocated _ (VertexTable.parse?_error own)
  · cases refused

/-- The words of a shader are refused on a line of the body. -/
theorem readSource_error {format : ShaderFormat}
    (refused : readSource format body firstLine = .error error) :
    NamesLineOf body firstLine error := by
  unfold readSource at refused
  split at refused
  · cases refused
  · cases refused
  · split at refused
    · rename_i cause found
      obtain rfl := Except.error.inj refused
      exact namesLineOf_ofLocated _ (ShaderWords.readLines_error found)
    · cases refused

/-- A shader section is refused on a line of its body. -/
theorem readShader_error {stage : Stage} {format : ShaderFormat}
    (refused : (readShader stage format body firstLine).result = .error error) :
    NamesLineOf body firstLine error := by
  unfold readShader at refused
  split at refused
  · rename_i cause own
    obtain rfl := Except.error.inj refused
    exact readSource_error own
  · cases refused

/-- A test section is refused on a line of its body. -/
theorem readTest_error (refused : (readTest body firstLine).result = .error error) :
    NamesLineOf body firstLine error := by
  unfold readTest at refused
  simp only at refused
  split at refused
  · rename_i failure found
    obtain rfl := Except.error.inj refused
    obtain ⟨line, listed, same⟩ := Test.exists_of_failure found
    have placed := onLineOf_of_mem_ofText listed List.mem_cons_self
    exact namesLineOf_ofLocated _ (same ▸ placed)
  · cases refused

/-- A section that is refused is refused on a line of its body. -/
theorem ofSection_error {part : Section} (refused : (ofSection part).result = .error error) :
    RefusedIn part error := by
  change (readBody part).result = .error error at refused
  unfold readBody at refused
  refine ⟨fun kind => by simp [kind] at refused, ?_⟩
  split at refused
  · cases refused
  · exact readRequire_error refused
  · exact readShader_error refused
  · cases refused
  · exact readVertexData_error refused
  · exact readIndices_error refused
  · exact readTest_error refused

end Node

end GpuScript
