import GpuScript.Proofs.Command.BitList
import GpuScript.Proofs.Test.Settings
import GpuScript.Proofs.Token.Layout

/-!
# Lines with lists of names

A `cullMode` or `colorWriteMask` line replaces its property by the union of what its names stand
for. Names can be joined by bars within a word, by words that are nothing but bars, and by anything
that separates words (`TokenLine.mentions_of_isLayout`). Lines that mention the same names are read
alike, in any pipeline state (`Test.bitLists_are_sets`).
-/

namespace GpuScript

open Command

/-- A word ends no line. -/
theorem Lexeme.isEnd_kind (lexeme : Lexeme) (word : lexeme.isWord = true) :
    lexeme.kind.isEnd = false := by
  have mark := lexeme.isMark_kind word
  revert mark
  cases lexeme.kind <;> simp [TokenKind.isMark, TokenKind.isEnd]

namespace TokenLine

/-- A name stands between the bars of an operand of the line. -/
def Mentions (line : TokenLine) (name : String) : Prop :=
  ∃ token ∈ line.rest, Names token.text name

/-- The names of a line are those of its operands. -/
theorem mentions_iff_mem {line : TokenLine} {name : String} :
    line.Mentions name ↔ name ∈ line.rest.flatMap bitNames := by
  simp only [Mentions, List.mem_flatMap, mem_bitNames_iff]

section Layout

variable {first : Lexeme} {words ending : List Lexeme}

/-- Words are the tokens of one logical line, whether a line end follows them or not. -/
theorem ofTokens_words (words_only : ∀ word ∈ first :: words, word.isWord = true)
    (ended : ending = [] ∨ ending = [.newline]) :
    ofTokens ((first :: words ++ ending).map Lexeme.token ++ [⟨.endOfData, "", 0⟩]) =
      [⟨first.token, words.map Lexeme.token⟩] := by
  have plain : ∀ token ∈ (first :: words).map Lexeme.token, token.kind.isEnd = false := by
    intro token listed
    obtain ⟨word, among, rfl⟩ := List.mem_map.mp listed
    exact word.isEnd_kind (words_only word among)
  have alone : ofTokens ((first :: words).map Lexeme.token) =
      [⟨first.token, words.map Lexeme.token⟩] := by
    rw [ofTokens, pieces_of_plain plain]
    rfl
  rw [ofTokens_append_singleton rfl, List.map_append]
  rcases ended with rfl | rfl
  · rw [List.map_nil, List.append_nil]
    exact alone
  · rw [List.map_singleton, ofTokens_append_singleton rfl]
    exact alone

/-- However words are laid out, at the end of the text or before a line end, they are one logical
line, which mentions the names in the words behind the first one. -/
theorem mentions_of_isLayout (words_only : ∀ word ∈ first :: words, word.isWord = true)
    (ended : ending = [] ∨ ending = [.newline]) {text : String}
    (layout : IsLayout false (first :: words ++ ending) text.toList) (firstLine : Nat) :
    ∃ line, ofText text firstLine = [line] ∧ line.first.unplaced = first.token ∧
      ∀ name, line.Mentions name ↔ ∃ word ∈ words, Names word.text name := by
  have unplaced_ofText : (ofText text firstLine).map unplaced =
      [⟨first.token, words.map Lexeme.token⟩] := by
    rw [ofText, ← ofTokens_map_unplaced, Cursor.ofText,
      Cursor.map_unplaced_tokens_of_isLayout layout, ofTokens_words words_only ended]
  obtain ⟨line, single, own⟩ := List.map_eq_singleton_iff.mp unplaced_ofText
  have rest : line.rest.map Token.unplaced = words.map Lexeme.token := congrArg TokenLine.rest own
  refine ⟨line, single, congrArg TokenLine.first own, fun name => ?_⟩
  have texts : line.rest.map Token.text = words.map Lexeme.text := by
    have images := congrArg (List.map Token.text) rest
    rwa [List.map_map, List.map_map] at images
  -- Names are looked for in the texts of the operands only.
  have through (tokens : List Token) : (∃ token ∈ tokens, Names token.text name) ↔
      ∃ spelling ∈ tokens.map Token.text, Names spelling name := by
    simp only [List.mem_map, exists_exists_and_eq_and]
  rw [Mentions, through, texts]
  simp only [List.mem_map, exists_exists_and_eq_and]

end Layout

end TokenLine

namespace Test

open TokenLine

/-- The lines of a property are read as the union of what their names stand for. The elements of the
value are those of the names that the line mentions, the pipeline state before the line has no part
in it, and lines that mention the same names are read alike. -/
structure ReadsUnion {β : Type} (property : Property) (ofName? : String → Option property.Value)
    (holds : property.Value → β → Prop) : Prop where
  /-- The value of a line that is accepted is the union of its names. -/
  union : ∀ {line : TokenLine} {before : Pipeline} {operation : Option Operation},
    line.property? = some property → (readLine before line).operation = .ok operation →
      ∃ value, (∀ element, holds value element ↔ ∃ name, line.Mentions name ∧
          ∃ named, ofName? name = some named ∧ holds named element) ∧
        ∀ pipeline, readLine pipeline line = ⟨pipeline.set property value, .ok none⟩
  /-- Lines with the same names leave the same pipeline state. -/
  congr : ∀ {line other : TokenLine} {before otherBefore : Pipeline}
    {operation otherOperation : Option Operation},
    line.property? = some property → other.property? = some property →
    (readLine before line).operation = .ok operation →
    (readLine otherBefore other).operation = .ok otherOperation →
    (∀ name, line.Mentions name ↔ other.Mentions name) →
      ∀ pipeline, readLine pipeline line = readLine pipeline other

/-- A list that takes all operands of a line is what the line gives to its property. -/
theorem list_of_setting? {line : TokenLine} {property : Property}
    {list : List Token → Except Error property.Value} {value : property.Value}
    (whole : ∀ tokens, propertyValue property tokens = (list tokens).map fun value => (value, []))
    (given : line.setting? property = some value) : list line.rest = .ok value := by
  rw [setting?, whole] at given
  cases read : list line.rest with
  | error cause =>
    rw [read] at given
    cases given
  | ok other =>
    rw [read] at given
    exact congrArg Except.ok (Option.some.inj given)

/-- If all operands of a line are gathered from nothing by joining sets, the line is read as a
union. -/
theorem readsUnion_of_gatherTokens {β : Type} {property : Property}
    {list : List Token → Except Error property.Value} {ofName? : String → Option property.Value}
    {join : property.Value → property.Value → property.Value} {holds : property.Value → β → Prop}
    {notWord unknown : Error} {nothing : property.Value} (joins : Joins join holds)
    (empty : ∀ element, ¬ holds nothing element)
    (whole : ∀ tokens, propertyValue property tokens = (list tokens).map fun value => (value, []))
    (gathers : ∀ {tokens value}, list tokens = .ok value →
      gatherTokens ofName? join notWord unknown nothing tokens = .ok value) :
    ReadsUnion property ofName? holds := by
  have union {line : TokenLine} {before : Pipeline} {operation : Option Operation}
      (named : line.property? = some property)
      (accepted : (readLine before line).operation = .ok operation) :
      ∃ value, (∀ element, holds value element ↔ ∃ name, line.Mentions name ∧
          ∃ named, ofName? name = some named ∧ holds named element) ∧
        ∀ pipeline, readLine pipeline line = ⟨pipeline.set property value, .ok none⟩ := by
    obtain ⟨other, found, given⟩ := sets_of_readLine (by rw [named]; rfl) accepted
    obtain rfl := Option.some.inj (named.symm.trans found)
    obtain ⟨value, given⟩ := Option.isSome_iff_exists.mp given
    have gathered := gathers (list_of_setting? whole given)
    refine ⟨value, fun element => ?_, fun pipeline => readLine_of_setting named given pipeline⟩
    rw [joins.gatherTokens_iff gathered element, or_iff_right (empty element)]
    constructor
    · rintro ⟨token, listed, name, stands, known⟩
      exact ⟨name, ⟨token, listed, stands⟩, known⟩
    · rintro ⟨name, ⟨token, listed, stands⟩, known⟩
      exact ⟨token, listed, name, stands, known⟩
  refine ⟨union, fun named other_named accepted other_accepted same pipeline => ?_⟩
  obtain ⟨value, elements, read⟩ := union named accepted
  obtain ⟨other, other_elements, other_read⟩ := union other_named other_accepted
  have equal : value = other := by
    apply joins.ext
    intro element
    rw [elements, other_elements]
    simp only [same]
  rw [read, other_read, equal]

/-- Lists of cull modes are read as unions of sets of faces. -/
theorem readsUnion_cullMode : ReadsUnion .cullMode Named.ofName? CullMode.Discards := by
  have empty : ∀ face, ¬ CullMode.none.Discards face := by
    intro face
    cases face <;> decide
  exact readsUnion_of_gatherTokens CullMode.joins_union empty (fun _ => rfl)
    gatherTokens_of_cullModeValue

/-- Lists of colour components are read as unions of sets of bits. -/
theorem readsUnion_colorWriteMask :
    ReadsUnion .colorWriteMask ColorMask.ofName? ColorMask.Has := by
  have empty : ∀ bit, ¬ ColorMask.Has 0 bit := by
    intro bit
    simp [ColorMask.Has]
  exact readsUnion_of_gatherTokens ColorMask.joins_or empty (fun _ => rfl)
    gatherTokens_of_colorMaskValue

/-- A line with a list of cull modes, or of colour components, that is accepted replaces the
property by the union of what its names stand for. Lines that mention the same names do the same,
whatever the pipeline state before them. The names of a line are those in its words, however these
are laid out. -/
theorem bitLists_are_sets :
    ReadsUnion .cullMode Named.ofName? CullMode.Discards ∧
    ReadsUnion .colorWriteMask ColorMask.ofName? ColorMask.Has ∧
    ∀ (first : Lexeme) (words ending : List Lexeme) (text : String) (firstLine : Nat),
      (∀ word ∈ first :: words, word.isWord = true) → (ending = [] ∨ ending = [.newline]) →
      IsLayout false (first :: words ++ ending) text.toList →
        ∃ line, ofText text firstLine = [line] ∧ line.first.unplaced = first.token ∧
          ∀ name, line.Mentions name ↔ ∃ word ∈ words, Names word.text name :=
  ⟨readsUnion_cullMode, readsUnion_colorWriteMask,
    fun _ _ _ _ firstLine words_only ended layout =>
      mentions_of_isLayout words_only ended layout firstLine⟩

/-- Both faces in one word. -/
def joinedModes : String :=
  "cullMode VK_CULL_MODE_FRONT_BIT|VK_CULL_MODE_BACK_BIT\n"

/-- The name of the property as a word. -/
def cullModeWord : Lexeme :=
  .word "cullMode" (by decide) (by decide)

/-- The words of a list that names both faces, one of them twice. -/
def repeatedWords : List Lexeme :=
  [.word "|VK_CULL_MODE_BACK_BIT" (by decide) (by decide), .word "||" (by decide) (by decide),
    .word "VK_CULL_MODE_FRONT_BIT" (by decide) (by decide),
    .word "VK_CULL_MODE_BACK_BIT|" (by decide) (by decide)]

/-- The words with commas, blanks, a continuation and a comment between them. -/
def repeatedModes : String :=
  "cullMode |VK_CULL_MODE_BACK_BIT,|| ,VK_CULL_MODE_FRONT_BIT \\\n VK_CULL_MODE_BACK_BIT|# both\n"

/-- Both lines discard both faces, in any pipeline state. -/
theorem bitLists_are_sets_repeatedModes :
    IsLayout false (cullModeWord :: repeatedWords ++ [.newline]) repeatedModes.toList ∧
    ∃ line other, ofText joinedModes 1 = [line] ∧ ofText repeatedModes 7 = [other] ∧
      (∀ name, line.Mentions name ↔ other.Mentions name) ∧
      ∀ pipeline, readLine pipeline line = readLine pipeline other ∧
        readLine pipeline other = ⟨pipeline.set .cullMode .frontAndBack, .ok none⟩ := by
  have layout : IsLayout false (cullModeWord :: repeatedWords ++ [.newline])
      repeatedModes.toList := by
    have read : (Cursor.tokens ⟨repeatedModes.toList, 7⟩).map Token.unplaced =
        (cullModeWord :: repeatedWords ++ [Lexeme.newline]).map Lexeme.token ++
          [⟨.endOfData, "", 0⟩] := by decide +kernel
    exact Cursor.isLayout_of_map_unplaced_tokens read nofun
  obtain ⟨cull, -, written⟩ := bitLists_are_sets
  have words_only : ∀ word ∈ cullModeWord :: repeatedWords, word.isWord = true := by
    decide +kernel
  obtain ⟨other, single, -, -⟩ :=
    written cullModeWord repeatedWords [.newline] repeatedModes 7 words_only (.inr rfl) layout
  obtain ⟨line, alone⟩ : ∃ line, ofText joinedModes 1 = [line] :=
    List.length_eq_one_iff.mp (by decide +kernel)
  have facts : ∀ line ∈ ofText joinedModes 1, ∀ other ∈ ofText repeatedModes 7,
      (line.property? = some .cullMode ∧ other.property? = some .cullMode) ∧
      ((readLine .default line).operation = .ok none ∧
        (readLine .default other).operation = .ok none) ∧
      (readLine .default other).pipeline.cullMode = .frontAndBack ∧
      line.rest.flatMap bitNames ⊆ other.rest.flatMap bitNames ∧
      other.rest.flatMap bitNames ⊆ line.rest.flatMap bitNames := by decide +kernel
  obtain ⟨⟨named, other_named⟩, ⟨accepted, other_accepted⟩, both, left, right⟩ :=
    facts line (by simp [alone]) other (by simp [single])
  have same : ∀ name, line.Mentions name ↔ other.Mentions name := by
    intro name
    rw [mentions_iff_mem, mentions_iff_mem]
    exact ⟨fun listed => left listed, fun listed => right listed⟩
  obtain ⟨mode, -, read⟩ := cull.union other_named other_accepted
  obtain rfl : mode = .frontAndBack := by
    rw [read] at both
    exact both
  refine ⟨layout, line, other, alone, single, same, fun pipeline => ⟨?_, read pipeline⟩⟩
  exact cull.congr named other_named accepted other_accepted same pipeline

end Test

end GpuScript
