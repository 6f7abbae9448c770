import GpuScript.Proofs.Test.BitLists

/-!
# Lists that name nothing

A `cullMode` or `colorWriteMask` line is accepted if it has an operand, all its operands are words,
and every name between their bars is known (`Test.ReadsList`). That leaves lines whose operands are
nothing but bars: they have operands and no names, so they are not refused like lines without an
operand, and they empty the property. No other accepted line names nothing, and a colour write mask
is zero for no other reason (`Test.nameless_iff_bars`).
-/

namespace GpuScript

open Text Command

/-- Pieces, one behind the other, are a list without its separators. -/
theorem Text.flatten_pieces {α : Type} (separates : α → Bool) (elements : List α) :
    (pieces separates elements).flatten = elements.filter fun element => !separates element := by
  induction elements with
  | nil => rfl
  | cons first rest ih =>
    obtain ⟨piece, others, inner⟩ := List.exists_cons_of_ne_nil (pieces_ne_nil separates rest)
    rw [inner] at ih
    cases split : separates first with
    | true => simp [pieces, inner, split, ← ih]
    | false => simp [pieces, inner, split, ← ih]

namespace Command

/-- A text is nothing but bars. -/
def IsBars (text : String) : Prop :=
  ∀ character ∈ text.toList, character = '|'

/-- A token has no names exactly if its text is nothing but bars. -/
theorem bitNames_eq_nil_iff {token : Token} : bitNames token = [] ↔ IsBars token.text := by
  have parts : bitNames token = [] ↔ ∀ piece ∈ pieces (· == '|') token.text.toList, piece = [] := by
    simp [bitNames]
  rw [parts, ← List.flatten_eq_nil_iff, flatten_pieces, List.filter_eq_nil_iff]
  simp [IsBars]

/-- Tokens list known names: each is a word, and every name between its bars is known. -/
def Lists {α : Type} (ofName? : String → Option α) (tokens : List Token) : Prop :=
  ∀ token ∈ tokens, token.kind = .word ∧ ∀ name, Names token.text name → (ofName? name).isSome

section Gather

variable {α : Type} {ofName? : String → Option α} {join : α → α → α} {notWord unknown : Error}

/-- Names are gathered if all of them are known. -/
theorem exists_gatherNames_iff {value : α} {names : List String} :
    (∃ result, gatherNames ofName? join unknown value names = .ok result) ↔
      ∀ name ∈ names, (ofName? name).isSome := by
  induction names generalizing value with
  | nil => simp [gatherNames]
  | cons name names ih =>
    rw [gatherNames, List.forall_mem_cons]
    cases known : ofName? name with
    | none => simp
    | some other => simpa using ih

/-- Tokens are gathered if they list known names. -/
theorem exists_gatherTokens_iff {value : α} {tokens : List Token} :
    (∃ result, gatherTokens ofName? join notWord unknown value tokens = .ok result) ↔
      Lists ofName? tokens := by
  induction tokens generalizing value with
  | nil => simp [gatherTokens, Lists]
  | cons token rest ih =>
    have cut : Lists ofName? (token :: rest) ↔ (token.kind = .word ∧
        ∀ name, Names token.text name → (ofName? name).isSome) ∧ Lists ofName? rest :=
      List.forall_mem_cons
    have names : (∃ result, gatherNames ofName? join unknown value (bitNames token) = .ok result) ↔
        ∀ name, Names token.text name → (ofName? name).isSome := by
      simp only [exists_gatherNames_iff, mem_bitNames_iff]
    rw [gatherTokens, cut, ← names]
    cases word : token.word? with
    | none =>
      have other : token.kind ≠ .word := by
        intro same
        rw [Token.word?, same] at word
        cases word
      simp [other]
    | some text =>
      have own : token.kind = .word := (Token.word?_eq_some_iff.mp word).1
      cases gatherNames ofName? join unknown value (bitNames token) with
      | error cause => simp
      | ok middle => simpa [own] using ih

/-- Words of nothing but bars add nothing. -/
theorem gatherTokens_of_bars {value : α} {tokens : List Token}
    (bars : ∀ token ∈ tokens, token.kind = .word ∧ IsBars token.text) :
    gatherTokens ofName? join notWord unknown value tokens = .ok value := by
  induction tokens with
  | nil => rfl
  | cons token rest ih =>
    obtain ⟨⟨word, own⟩, others⟩ := List.forall_mem_cons.mp bars
    have text : token.word? = some token.text := Token.word?_eq_some_iff.mpr ⟨word, rfl⟩
    rw [gatherTokens, text, bitNames_eq_nil_iff.mpr own]
    exact ih others

end Gather

end Command

namespace Test

open TokenLine

/-- A line is read as a list of names for a property: it is accepted if it has an operand and its
operands list known names, and refused for that if it has no operand. Operands of bars list no names
and empty the property. -/
structure ReadsList (property : Property) (ofName? : String → Option property.Value)
    (missing : Error) (nothing : property.Value) (line : TokenLine) (pipeline : Pipeline) :
    Prop where
  /-- The line is accepted if it has a list of known names. -/
  accepted_iff : (∃ operation, (readLine pipeline line).operation = .ok operation) ↔
    line.rest ≠ [] ∧ Lists ofName? line.rest
  /-- Without an operand the line is refused for that. -/
  refused : line.rest = [] → readLine pipeline line = ⟨pipeline, .error missing⟩
  /-- With bars for its operands the line empties the property. -/
  empties : line.rest ≠ [] → (∀ token ∈ line.rest, token.kind = .word ∧ IsBars token.text) →
    readLine pipeline line = ⟨pipeline.set property nothing, .ok none⟩

/-- A line names nothing exactly if its operands are nothing but bars. -/
theorem forall_not_mentions_iff {line : TokenLine} :
    (∀ name, ¬ line.Mentions name) ↔ ∀ token ∈ line.rest, IsBars token.text := by
  simp only [mentions_iff_mem, ← List.eq_nil_iff_forall_not_mem, List.flatMap_eq_nil_iff,
    bitNames_eq_nil_iff]

/-- If the operands of a property are gathered from nothing on, its lines are read as lists of
names. -/
theorem readsList_of_gatherTokens {property : Property}
    {list : List Token → Except Error property.Value} {ofName? : String → Option property.Value}
    {join : property.Value → property.Value → property.Value} {notWord unknown missing : Error}
    {nothing : property.Value} {line : TokenLine} {pipeline : Pipeline}
    (whole : ∀ tokens, propertyValue property tokens = (list tokens).map fun value => (value, []))
    (lacks : list [] = .error missing)
    (gathers : ∀ token rest, list (token :: rest) =
      gatherTokens ofName? join notWord unknown nothing (token :: rest))
    (named : line.property? = some property) :
    ReadsList property ofName? missing nothing line pipeline := by
  have read : readLine pipeline line = match list line.rest with
      | .error cause => ⟨pipeline, .error cause⟩
      | .ok value => ⟨pipeline.set property value, .ok none⟩ := by
    rw [readLine_of_property named, readProperty, whole]
    cases list line.rest <;> rfl
  refine ⟨?_, fun none_ => ?_, fun some_ bars => ?_⟩
  · have result : (∃ operation, (readLine pipeline line).operation = .ok operation) ↔
        ∃ value, list line.rest = .ok value := by
      rw [read]
      cases list line.rest <;> simp
    rw [result]
    cases line.rest with
    | nil => simp [lacks]
    | cons token rest => simp [gathers, exists_gatherTokens_iff]
  · rw [read, none_, lacks]
  · obtain ⟨token, rest, split⟩ := List.exists_cons_of_ne_nil some_
    rw [split] at bars
    rw [read, split, gathers, gatherTokens_of_bars bars]

/-- Cull modes are read from lists of names. -/
theorem readsList_cullMode {line : TokenLine} {pipeline : Pipeline}
    (named : line.property? = some .cullMode) :
    ReadsList .cullMode Named.ofName? (.missingPropertyValue .cullMode) .none line pipeline :=
  readsList_of_gatherTokens (fun _ => rfl) rfl
    (fun token rest => cullModeTokens_eq_gatherTokens .none (token :: rest)) named

/-- Colour write masks are read from lists of names. -/
theorem readsList_colorWriteMask {line : TokenLine} {pipeline : Pipeline}
    (named : line.property? = some .colorWriteMask) :
    ReadsList .colorWriteMask ColorMask.ofName? (.missingPropertyParameter .colorWriteMask) 0
      line pipeline :=
  readsList_of_gatherTokens (fun _ => rfl) rfl
    (fun token rest => colorMaskTokens_eq_gatherTokens 0 (token :: rest)) named

/-- Every component of a colour has a bit. -/
theorem exists_has_of_ofName? {name : String} {bit : ColorMask}
    (known : ColorMask.ofName? name = some bit) : ∃ number, bit.Has number := by
  obtain ⟨entry, found, rfl⟩ := Option.map_eq_some_iff.mp known
  have bits : ∀ entry ∈ ColorMask.bits, ∃ number < 8, entry.2.toNat.testBit number = true := by
    decide
  obtain ⟨number, -, own⟩ := bits entry (List.mem_of_find?_eq_some found)
  exact ⟨number, own⟩

/-- The mask of a line is zero exactly if its operands are nothing but bars. -/
theorem colorWriteMask_eq_zero_iff {line : TokenLine} {pipeline : Pipeline}
    {operation : Option Operation} (named : line.property? = some .colorWriteMask)
    (accepted : (readLine pipeline line).operation = .ok operation) :
    (readLine pipeline line).pipeline.colorWriteMask = 0 ↔
      ∀ token ∈ line.rest, IsBars token.text := by
  obtain ⟨mask, bits, read⟩ := readsUnion_colorWriteMask.union named accepted
  obtain ⟨-, lists⟩ := (readsList_colorWriteMask named).accepted_iff.mp ⟨operation, accepted⟩
  have own : (readLine pipeline line).pipeline.colorWriteMask = mask := by
    rw [read]
    rfl
  rw [own, ← forall_not_mentions_iff]
  constructor
  · rintro rfl name ⟨token, listed, stands⟩
    obtain ⟨bit, known⟩ := Option.isSome_iff_exists.mp ((lists token listed).2 name stands)
    obtain ⟨number, has⟩ := exists_has_of_ofName? known
    have set : ColorMask.Has 0 number :=
      (bits number).mpr ⟨name, ⟨token, listed, stands⟩, bit, known, has⟩
    simp [ColorMask.Has] at set
  · intro nameless
    apply ColorMask.joins_or.ext
    intro number
    rw [bits number]
    apply iff_of_false
    · rintro ⟨name, mentions, -⟩
      exact nameless name mentions
    · simp [ColorMask.Has]

/-- A list of cull modes or of colour components is accepted if it has an operand and every name in
its operands is known; without an operand it is refused. So a line that is accepted names something
unless all its operands are nothing but bars. Such a line is accepted nevertheless, and empties its
property: this is the only way in which a line makes the colour write mask zero. -/
theorem nameless_iff_bars (line : TokenLine) (pipeline : Pipeline) :
    (line.property? = some .cullMode →
      ReadsList .cullMode Named.ofName? (.missingPropertyValue .cullMode) .none line pipeline) ∧
    (line.property? = some .colorWriteMask →
      ReadsList .colorWriteMask ColorMask.ofName? (.missingPropertyParameter .colorWriteMask) 0
        line pipeline ∧
      ∀ operation, (readLine pipeline line).operation = .ok operation →
        ((readLine pipeline line).pipeline.colorWriteMask = 0 ↔
          ∀ token ∈ line.rest, IsBars token.text)) ∧
    ((∀ name, ¬ line.Mentions name) ↔ ∀ token ∈ line.rest, IsBars token.text) :=
  ⟨readsList_cullMode,
    fun named => ⟨readsList_colorWriteMask named,
      fun _ accepted => colorWriteMask_eq_zero_iff named accepted⟩,
    forall_not_mentions_iff⟩

/-- The name of a mask with bars behind it. -/
def barLine : TokenLine :=
  ⟨⟨.word, "colorWriteMask", 1⟩, [⟨.word, "|", 1⟩, ⟨.word, "||", 1⟩]⟩

/-- Bars are accepted for a mask, and make it zero; without them the line is refused. -/
theorem nameless_iff_bars_barLine :
    TokenLine.ofText "colorWriteMask | ||\n" 1 = [barLine] ∧
    barLine.property? = some .colorWriteMask ∧
    readLine .default barLine = ⟨{ Pipeline.default with colorWriteMask := 0 }, .ok none⟩ ∧
    readLine .default ⟨barLine.first, []⟩ =
      ⟨.default, .error (.missingPropertyParameter .colorWriteMask)⟩ := by
  have line : TokenLine.ofText "colorWriteMask | ||\n" 1 = [barLine] := by decide +kernel
  have named : barLine.property? = some .colorWriteMask := by decide +kernel
  have bars : ∀ token ∈ barLine.rest, token.kind = .word ∧ IsBars token.text := by
    simp [barLine, IsBars]
  obtain ⟨-, mask, -⟩ := nameless_iff_bars barLine .default
  obtain ⟨-, without, -⟩ := nameless_iff_bars ⟨barLine.first, []⟩ .default
  have read : readLine .default barLine =
      ⟨Pipeline.default.set .colorWriteMask 0, .ok none⟩ :=
    (mask named).1.empties (by simp [barLine]) bars
  exact ⟨line, named, read, (without named).1.refused rfl⟩

end Test

end GpuScript
