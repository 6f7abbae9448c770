import GpuScript.Proofs.Token.Partition
import GpuScript.Proofs.Token.Unplaced
import GpuScript.Proofs.Token.Words

/-!
# Layouts of a text

A list of lexemes can be laid out in many ways: with blanks, commas, continuations and comments
between them (`IsLayout`). Whatever the layout, the tokens are the lexemes in their order
(`Cursor.tokens_layout`), so that what stands between them can be exchanged freely.

The induction is on the layout. A gap is passed over whole (`Cursor.skipGap_of_isGap`), and a word
is cut off whole, because no word goes on where a layout goes on behind a word
(`IsLayout.splitWord_eq_nil`).
-/

namespace GpuScript

open Text

/-- What a text is made up of, apart from the gaps. -/
inductive Lexeme where
  /-- A line end. -/
  | newline
  /-- An opening round bracket. -/
  | openBracket
  /-- A closing round bracket. -/
  | closeBracket
  /-- A percent sign. -/
  | percent
  /-- A word, which holds no backslash. -/
  | word (text : String) (clean : IsWord text) (whole : '\\' ∉ text.toList)

namespace Lexeme

/-- How the lexeme is written. -/
def text : Lexeme → String
  | newline => "\n"
  | openBracket => "("
  | closeBracket => ")"
  | percent => "%"
  | word text _ _ => text

/-- What the lexeme is read as. -/
def kind : Lexeme → TokenKind
  | newline => .endOfLine
  | openBracket => .openBracket
  | closeBracket => .closeBracket
  | percent => .percent
  | word text _ _ => .ofWord text.toList

/-- The token of the lexeme, without a line number. -/
def token (lexeme : Lexeme) : Token :=
  ⟨lexeme.kind, lexeme.text, 0⟩

/-- The lexeme is a word. -/
def isWord : Lexeme → Bool
  | word _ _ _ => true
  | _ => false

end Lexeme

/-- A text is a layout of lexemes: it is made up of them in their order, with a gap before each of
them and after the last. A gap holds a comment only if a line end or the end of the text follows,
and it is not empty between two words; the flag tells that a word stands in front of the text. -/
inductive IsLayout : Bool → List Lexeme → List Char → Prop where
  /-- A gap at the end of the text. -/
  | done {afterWord : Bool} {gap : List Char} (skipped : IsGap [] gap) :
    IsLayout afterWord [] gap
  /-- A gap, a lexeme and what follows it. -/
  | lexeme {afterWord : Bool} {first : Lexeme} {lexemes : List Lexeme}
    {gap following : List Char} (skipped : IsGap (first.text.toList ++ following) gap)
    (apart : afterWord = true → first.isWord = true → gap ≠ [])
    (later : IsLayout first.isWord lexemes following) :
    IsLayout afterWord (first :: lexemes) (gap ++ (first.text.toList ++ following))

/-- Lexemes with a space before each of them. -/
def spaced (lexemes : List Lexeme) : List Char :=
  lexemes.flatMap fun lexeme => ' ' :: lexeme.text.toList

/-- Spaces lay out every list of lexemes. -/
theorem isLayout_spaced (afterWord : Bool) (lexemes : List Lexeme) :
    IsLayout afterWord lexemes (spaced lexemes) := by
  induction lexemes generalizing afterWord with
  | nil => exact .done .empty
  | cons first rest ih =>
    have space : IsGap (first.text.toList ++ spaced rest) [' '] :=
      .blank (by decide) (.inl (by decide)) .empty
    exact .lexeme space (fun _ _ => List.cons_ne_nil _ _) (ih first.isWord)

/-- Characters that separate nothing and are no backslash go on with the word behind them. -/
theorem splitWord_append_of_plain {word : List Char}
    (plain : ∀ character ∈ word, isSeparator character = false) (whole : '\\' ∉ word)
    (rest : List Char) :
    splitWord (word ++ rest) = (word ++ (splitWord rest).1, (splitWord rest).2) := by
  induction word with
  | nil => rfl
  | cons first others ih =>
    obtain ⟨own, inner⟩ := List.forall_mem_cons.mp plain
    obtain ⟨other, among⟩ := not_or.mp (List.mem_cons.not.mp whole)
    have opens := startsContinuation_cons (Ne.symm other) (others ++ rest)
    rw [List.cons_append, splitWord, if_neg (by simp [own, opens]), ih inner among]
    rfl

/-- No word begins with a character that separates. -/
theorem splitWord_of_isSeparator {character : Char} (separates : isSeparator character = true)
    (rest : List Char) : splitWord (character :: rest) = ([], character :: rest) := by
  rw [splitWord, if_pos (by simp [separates])]

/-- A word takes all that belongs to it. -/
theorem splitWord_splitWord (text : List Char) : (splitWord (splitWord text).2).1 = [] := by
  fun_induction splitWord text with
  | case1 => rfl
  | case2 character rest ended => rw [splitWord, if_pos ended]
  | case3 character rest _ word others equation ih => rwa [equation] at ih

/-- A lexeme that is a word is read as one. -/
theorem Lexeme.isMark_kind (lexeme : Lexeme) (word : lexeme.isWord = true) :
    lexeme.kind.isMark = false := by
  cases lexeme with
  | word text clean whole =>
    rcases TokenKind.ofWord_cases text.toList with read | ⟨_, read⟩ | ⟨_, read⟩ | ⟨_, read⟩ <;>
      rw [kind, read] <;> rfl
  | _ => cases word

/-- A word begins where a lexeme that is a word stands. -/
theorem Lexeme.splitWord_ne_nil (lexeme : Lexeme) (word : lexeme.isWord = true)
    (rest : List Char) : (splitWord (lexeme.text.toList ++ rest)).1 ≠ [] := by
  cases lexeme with
  | word text clean whole =>
    rw [Lexeme.text, splitWord_append_of_plain clean.plain whole]
    exact List.append_ne_nil_of_left_ne_nil clean.nonempty _
  | _ => cases word

/-- No word begins with a gap. -/
theorem IsGap.splitWord_eq_nil {following gap : List Char} (skipped : IsGap following gap)
    (nonempty : gap ≠ []) (rest : List Char) : (splitWord (gap ++ rest)).1 = [] := by
  cases skipped with
  | empty => contradiction
  | @blank character gap inner skipped others =>
    have separates : isSeparator character = true := by
      rcases skipped with blank | rfl
      · simp only [isSeparator, blank, Bool.true_or]
      · decide
    rw [List.cons_append, splitWord_of_isSeparator separates]
  | continuation others => rfl
  | returnContinuation others => rfl
  | comment inner ended => rfl

/-- No word begins where a layout goes on behind a word. -/
theorem IsLayout.splitWord_eq_nil {lexemes : List Lexeme} {text : List Char}
    (layout : IsLayout true lexemes text) : (splitWord text).1 = [] := by
  cases layout with
  | done skipped =>
    by_cases empty : text = []
    · rw [empty]
      rfl
    · have own := skipped.splitWord_eq_nil empty []
      rwa [List.append_nil] at own
  | @lexeme _ first _ gap following skipped apart later =>
    by_cases empty : gap = []
    · subst empty
      cases first with
      | word _ _ _ => exact absurd rfl (apart rfl rfl)
      | _ => rfl
    · exact skipped.splitWord_eq_nil empty _

namespace Cursor

/-- A gap is passed over, with the line ends in it. -/
theorem skipGap_of_isGap {following gap : List Char} (skipped : IsGap following gap) (line : Nat) :
    skipGap (gap ++ following) line = skipGap following (line + gap.count '\n') := by
  induction skipped generalizing line with
  | empty => rfl
  | @blank character gap inner skipped others ih =>
    have comment : character ≠ '#' := by
      rintro rfl
      exact absurd skipped (by decide)
    have slash : character ≠ '\\' := by
      rintro rfl
      exact absurd skipped (by decide)
    rw [List.cons_append, skipGap_cons (startsContinuation_cons slash _), if_neg comment,
      if_pos ⟨inner, skipped⟩, ih, List.count_cons_of_ne inner]
  | @continuation gap others ih =>
    have lines : ('\\' :: '\n' :: gap).count '\n' = gap.count '\n' + 1 := by simp
    calc
      skipGap ('\\' :: '\n' :: (gap ++ following)) line
      _ = skipGap (gap ++ following) (line + 1) := by rw [skipGap]
      _ = skipGap following (line + ('\\' :: '\n' :: gap).count '\n') := by
        rw [ih, lines, Nat.add_assoc, Nat.add_comm 1]
  | @returnContinuation gap others ih =>
    have lines : ('\\' :: '\r' :: '\n' :: gap).count '\n' = gap.count '\n' + 1 := by simp
    calc
      skipGap ('\\' :: '\r' :: '\n' :: (gap ++ following)) line
      _ = skipGap (gap ++ following) (line + 1) := by rw [skipGap]
      _ = skipGap following (line + ('\\' :: '\r' :: '\n' :: gap).count '\n') := by
        rw [ih, lines, Nat.add_assoc, Nat.add_comm 1]
  | @comment text inner ended =>
    have lines : ('#' :: text).count '\n' = 0 := by
      simpa [List.count_eq_zero] using inner
    have passed : (text ++ following).dropWhile (· ≠ '\n') = following.dropWhile (· ≠ '\n') := by
      refine List.dropWhile_append_of_pos fun character listed => ?_
      exact decide_eq_true fun same => inner (same ▸ listed)
    rw [List.cons_append, skipGap_cons (startsContinuation_cons (by decide) _), if_pos rfl, passed,
      lines, Nat.add_zero]
    cases following with
    | nil => rfl
    | cons character rest =>
      obtain rfl := ended character rfl
      rfl

/-- A lexeme is cut off whole, a word where no other one goes on behind it. -/
theorem exists_next_lexeme (lexeme : Lexeme) {following : List Char}
    (ended : lexeme.isWord = true → (splitWord following).1 = []) (line : Nat) :
    ∃ after, next ⟨lexeme.text.toList ++ following, line⟩ =
      ({ lexeme.token with line := line }, ⟨following, after⟩) := by
  cases lexeme with
  | word text clean whole =>
    obtain ⟨first, others, split⟩ := List.exists_cons_of_ne_nil clean.nonempty
    have cutOff := splitWord_append_of_plain clean.plain whole following
    have left := splitWord_append following
    rw [ended rfl, List.nil_append] at left
    rw [ended rfl, left, List.append_nil] at cutOff
    have separates := clean.plain first (split ▸ List.mem_cons_self)
    have slash : first ≠ '\\' := by
      rintro rfl
      exact whole (split ▸ List.mem_cons_self)
    have opens := startsContinuation_cons slash (others ++ following)
    refine ⟨line, ?_⟩
    rw [Lexeme.text, next, split, List.cons_append, skipGap_of_plain line separates opens,
      cut_of_plain separates, ← List.cons_append, ← split, cutOff, String.ofList_toList]
    rfl
  | newline => exact ⟨line + 1, rfl⟩
  | _ => exact ⟨line, rfl⟩

/-- The tokens of a layout are its lexemes and the end of the data. -/
theorem map_unplaced_tokens_of_isLayout {afterWord : Bool} {lexemes : List Lexeme}
    {text : List Char} (layout : IsLayout afterWord lexemes text) (line : Nat) :
    (tokens ⟨text, line⟩).map Token.unplaced =
      lexemes.map Lexeme.token ++ [⟨.endOfData, "", 0⟩] := by
  induction layout generalizing line with
  | @done _ gap skipped =>
    have empty : skipGap gap line = skipGap [] (line + gap.count '\n') := by
      have passed := skipGap_of_isGap skipped line
      rwa [List.append_nil] at passed
    have step : next ⟨gap, line⟩ = next ⟨[], line + gap.count '\n'⟩ := congrArg cut empty
    rw [tokens_congr step, tokens_of_endOfData rfl]
    rfl
  | @lexeme _ first rest gap following skipped apart later ih =>
    have ended (word : first.isWord = true) : (splitWord following).1 = [] :=
      IsLayout.splitWord_eq_nil (word ▸ later)
    have step := congrArg cut (skipGap_of_isGap skipped line)
    obtain ⟨after, own⟩ := exists_next_lexeme first ended (line + gap.count '\n')
    have whole : next ⟨gap ++ (first.text.toList ++ following), line⟩ = _ := step.trans own
    have going : first.kind ≠ .endOfData := by
      cases first with
      | word text clean whole => exact TokenKind.ofWord_ne rfl text.toList
      | _ => nofun
    rw [tokens_of_ne_endOfData (by rw [whole]; exact going), whole, List.map_cons, ih,
      List.map_cons, List.cons_append]
    rfl

/-- No word begins behind a token that is one. -/
theorem splitWord_next_eq_nil {cursor : Cursor} (word : cursor.next.1.kind.isMark = false) :
    (splitWord cursor.next.2.rest).1 = [] := by
  rcases cursor.next_cases with ⟨_, step⟩ | ⟨_, _, step⟩ | ⟨_, _, _, listed, _, step⟩ |
    ⟨text, rest, _, cutOff, _, step⟩
  · simp [step, TokenKind.isMark] at word
  · simp [step, TokenKind.isMark] at word
  · simp only [List.mem_cons, Prod.mk.injEq, List.not_mem_nil, or_false] at listed
    rw [step] at word
    rcases listed with ⟨rfl, _⟩ | ⟨rfl, _⟩ | ⟨rfl, _⟩ <;> cases word
  · have whole := splitWord_splitWord (skipGap cursor.rest cursor.line).rest
    rw [cutOff] at whole
    rw [step]
    exact whole

/-- A text whose tokens are lexemes and the end of the data is a layout of them. -/
theorem isLayout_of_map_unplaced_tokens {afterWord : Bool} {lexemes : List Lexeme}
    {text : List Char} {line : Nat}
    (read : (tokens ⟨text, line⟩).map Token.unplaced =
      lexemes.map Lexeme.token ++ [⟨.endOfData, "", 0⟩])
    (ended : afterWord = true → (splitWord text).1 = []) :
    IsLayout afterWord lexemes text := by
  induction lexemes generalizing afterWord text line with
  | nil =>
    have final : (next ⟨text, line⟩).1.kind = .endOfData := by
      refine Classical.byContradiction fun going => ?_
      rw [tokens_of_ne_endOfData going, List.map_cons] at read
      have kind := congrArg Token.kind (List.cons.inj read).1
      exact going kind
    obtain ⟨gap, split, skipped⟩ := exists_isGap text line
    rw [skipGap_eq_nil_of_endOfData final] at split skipped
    rw [split, List.append_nil]
    exact .done skipped
  | cons first rest ih =>
    have going : (next ⟨text, line⟩).1.kind ≠ .endOfData := by
      intro final
      rw [tokens_of_endOfData final, List.map_singleton, List.map_cons] at read
      have more := congrArg List.length read
      simp at more
    rw [tokens_of_ne_endOfData going, List.map_cons, List.map_cons, List.cons_append] at read
    obtain ⟨own, later⟩ := List.cons.inj read
    have spelled : (next ⟨text, line⟩).1.text = first.text := congrArg Token.text own
    have kind : (next ⟨text, line⟩).1.kind = first.kind := congrArg Token.kind own
    obtain ⟨gap, split, skipped, -, -⟩ := exists_next_split ⟨text, line⟩
    change text = _ at split
    rw [spelled] at split skipped
    have behind : first.isWord = true → (splitWord (next ⟨text, line⟩).2.rest).1 = [] :=
      fun word => splitWord_next_eq_nil (kind ▸ first.isMark_kind word)
    rw [split]
    refine .lexeme skipped (fun after word empty => ?_) (ih later behind)
    have none_ := ended after
    rw [split, empty, List.nil_append] at none_
    exact first.splitWord_ne_nil word _ none_

/-- A text is read as lexemes and the end of the data exactly if it is a layout of these lexemes, so
that two layouts of the same lexemes are read alike, apart from line numbers. Every list of lexemes
has a layout. -/
theorem tokens_layout (lexemes : List Lexeme) :
    (∀ text firstLine, (ofText text firstLine).tokens.map Token.unplaced =
      lexemes.map Lexeme.token ++ [⟨.endOfData, "", 0⟩] ↔ IsLayout false lexemes text.toList) ∧
    (∀ text other firstLine otherLine, IsLayout false lexemes text.toList →
      IsLayout false lexemes other.toList →
      (ofText text firstLine).tokens.map Token.unplaced =
        (ofText other otherLine).tokens.map Token.unplaced) ∧
    ∃ text : String, IsLayout false lexemes text.toList := by
  refine ⟨fun text firstLine => ⟨fun read => isLayout_of_map_unplaced_tokens read nofun,
    fun layout => map_unplaced_tokens_of_isLayout layout firstLine⟩,
    fun text other firstLine otherLine layout same => ?_, String.ofList (spaced lexemes), ?_⟩
  · have own := map_unplaced_tokens_of_isLayout layout firstLine
    have alike := map_unplaced_tokens_of_isLayout same otherLine
    exact own.trans alike.symm
  · rw [String.toList_ofList]
    exact isLayout_spaced false lexemes

end Cursor

end GpuScript
