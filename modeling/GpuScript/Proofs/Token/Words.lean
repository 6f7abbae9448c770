import Mathlib.Data.List.Forall2
import GpuScript.Proofs.Token.Line

/-!
# Words read back

The text of every word token is free of separators (`Cursor.isWord_of_mem_tokens`), and words
without separators are read as they were written: a text of such words with a space between them
spells exactly these words (`Spells.intercalate`).
-/

namespace GpuScript

open Text

/-- No character of a text separates words. -/
def isPlain (text : List Char) : Bool :=
  text.all fun character => !isSeparator character

/-- A text is plain if none of its characters separates words. -/
theorem isPlain_iff {text : List Char} :
    isPlain text = true ↔ ∀ character ∈ text, isSeparator character = false := by
  simp [isPlain]

/-- A text without separators that is not empty. -/
structure IsWord (text : String) : Prop where
  /-- The text is not empty. -/
  nonempty : text.toList ≠ []
  /-- No character separates words. -/
  plain : ∀ character ∈ text.toList, isSeparator character = false

/-- The characters of a text tell whether it is a word. -/
instance (text : String) : Decidable (IsWord text) :=
  decidable_of_iff ((!text.toList.isEmpty && isPlain text.toList) = true) <| by
    rw [Bool.and_eq_true, isPlain_iff, Bool.not_eq_true', List.isEmpty_eq_false_iff]
    exact ⟨fun ⟨nonempty, plain⟩ => ⟨nonempty, plain⟩, fun ⟨nonempty, plain⟩ => ⟨nonempty, plain⟩⟩

/-- What stands between words, or after the last one, when it ends no line. -/
def EndsWord (rest : List Char) : Prop :=
  ∀ character after, rest = character :: after →
    isSeparator character = true ∧ character ≠ '\n' ∧ character ≠ '\r'

/-- A space ends a word. -/
theorem endsWord_space (rest : List Char) : EndsWord (' ' :: rest) := by
  intro character after same
  obtain ⟨rfl, _⟩ := List.cons.inj same
  decide

/-- A percent sign ends a word. -/
theorem endsWord_percent (rest : List Char) : EndsWord ('%' :: rest) := by
  intro character after same
  obtain ⟨rfl, _⟩ := List.cons.inj same
  decide

/-- The end of the text ends a word. -/
theorem endsWord_nil : EndsWord [] := by
  intro character after same
  cases same

/-- A continuation needs a line end or a carriage return as its second character. -/
theorem startsContinuation_of_second {first : Char} {others : List Char}
    (other : ∀ second after, others = second :: after → second ≠ '\n' ∧ second ≠ '\r') :
    startsContinuation (first :: others) = false := by
  unfold startsContinuation
  split
  · rename_i same
    exact absurd rfl (other _ _ (List.cons.inj same).2).1
  · rename_i same
    exact absurd rfl (other _ _ (List.cons.inj same).2).2
  · rfl

/-- Characters that separate nothing open no continuation in front of what ends a word. -/
theorem startsContinuation_of_plain {first : Char} {word rest : List Char}
    (plain : ∀ character ∈ word, isSeparator character = false) (ended : EndsWord rest) :
    startsContinuation (first :: (word ++ rest)) = false := by
  refine startsContinuation_of_second fun second after same => ?_
  cases word with
  | nil => exact (ended second after same).2
  | cons character others =>
    obtain ⟨rfl, _⟩ := List.cons.inj same
    have separates := plain character List.mem_cons_self
    constructor
    · rintro rfl
      exact absurd separates (by decide)
    · rintro rfl
      exact absurd separates (by decide)

/-- A word is cut off whole. -/
theorem splitWord_of_plain {word rest : List Char}
    (plain : ∀ character ∈ word, isSeparator character = false) (ended : EndsWord rest) :
    splitWord (word ++ rest) = (word, rest) := by
  induction word with
  | nil =>
    cases rest with
    | nil => rfl
    | cons character after =>
      have separates := (ended character after rfl).1
      rw [List.nil_append, splitWord, if_pos (by simp [separates])]
  | cons first others ih =>
    obtain ⟨separates, inner⟩ := List.forall_mem_cons.mp plain
    have opens := @startsContinuation_of_plain first _ _ inner ended
    rw [List.cons_append, splitWord, if_neg (by simp [separates, opens]), ih inner]

/-- The kind is no word: it is an end, a bracket or a percent sign. -/
def TokenKind.isMark : TokenKind → Bool
  | endOfData | endOfLine | openBracket | closeBracket | percent => true
  | _ => false

/-- The token of a word on the first line. -/
def wordToken (text : String) : Token :=
  ⟨.ofWord text.toList, text, 1⟩

namespace Cursor

/-- A gap does not pass over a character that separates nothing. -/
theorem skipGap_of_plain {first : Char} {others : List Char} (line : Nat)
    (plain : isSeparator first = false) (whole : startsContinuation (first :: others) = false) :
    skipGap (first :: others) line = ⟨first :: others, line⟩ := by
  rw [skipGap_cons whole, if_neg, if_neg]
  · rintro ⟨_, blank | comma⟩
    · simp [isSeparator, blank] at plain
    · subst comma
      exact absurd plain (by decide)
  · rintro rfl
    exact absurd plain (by decide)

/-- A word is read as its token. -/
theorem tokens_word {word : String} {rest : List Char} (clean : IsWord word)
    (ended : EndsWord rest) :
    tokens ⟨word.toList ++ rest, 1⟩ = wordToken word :: tokens ⟨rest, 1⟩ := by
  obtain ⟨first, others, split⟩ := List.exists_cons_of_ne_nil clean.nonempty
  have plain := clean.plain
  rw [split] at plain
  obtain ⟨separates, inner⟩ := List.forall_mem_cons.mp plain
  have opens := @startsContinuation_of_plain first _ _ inner ended
  have cutOff := splitWord_of_plain plain ended
  have step : next ⟨word.toList ++ rest, 1⟩ = (wordToken word, ⟨rest, 1⟩) := by
    rw [next, split, List.cons_append, skipGap_of_plain 1 separates opens,
      cut_of_plain separates, ← List.cons_append, cutOff, wordToken, ← split,
      String.ofList_toList]
  have going : (next ⟨word.toList ++ rest, 1⟩).1.kind ≠ .endOfData := by
    rw [step]
    exact TokenKind.ofWord_ne rfl _
  rw [tokens_of_ne_endOfData going, step]

/-- A space adds no token. -/
theorem tokens_space (rest : List Char) (line : Nat) :
    tokens ⟨' ' :: rest, line⟩ = tokens ⟨rest, line⟩ :=
  tokens_congr rfl

/-- A percent sign is a token. -/
theorem tokens_percent (rest : List Char) (line : Nat) :
    tokens ⟨'%' :: rest, line⟩ = ⟨.percent, "%", line⟩ :: tokens ⟨rest, line⟩ := by
  have step : next ⟨'%' :: rest, line⟩ = (⟨.percent, "%", line⟩, ⟨rest, line⟩) := rfl
  rw [tokens_of_ne_endOfData (by rw [step]; simp), step]

/-- A text that was written ends with the end of data. -/
theorem tokens_nil (line : Nat) : tokens ⟨[], line⟩ = [⟨.endOfData, "", line⟩] :=
  tokens_of_endOfData rfl

/-- A token is a mark, or a word without separators that is read on its own. -/
theorem isMark_or_isWord_of_mem_tokens {cursor : Cursor} {token : Token}
    (listed : token ∈ cursor.tokens) :
    token.kind.isMark = true ∨
      IsWord token.text ∧ token.kind = TokenKind.ofWord token.text.toList := by
  have own (cursor : Cursor) : cursor.next.1.kind.isMark = true ∨
      IsWord cursor.next.1.text ∧
        cursor.next.1.kind = TokenKind.ofWord cursor.next.1.text.toList := by
    rcases cursor.next_cases with ⟨_, step⟩ | ⟨_, _, step⟩ | ⟨_, _, _, listed, _, step⟩ |
      ⟨word, rest, nonempty, cutOff, _, step⟩
    · exact .inl (step ▸ rfl)
    · exact .inl (step ▸ rfl)
    · simp only [List.mem_cons, Prod.mk.injEq, List.not_mem_nil, or_false] at listed
      rw [step]
      rcases listed with ⟨rfl, _⟩ | ⟨rfl, _⟩ | ⟨rfl, _⟩ <;> exact .inl rfl
    · rw [step]
      have plain : ∀ character ∈ word, isSeparator character = false := fun character inside =>
        @not_isSeparator_of_mem_splitWord _ character (by rwa [cutOff])
      exact .inr ⟨⟨by simpa using nonempty, by simpa using plain⟩, by simp⟩
  induction cursor using tokens_induction with
  | last cursor final =>
    rw [tokens_of_endOfData final, List.mem_singleton] at listed
    exact listed ▸ own cursor
  | more cursor going ih =>
    rw [tokens_of_ne_endOfData going] at listed
    rcases List.mem_cons.mp listed with rfl | later
    · exact own cursor
    · exact ih later

/-- A token that is a word has a text without separators, which reads as a word. -/
theorem isWord_of_mem_tokens {cursor : Cursor} {token : Token}
    (listed : token ∈ cursor.tokens) (kind : token.kind = .word) :
    IsWord token.text ∧ TokenKind.ofWord token.text.toList = .word := by
  rcases isMark_or_isWord_of_mem_tokens listed with mark | ⟨clean, same⟩
  · rw [kind] at mark
    cases mark
  · exact ⟨clean, same ▸ kind⟩

end Cursor

/-- A text that was written reads as tokens that end no line, whatever ends it. -/
structure Spells (text : String) (tokens : List Token) : Prop where
  /-- The tokens are those of the text. -/
  tokens_append : ∀ rest, EndsWord rest →
    Cursor.tokens ⟨text.toList ++ rest, 1⟩ = tokens ++ Cursor.tokens ⟨rest, 1⟩
  /-- No token ends a line. -/
  inner : ∀ token ∈ tokens, token.kind.isEnd = false

/-- A word spells its token. -/
theorem IsWord.spells {word : String} (clean : IsWord word) : Spells word [wordToken word] := by
  refine ⟨fun rest ended => Cursor.tokens_word clean ended, fun token listed => ?_⟩
  rw [List.mem_singleton.mp listed]
  exact TokenKind.isEnd_ofWord _

/-- A word with a percent sign spells its token and that of the sign. -/
theorem IsWord.spells_percent {word : String} (clean : IsWord word) :
    Spells (word ++ "%") [wordToken word, ⟨.percent, "%", 1⟩] := by
  refine ⟨fun rest _ => ?_, fun token listed => ?_⟩
  · have split : (word ++ "%").toList ++ rest = word.toList ++ '%' :: rest := by simp
    rw [split, Cursor.tokens_word clean (endsWord_percent rest), Cursor.tokens_percent]
    rfl
  · rcases List.mem_cons.mp listed with rfl | sign
    · exact TokenKind.isEnd_ofWord _
    · rw [List.mem_singleton.mp sign]
      rfl

/-- Texts with a space between them spell their tokens one after the other. -/
theorem Spells.intercalate {texts : List String} {tokens : List (List Token)}
    (all : List.Forall₂ Spells texts tokens) :
    Spells (" ".intercalate texts) tokens.flatten := by
  induction all with
  | nil => exact ⟨fun rest _ => by simp, by simp⟩
  | @cons text own texts others first later ih =>
    refine ⟨fun rest ended => ?_, ?_⟩
    · cases texts with
      | nil =>
        cases later
        simpa using first.tokens_append rest ended
      | cons second texts =>
        have split : (" ".intercalate (text :: second :: texts)).toList ++ rest =
            text.toList ++ ' ' :: ((" ".intercalate (second :: texts)).toList ++ rest) := by
          simp [String.intercalate_cons_cons]
        rw [split, first.tokens_append _ (endsWord_space _), Cursor.tokens_space,
          ih.tokens_append rest ended, List.flatten_cons, List.append_assoc]
    · rw [List.flatten_cons]
      exact List.forall_mem_append.mpr ⟨first.inner, ih.inner⟩

/-- A list without elements that separate is a single piece. -/
theorem pieces_of_plain {α : Type} {separates : α → Bool} {elements : List α}
    (plain : ∀ element ∈ elements, separates element = false) :
    pieces separates elements = [elements] := by
  induction elements with
  | nil => rfl
  | cons first rest ih =>
    obtain ⟨own, others⟩ := List.forall_mem_cons.mp plain
    rw [pieces, ih others]
    simp [own]

/-- A text that spells tokens is a logical line with these tokens. -/
theorem Spells.ofText {text : String} {first : Token} {rest : List Token}
    (spells : Spells text (first :: rest)) : TokenLine.ofText text 1 = [⟨first, rest⟩] := by
  have tokens := spells.tokens_append [] endsWord_nil
  rw [List.append_nil, Cursor.tokens_nil] at tokens
  rw [TokenLine.ofText, Cursor.ofText, tokens, TokenLine.ofTokens_append_singleton rfl,
    TokenLine.ofTokens, pieces_of_plain spells.inner]
  rfl

/-- A token is a word with a text if it is of the kind of words and was cut from that text. -/
theorem Token.word?_eq_some_iff {token : Token} {text : String} :
    token.word? = some text ↔ token.kind = .word ∧ token.text = text := by
  unfold Token.word?
  cases token.kind <;> simp

/-- Asking for a word is asking for its text. -/
theorem Token.isWord_iff {token : Token} {text : String} :
    token.isWord text = true ↔ token.word? = some text := by
  rw [Token.isWord, Bool.and_eq_true, decide_eq_true_iff, beq_iff_eq, word?_eq_some_iff]

/-- A word that is the whole text is the token at its start. -/
theorem IsWord.peek {word : String} (clean : IsWord word) :
    (Cursor.ofText word 1).peek = wordToken word := by
  have tokens := clean.spells.tokens_append [] endsWord_nil
  rw [List.append_nil] at tokens
  have opens := Cursor.head?_tokens (Cursor.ofText word 1)
  rw [Cursor.ofText, tokens] at opens
  exact (Option.some.inj opens).symm

end GpuScript
