import GpuScript.Proofs.Result
import GpuScript.Proofs.Token.Partition
import GpuScript.Proofs.Token.Runs

/-!
# Pulling tokens from one cursor

A text can be read without its logical lines at hand: one cursor runs through it, and whatever is
read pulls the tokens that it asks for. This is safe if nothing pulls a token of the line after its
own. What is left of the line at a cursor (`Cursor.restOfLine`) and the cursor behind the line
(`Cursor.skipLine`) say how a puller compares with a reader of the tokens of a line: an operand
leaves the cursor on the line, before the tokens that the reader leaves (`Cursor.PulledAs`), and a
whole line leaves it behind its own end (`Cursor.behindLine`). Both are kept when pullers follow
one another.
-/

namespace GpuScript

open Text

/-- The ends are the end of a line and the end of the text. -/
theorem TokenKind.isEnd_iff {kind : TokenKind} :
    kind.isEnd = true ↔ kind = .endOfData ∨ kind = .endOfLine := by
  cases kind <;> simp [isEnd]

/-- What is neither the end of the text nor the end of a line is no end. -/
theorem TokenKind.not_isEnd {kind : TokenKind} (data : kind ≠ .endOfData)
    (line : kind ≠ .endOfLine) : ¬ kind.isEnd = true :=
  mt isEnd_iff.mp (not_or.mpr ⟨data, line⟩)

/-- An end is no number. -/
theorem TokenKind.word32?_of_isEnd {kind : TokenKind} (ended : kind.isEnd = true) :
    kind.word32? = none := by
  cases kind with
  | endOfData | endOfLine => rfl
  | word | integer | hex | double | openBracket | closeBracket | percent => cases ended

namespace Cursor

/-- The tokens that are left on the line, without its end. -/
def restOfLine (cursor : Cursor) : List Token :=
  cursor.tokens.takeWhile fun token => !token.kind.isEnd

/-- Nothing is left on a line at its end. -/
theorem restOfLine_of_isEnd {cursor : Cursor} (ended : cursor.next.1.kind.isEnd = true) :
    cursor.restOfLine = [] := by
  obtain ⟨others, cut⟩ := List.head?_eq_some_iff.mp cursor.head?_tokens
  rw [restOfLine, cut, peek, List.takeWhile_cons_of_neg (by simp [ended])]

/-- Before the end of a line the next token is left on it. -/
theorem restOfLine_of_not_isEnd {cursor : Cursor} (going : ¬ cursor.next.1.kind.isEnd = true) :
    cursor.restOfLine = cursor.next.1 :: cursor.next.2.restOfLine := by
  have inner : cursor.next.1.kind ≠ .endOfData := fun ended => going (ended ▸ rfl)
  rw [restOfLine, tokens_of_ne_endOfData inner, List.takeWhile_cons_of_pos (by simpa using going)]
  rfl

/-- At the end of a line the next step passes over the line. -/
theorem skipLine_of_isEnd {cursor : Cursor} (ended : cursor.next.1.kind.isEnd = true) :
    cursor.skipLine.2 = cursor.next.2 := by
  rw [skipLine, dif_pos ended]

/-- Before the end of a line the line is passed over behind the next step. -/
theorem skipLine_of_not_isEnd {cursor : Cursor} (going : ¬ cursor.next.1.kind.isEnd = true) :
    cursor.skipLine.2 = cursor.next.2.skipLine.2 := by
  rw [skipLine, dif_neg going]

/-- Before the end of a line the next step shortens the text. -/
theorem length_next_lt_of_not_isEnd {cursor : Cursor}
    (going : ¬ cursor.next.1.kind.isEnd = true) :
    cursor.next.2.rest.length < cursor.rest.length :=
  length_next_lt cursor fun ended => going (TokenKind.isEnd_iff.mpr (.inl ended))

/-- Passing over a line never lengthens the text. -/
theorem length_skipLine_le (cursor : Cursor) :
    cursor.skipLine.2.rest.length ≤ cursor.rest.length := by
  fun_induction skipLine cursor with
  | case1 cursor ended => exact cursor.next_suffix.length_le
  | case2 cursor going _ count after equation ih =>
    rw [equation] at ih
    exact Nat.le_trans ih cursor.next_suffix.length_le

/-- Before the end of the text there is no logical line. -/
theorem ofTokens_tokens_of_endOfData {cursor : Cursor} (ended : cursor.next.1.kind = .endOfData) :
    TokenLine.ofTokens cursor.tokens = [] := by
  rw [tokens_of_endOfData ended]
  exact TokenLine.ofTokens_append_singleton (TokenKind.isEnd_iff.mpr (.inl ended)) []

/-- The tokens at a cursor are those of the line, its end, and what gives the lines behind it. -/
theorem exists_tokens_eq_append (cursor : Cursor) :
    ∃ final others, cursor.tokens = cursor.restOfLine ++ final :: others ∧
      final.kind.isEnd = true ∧
      TokenLine.ofTokens others = TokenLine.ofTokens cursor.skipLine.2.tokens := by
  induction cursor using tokens_induction with
  | last cursor ended =>
    have final := TokenKind.isEnd_iff.mpr (.inl ended)
    obtain ⟨_, _, again⟩ := next_of_endOfData ended
    refine ⟨cursor.next.1, [], ?_, final, ?_⟩
    · rw [restOfLine_of_isEnd final, tokens_of_endOfData ended]
      rfl
    · -- The end of data is given once more, and it is no line.
      rw [skipLine_of_isEnd final, tokens_congr again, ofTokens_tokens_of_endOfData ended]
      rfl
  | more cursor going ih =>
    by_cases final : cursor.next.1.kind.isEnd = true
    · refine ⟨cursor.next.1, cursor.next.2.tokens, ?_, final, ?_⟩
      · rw [restOfLine_of_isEnd final, tokens_of_ne_endOfData going]
        rfl
      · rw [skipLine_of_isEnd final]
    · obtain ⟨last, others, split, closes, behind⟩ := ih
      refine ⟨last, others, ?_, closes, ?_⟩
      · rw [tokens_of_ne_endOfData going, split, restOfLine_of_not_isEnd final, List.cons_append]
      · rw [behind, skipLine_of_not_isEnd final]

/-- The logical lines at a cursor are what is left on the line, if anything is, and the lines behind
it. -/
theorem ofTokens_tokens (cursor : Cursor) :
    TokenLine.ofTokens cursor.tokens =
      (TokenLine.ofList? cursor.restOfLine).toList ++
        TokenLine.ofTokens cursor.skipLine.2.tokens := by
  obtain ⟨final, others, split, closes, behind⟩ := cursor.exists_tokens_eq_append
  have inner : ∀ token ∈ cursor.restOfLine, token.kind.isEnd = false := fun token listed => by
    simpa using List.all_eq_true.mp List.all_takeWhile token listed
  rw [split, TokenLine.ofTokens_append_cons closes, TokenLine.ofTokens_of_inner inner, behind]

/-- Behind the end of a line stand the logical lines behind it. -/
theorem ofTokens_tokens_of_isEnd {cursor : Cursor} (ended : cursor.next.1.kind.isEnd = true) :
    TokenLine.ofTokens cursor.tokens = TokenLine.ofTokens cursor.next.2.tokens := by
  rw [ofTokens_tokens, restOfLine_of_isEnd ended, skipLine_of_isEnd ended]
  rfl

/-- A token that is no end opens a logical line, and behind it stand the others. -/
theorem ofTokens_tokens_of_not_isEnd {cursor : Cursor}
    (going : ¬ cursor.next.1.kind.isEnd = true) :
    TokenLine.ofTokens cursor.tokens =
      ⟨cursor.next.1, cursor.next.2.restOfLine⟩ ::
        TokenLine.ofTokens cursor.next.2.skipLine.2.tokens := by
  rw [ofTokens_tokens, restOfLine_of_not_isEnd going, skipLine_of_not_isEnd going]
  rfl

end Cursor

namespace Cursor

variable {ε α β : Type}

/-- Pulling from a cursor comes to the same as reading the tokens that are left on its line: both
are refused for one cause, or both give one value, and what is left to be read is what is left on
the same line. -/
inductive PulledAs (cursor : Cursor) :
    Except ε (α × Cursor) → Except ε (α × List Token) → Prop where
  /-- Both are refused. -/
  | refused (cause : ε) : PulledAs cursor (.error cause) (.error cause)
  /-- Both give a value, and the line is still the same. -/
  | taken (value : α) {after : Cursor} (same : after.skipLine.2 = cursor.skipLine.2) :
    PulledAs cursor (.ok (value, after)) (.ok (value, after.restOfLine))

/-- A line that was read to its end, with the cursor behind that end. -/
def behindLine (cursor : Cursor) (read : Except ε α) : Except ε (α × Cursor) :=
  read.map fun value => (value, cursor.skipLine.2)

/-- A line may be looked at from any of its places. -/
theorem behindLine_of_same {cursor after : Cursor} (same : after.skipLine.2 = cursor.skipLine.2)
    (read : Except ε α) : after.behindLine read = cursor.behindLine read := by
  rw [behindLine, same, behindLine]

/-- Behind its next token a line is the same. -/
theorem behindLine_next {cursor : Cursor} (going : ¬ cursor.next.1.kind.isEnd = true)
    (read : Except ε α) : cursor.next.2.behindLine read = cursor.behindLine read :=
  behindLine_of_same (skipLine_of_not_isEnd going).symm read

/-- A value that was read from a line is changed with the cursor behind the line. -/
theorem map_behindLine (cursor : Cursor) (read : Except ε α) (change : α → β) :
    ((cursor.behindLine read).map fun (value, after) => (change value, after)) =
      cursor.behindLine (read.map change) := by
  cases read <;> rfl

namespace PulledAs

variable {cursor : Cursor} {pulled : Except ε (α × Cursor)} {read : Except ε (α × List Token)}

/-- A value without a token leaves the cursor where it is. -/
theorem stay (value : α) :
    cursor.PulledAs (.ok (value, cursor)) (.ok (value, cursor.restOfLine) : Except ε _) :=
  .taken value rfl

/-- What is pulled further on in a line is pulled from the line. -/
theorem of_same {after : Cursor} (same : after.skipLine.2 = cursor.skipLine.2)
    (agree : after.PulledAs pulled read) : cursor.PulledAs pulled read := by
  cases agree with
  | refused cause => exact .refused cause
  | taken value later => exact .taken value (later.trans same)

/-- What is refused when it is read is refused when it is pulled. -/
theorem eq_error {cause : ε} (agree : cursor.PulledAs pulled (.error cause)) :
    pulled = .error cause := by
  cases agree
  rfl

/-- What is read is pulled, and the tokens that it leaves are those left on the line. -/
theorem exists_eq_ok {value : α} {rest : List Token}
    (agree : cursor.PulledAs pulled (.ok (value, rest))) :
    ∃ after, pulled = .ok (value, after) ∧ after.restOfLine = rest ∧
      after.skipLine.2 = cursor.skipLine.2 := by
  cases agree with
  | taken _ same => exact ⟨_, rfl, rfl, same⟩

/-- Operands that follow one another stay on their line. -/
theorem bind {next : α × Cursor → Except ε (β × Cursor)}
    {further : α × List Token → Except ε (β × List Token)} (first : cursor.PulledAs pulled read)
    (others : ∀ value (after : Cursor),
      after.PulledAs (next (value, after)) (further (value, after.restOfLine))) :
    cursor.PulledAs (pulled >>= next) (read >>= further) := by
  cases first with
  | refused cause => exact .refused cause
  | taken value same => exact (others value _).of_same same

/-- An operand and what reads the line behind it to its end read the line to its end. -/
theorem bind_line {next : α × Cursor → Except ε (β × Cursor)}
    {further : α × List Token → Except ε β} (first : cursor.PulledAs pulled read)
    (others : ∀ value after,
      next (value, after) = after.behindLine (further (value, after.restOfLine))) :
    (pulled >>= next) = cursor.behindLine (read >>= further) := by
  cases first with
  | refused cause => rfl
  | taken value same => exact (others value _).trans (behindLine_of_same same _)

/-- An operand may be changed on both sides. -/
theorem map (first : cursor.PulledAs pulled read) (change : α → β) :
    cursor.PulledAs (pulled.map fun (value, after) => (change value, after))
      (read.map fun (value, rest) => (change value, rest)) := by
  cases first with
  | refused cause => exact .refused cause
  | taken value same => exact .taken (change value) same

end PulledAs

/-- The operand that the next token stands for. -/
def pullOperand (take : Token → Except ε α) (cursor : Cursor) : Except ε (α × Cursor) :=
  (take cursor.next.1).map fun value => (value, cursor.next.2)

/-- An operand stays on its line if no end of a line stands for one. -/
theorem pullOperand_pulledAs {take : Token → Except ε α}
    {read : List Token → Except ε (α × List Token)}
    (ended : ∀ token, token.kind.isEnd = true →
      ∃ cause, take token = .error cause ∧ read [] = .error cause)
    (going : ∀ token rest, token.kind.isEnd = false →
      read (token :: rest) = (take token).map fun value => (value, rest))
    (cursor : Cursor) : cursor.PulledAs (pullOperand take cursor) (read cursor.restOfLine) := by
  unfold pullOperand
  by_cases final : cursor.next.1.kind.isEnd = true
  · obtain ⟨cause, refused, empty⟩ := ended cursor.next.1 final
    rw [restOfLine_of_isEnd final, refused, empty]
    exact .refused cause
  · rw [restOfLine_of_not_isEnd final, going _ _ (Bool.eq_false_iff.mpr final)]
    cases take cursor.next.1 with
    | error cause => exact .refused cause
    | ok value => exact .taken value (skipLine_of_not_isEnd final).symm

/-- A value and the end of its line, or the cause why the line does not end. -/
def pullEnd (cause : ε) (value : α) (cursor : Cursor) : Except ε (α × Cursor) :=
  if cursor.next.1.kind.isEnd then .ok (value, cursor.next.2) else .error cause

/-- A line ends if nothing is left on it. -/
theorem pullEnd_eq (cause : ε) (value : α) (cursor : Cursor) :
    pullEnd cause value cursor =
      cursor.behindLine (if cursor.restOfLine = [] then .ok value else .error cause) := by
  unfold pullEnd
  by_cases final : cursor.next.1.kind.isEnd = true
  · rw [if_pos final, restOfLine_of_isEnd final, if_pos rfl, behindLine, skipLine_of_isEnd final]
    rfl
  · rw [if_neg final, restOfLine_of_not_isEnd final, if_neg (List.cons_ne_nil _ _)]
    rfl

/-- The tokens up to the end of the line, each of which changes a state or is refused. -/
def pullEach (step : β → Token → Except ε β) (state : β) (cursor : Cursor) :
    Except ε (β × Cursor) :=
  if ended : cursor.next.1.kind.isEnd then
    .ok (state, cursor.next.2)
  else
    match step state cursor.next.1 with
    | .error cause => .error cause
    | .ok state =>
      have := length_next_lt_of_not_isEnd ended
      pullEach step state cursor.next.2
  termination_by cursor.rest.length

/-- The tokens up to the end of the line are those that are left on it, in order. -/
theorem pullEach_eq (step : β → Token → Except ε β) (state : β) (cursor : Cursor) :
    pullEach step state cursor = cursor.behindLine (cursor.restOfLine.foldlM step state) := by
  fun_induction pullEach step state cursor with
  | case1 state cursor ended =>
    rw [restOfLine_of_isEnd ended, behindLine, skipLine_of_isEnd ended]
    rfl
  | case2 state cursor going cause refused =>
    rw [restOfLine_of_not_isEnd going, List.foldlM_cons, refused]
    rfl
  | case3 state cursor going later accepted _ ih =>
    rw [ih, restOfLine_of_not_isEnd going, List.foldlM_cons, accepted, ok_bind]
    exact behindLine_next going _

end Cursor

end GpuScript
