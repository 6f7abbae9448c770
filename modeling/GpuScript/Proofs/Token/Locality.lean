import GpuScript.Proofs.Token.Step

/-!
# Reading is local

What stands behind a line end of a text does not change how the text before it is read. A text
that ends with a line end is therefore read in the same way in front of any other text, whether
that line end is a token or part of a continuation (`Cursor.settled_of_getLast`). A text whose last
token is a line end is read in the same way as well, unless it ends inside a comment
(`Cursor.settled_of_endOfLine`).
-/

namespace GpuScript

open Text

/-- Only a backslash starts a continuation. -/
theorem startsContinuation_cons {character : Char} (other : character ≠ '\\') (rest : List Char) :
    startsContinuation (character :: rest) = false := by
  unfold startsContinuation
  split <;> simp_all

/-- A text with a line end starts a continuation whatever follows it, or does not. -/
theorem startsContinuation_append {text : List Char} (ended : '\n' ∈ text) (tail : List Char) :
    startsContinuation (text ++ tail) = startsContinuation text := by
  rcases text with _ | ⟨first, _ | ⟨second, _ | ⟨third, rest⟩⟩⟩
  · simp at ended
  · obtain rfl := List.mem_singleton.mp ended
    rw [List.singleton_append, startsContinuation_cons (by decide),
      startsContinuation_cons (by decide)]
  · by_cases slash : first = '\\'
    · subst slash
      obtain rfl : '\n' = second := by simpa using ended
      rfl
    · rw [List.cons_append, startsContinuation_cons slash, startsContinuation_cons slash]
  · by_cases slash : first = '\\'
    · subst slash
      simp only [List.cons_append, startsContinuation]
      split <;> simp_all
    · rw [List.cons_append, startsContinuation_cons slash, startsContinuation_cons slash]

/-- A word that is cut off before a line end is cut off in the same way in front of any text. -/
theorem splitWord_append_tail {text : List Char} (ended : '\n' ∈ text) (tail : List Char) :
    splitWord (text ++ tail) = ((splitWord text).1, (splitWord text).2 ++ tail) := by
  fun_induction splitWord text with
  | case1 => simp at ended
  | case2 first rest stops =>
    rw [List.cons_append, splitWord, if_pos]
    rw [← List.cons_append, startsContinuation_append ended]
    exact stops
  | case3 first rest plain word others equation ih =>
    have different : '\n' ≠ first := by
      rintro rfl
      simp [isSeparator_newline] at plain
    have inner := ih ((List.mem_cons.mp ended).resolve_left different)
    rw [List.cons_append, splitWord, if_neg, inner, equation]
    rw [← List.cons_append, startsContinuation_append ended]
    exact plain

/-- No comment runs on to the end of a text: a line end stands behind every `#`. -/
def ClosesComments (text : List Char) : Prop :=
  ∀ before after, text = before ++ '#' :: after → '\n' ∈ after

/-- A text closes its comments if it does so with more text in front of it. -/
theorem ClosesComments.of_suffix {text rest : List Char} (closed : ClosesComments text)
    (part : rest <:+ text) : ClosesComments rest := by
  obtain ⟨passed, rfl⟩ := part
  intro before after split
  exact closed (passed ++ before) after (by rw [split, List.append_assoc])

/-- A text that ends with a line end closes its comments. -/
theorem closesComments_of_getLast {text : List Char} (ended : text.getLast? = some '\n') :
    ClosesComments text := by
  intro before after split
  rw [split, List.getLast?_append, List.getLast?_cons] at ended
  cases final : after.getLast? with
  | none => simp [final] at ended
  | some value =>
    obtain rfl : value = '\n' := by simpa [final] using ended
    exact List.mem_of_getLast? final

namespace Cursor

/-- The cursor with more text behind what is left. -/
def append (cursor : Cursor) (tail : List Char) : Cursor :=
  ⟨cursor.rest ++ tail, cursor.line⟩

/-- A gap at a text that does not start a continuation. -/
theorem skipGap_cons {character : Char} {rest : List Char}
    (plain : startsContinuation (character :: rest) = false) (line : Nat) :
    skipGap (character :: rest) line =
      if character = '#' then ⟨rest.dropWhile (· ≠ '\n'), line⟩
      else if character ≠ '\n' ∧ (isBlank character ∨ character = ',') then skipGap rest line
      else ⟨character :: rest, line⟩ := by
  rw [skipGap.eq_def]
  split <;> simp_all [startsContinuation]

/-- A gap that ends before a line end is the same in front of any text. -/
theorem skipGap_append {text : List Char} {line : Nat} (ended : '\n' ∈ (skipGap text line).rest)
    (tail : List Char) : skipGap (text ++ tail) line = (skipGap text line).append tail := by
  fun_induction skipGap text line with
  | case1 => simp at ended
  | case2 rest line ih => exact ih ended
  | case3 rest line ih => exact ih ended
  | case4 rest line =>
    have stops : (rest.dropWhile (· ≠ '\n')).isEmpty = false := by
      simpa using List.ne_nil_of_mem ended
    rw [List.cons_append, skipGap_cons (startsContinuation_cons (by decide) _), if_pos rfl,
      List.dropWhile_append, stops]
    rfl
  | case5 character rest line slash _ comment blank ih =>
    have plain : character ≠ '\\' := by
      rintro rfl
      exact absurd blank (by decide)
    rw [List.cons_append, skipGap_cons (startsContinuation_cons plain _), if_neg comment,
      if_pos blank]
    exact ih ended
  | case6 character rest line newline carriage comment blank =>
    have plain : startsContinuation (character :: rest) = false := by
      unfold startsContinuation
      split <;> simp_all
    rw [List.cons_append, skipGap_cons, if_neg comment, if_neg blank]
    · rfl
    · rw [← List.cons_append, startsContinuation_append ended, plain]

/-- A step that leaves or takes a line end is the same in front of any text. -/
theorem next_append {cursor : Cursor} (ended : '\n' ∈ (skipGap cursor.rest cursor.line).rest)
    (tail : List Char) :
    (cursor.append tail).next = (cursor.next.1, cursor.next.2.append tail) := by
  have step : (cursor.append tail).next = ((skipGap cursor.rest cursor.line).append tail).cut :=
    congrArg cut (skipGap_append ended tail)
  have shape := cursor.next_cases
  rw [step]
  clear step
  generalize skipGap cursor.rest cursor.line = gap at ended shape ⊢
  obtain ⟨text, line⟩ := gap
  simp only at ended shape
  rcases shape with ⟨rfl, _⟩ | ⟨rest, rfl, found⟩ | ⟨kind, character, rest, listed, rfl, found⟩ |
    ⟨word, rest, nonempty, split, opens, found⟩
  · simp at ended
  · rw [found]
    rfl
  · simp only [List.mem_cons, Prod.mk.injEq, List.not_mem_nil, or_false] at listed
    rw [found]
    rcases listed with ⟨rfl, rfl⟩ | ⟨rfl, rfl⟩ | ⟨rfl, rfl⟩ <;> rfl
  · obtain ⟨first, others, rfl⟩ := List.exists_cons_of_ne_nil nonempty
    have plain : isSeparator first = false :=
      @not_isSeparator_of_mem_splitWord text _ (by simp [split])
    have longer := splitWord_append_tail ended tail
    rw [found, append, opens, List.cons_append, List.cons_append, cut_of_plain plain,
      ← List.cons_append, ← List.cons_append, ← opens, longer, split]
    rfl

/-- A gap that takes a whole text goes on in the text behind it, unless it ends in a comment. -/
theorem skipGap_append_of_nil {text : List Char} {line : Nat}
    (empty : (skipGap text line).rest = [])
    (closed : ClosesComments text) (tail : List Char) :
    skipGap (text ++ tail) line = skipGap tail (line + text.count '\n') := by
  fun_induction skipGap text line with
  | case1 => rfl
  | case2 rest line ih =>
    have inner := ih empty (closed.of_suffix ⟨['\\', '\n'], rfl⟩)
    rw [show line + ('\\' :: '\n' :: rest).count '\n' = line + 1 + rest.count '\n' by simp; omega]
    exact inner
  | case3 rest line ih =>
    have inner := ih empty (closed.of_suffix ⟨['\\', '\r', '\n'], rfl⟩)
    rw [show line + ('\\' :: '\r' :: '\n' :: rest).count '\n' = line + 1 + rest.count '\n' by
      simp; omega]
    exact inner
  | case4 rest line =>
    have ended := closed [] rest rfl
    have comment := List.takeWhile_append_dropWhile (p := (· ≠ '\n')) (l := rest)
    simp only at empty
    rw [empty, List.append_nil] at comment
    rw [← comment] at ended
    simpa using List.all_eq_true.mp List.all_takeWhile _ ended
  | case5 character rest line slash _ comment blank ih =>
    have plain : character ≠ '\\' := by
      rintro rfl
      exact absurd blank (by decide)
    have inner := ih empty (closed.of_suffix (List.suffix_cons _ _))
    rw [List.cons_append, skipGap_cons (startsContinuation_cons plain _), if_neg comment,
      if_pos blank, inner, List.count_cons_of_ne blank.1]
  | case6 => simp at empty

/-- After a gap that takes the whole text, the number of the last line is that of the cursor. -/
theorem line_skipGap_of_nil {cursor : Cursor}
    (empty : (skipGap cursor.rest cursor.line).rest = []) :
    (skipGap cursor.rest cursor.line).line = cursor.lastLine := by
  have kept := skipGap_lastLine cursor.rest cursor.line
  rwa [lastLine, empty, List.count_nil, Nat.add_zero] at kept

/-- A text that is a gap as a whole adds no tokens to the text behind it, unless it ends in a
comment. -/
theorem tokens_append_of_endOfData {cursor : Cursor} (ended : cursor.next.1.kind = .endOfData)
    (closed : ClosesComments cursor.rest) (tail : List Char) :
    (cursor.append tail).tokens = tokens ⟨tail, cursor.lastLine⟩ :=
  tokens_congr (congrArg cut
    (skipGap_append_of_nil (skipGap_eq_nil_of_endOfData ended) closed tail))

/-- What ends a text ends each of its suffixes that is not empty. -/
theorem getLast?_of_suffix {text rest : List Char} {character : Char}
    (ended : text.getLast? = some character) (part : rest <:+ text) (nonempty : rest ≠ []) :
    rest.getLast? = some character := by
  obtain ⟨before, rfl⟩ := part
  obtain ⟨value, final⟩ : ∃ value, rest.getLast? = some value :=
    ⟨_, List.getLast?_eq_some_getLast nonempty⟩
  rw [List.getLast?_append, final] at ended
  rw [final]
  exact ended

/-- Nothing that is read at a cursor depends on text behind what is left: a line end follows every
token or is the token, and the last gap does not end in a comment. -/
inductive Settled : Cursor → Prop where
  /-- A gap that does not end in a comment. -/
  | last {cursor : Cursor} (final : cursor.next.1.kind = .endOfData)
      (closed : ClosesComments cursor.rest) : Settled cursor
  /-- A token with a line end in it or after it. -/
  | more {cursor : Cursor} (going : cursor.next.1.kind ≠ .endOfData)
      (ahead : '\n' ∈ (skipGap cursor.rest cursor.line).rest) (later : Settled cursor.next.2) :
      Settled cursor

/-- A settled text is read in the same way in front of any text, and what is behind it is read as
if it stood alone. -/
theorem Settled.tokens_append {cursor : Cursor} (settled : cursor.Settled) (tail : List Char) :
    (cursor.append tail).tokens = cursor.tokens.dropLast ++ tokens ⟨tail, cursor.lastLine⟩ := by
  induction settled with
  | last final closed =>
    rw [tokens_of_endOfData final, List.dropLast_singleton, List.nil_append]
    exact tokens_append_of_endOfData final closed tail
  | @more cursor going ahead later ih =>
    have step := next_append ahead tail
    have onward : (cursor.append tail).next.1.kind ≠ .endOfData := by rw [step]; exact going
    rw [tokens_of_ne_endOfData onward, tokens_of_ne_endOfData going, step,
      List.dropLast_cons_of_ne_nil (tokens_ne_nil _), List.cons_append, ih, next_lastLine]

/-- A text that ends with a line end is settled, whatever that line end is part of. -/
theorem settled_of_getLast (cursor : Cursor)
    (ended : cursor.rest = [] ∨ cursor.rest.getLast? = some '\n') : cursor.Settled := by
  induction cursor using tokens_induction with
  | last cursor final =>
    refine .last final ?_
    rcases ended with empty | ended
    · intro before after split
      simp [empty] at split
    · exact closesComments_of_getLast ended
  | more cursor going ih =>
    have nonempty : (skipGap cursor.rest cursor.line).rest ≠ [] := fun empty =>
      going (by rw [next, cut, empty])
    have ended := ended.resolve_left fun empty => nonempty (by simp [empty, skipGap])
    refine .more going (List.mem_of_getLast?
      (getLast?_of_suffix ended (skipGap_suffix _ _) nonempty)) (ih ?_)
    by_cases empty : cursor.next.2.rest = []
    · exact Or.inl empty
    · exact Or.inr (getLast?_of_suffix ended cursor.next_suffix empty)

/-- A line end that is a token stands in the text that is left after the gap. -/
theorem newline_mem_of_mem_tokens {cursor : Cursor} {token : Token}
    (listed : token ∈ cursor.tokens) (line : token.kind = .endOfLine) :
    '\n' ∈ (skipGap cursor.rest cursor.line).rest := by
  induction cursor using tokens_induction with
  | last cursor final =>
    rw [tokens_of_endOfData final, List.mem_singleton] at listed
    rw [← listed, line] at final
    contradiction
  | more cursor going ih =>
    rw [tokens_of_ne_endOfData going] at listed
    rcases List.mem_cons.mp listed with rfl | later
    · rcases cursor.next_cases with ⟨_, step⟩ | ⟨rest, opens, _⟩ | ⟨kind, _, _, marks, _, step⟩ |
        ⟨word, _, _, _, _, step⟩
      · simp [step] at line
      · simp [opens]
      · rw [step] at line
        simp_all
      · rw [step] at line
        exact absurd line (TokenKind.ofWord_ne rfl word)
    · exact cursor.next_suffix_skipGap.mem ((skipGap_suffix _ _).mem (ih later))

/-- A text whose last token is a line end is settled, unless it ends in a comment. -/
theorem settled_of_endOfLine (cursor : Cursor)
    (ended : ∀ token, cursor.tokens.dropLast.getLast? = some token → token.kind = .endOfLine)
    (closed : ClosesComments cursor.rest) : cursor.Settled := by
  induction cursor using tokens_induction with
  | last cursor final => exact .last final closed
  | more cursor going ih =>
    have shape : cursor.tokens.dropLast = cursor.next.1 :: cursor.next.2.tokens.dropLast := by
      rw [tokens_of_ne_endOfData going, List.dropLast_cons_of_ne_nil (tokens_ne_nil _)]
    have final := List.getLast?_eq_some_getLast (l := cursor.tokens.dropLast) (by simp [shape])
    have listed := List.dropLast_subset _ (List.mem_of_getLast? final)
    refine .more going (newline_mem_of_mem_tokens listed (ended _ final))
      (ih (fun token found => ?_) (closed.of_suffix cursor.next_suffix))
    refine ended token ?_
    rw [shape, List.getLast?_cons, found]
    rfl

end Cursor

end GpuScript
