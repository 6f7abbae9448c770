import GpuScript.Proofs.Text.CarriageReturns
import GpuScript.Proofs.Token.Locality
import GpuScript.Token.Line

/-!
# Tokens before carriage returns

A text has the same tokens on the same lines with a carriage return before each of its line ends
(`Cursor.tokens_withReturns`). A carriage return separates words as a line end does, and it stands
in the gap before the line end, in a comment or in a continuation, so no token has a part in it.

What is left of a text runs along with what is left of the text with carriage returns. Behind a gap
the two differ in that the carriage return before a line end has been skipped (`behindReturn`).
-/

namespace GpuScript

open Text

/-- A text starts a continuation with carriage returns if it does so without. -/
theorem startsContinuation_withReturns {text : List Char} (free : '\r' ∉ text) :
    startsContinuation (withReturns text) = startsContinuation text := by
  rcases text with _ | ⟨first, rest⟩
  · rfl
  by_cases slash : first = '\\'
  · subst slash
    rw [withReturns_cons (by decide)]
    rcases rest with _ | ⟨second, others⟩
    · rfl
    by_cases ends : second = '\n'
    · subst ends
      rfl
    · -- No carriage return comes in before another character, and none was there.
      have other : second ≠ '\r' := fun same => free (by simp [same])
      rw [withReturns_cons ends]
      simp [startsContinuation, ends, other]
  · by_cases ends : first = '\n'
    · subst ends
      rfl
    · rw [withReturns_cons ends, startsContinuation_cons slash, startsContinuation_cons slash]

/-- A word ends before the carriage return where it ends before the line end. -/
theorem splitWord_withReturns {text : List Char} (free : '\r' ∉ text) :
    splitWord (withReturns text) = ((splitWord text).1, withReturns (splitWord text).2) := by
  induction text with
  | nil => rfl
  | cons first rest ih =>
    have later : '\r' ∉ rest := fun listed => free (List.mem_cons_of_mem _ listed)
    by_cases ends : first = '\n'
    · subst ends
      rfl
    · have same := startsContinuation_withReturns free
      rw [withReturns_cons ends] at same ⊢
      rw [splitWord, splitWord, same]
      by_cases stops : (isSeparator first || startsContinuation (first :: rest)) = true
      · rw [if_pos stops, if_pos stops, withReturns_cons ends]
      · rw [if_neg stops, if_neg stops, ih later]

/-- The text with a carriage return before each line end but one that it opens with. -/
def behindReturn : List Char → List Char
  | '\n' :: rest => '\n' :: withReturns rest
  | text => withReturns text

/-- Another character than a line end is not behind a carriage return. -/
theorem behindReturn_cons {character : Char} (other : character ≠ '\n') (rest : List Char) :
    behindReturn (character :: rest) = character :: withReturns rest := by
  rw [behindReturn, withReturns_cons other]
  exact fun _ same => other (List.cons.inj same).1

/-- A comment runs up to the line end, over the carriage return before it. -/
theorem dropWhile_withReturns (text : List Char) :
    (withReturns text).dropWhile (· ≠ '\n') = behindReturn (text.dropWhile (· ≠ '\n')) := by
  induction text with
  | nil => rfl
  | cons first rest ih =>
    by_cases ends : first = '\n'
    · subst ends
      rfl
    · have passed : decide (first ≠ '\n') = true := decide_eq_true ends
      rw [withReturns_cons ends, List.dropWhile_cons, List.dropWhile_cons, if_pos passed,
        if_pos passed, ih]

namespace Cursor

/-- A gap reaches over the carriage return before a line end, and ends where it ended before. -/
theorem skipGap_withReturns {text : List Char} (free : '\r' ∉ text) (line : Nat) :
    skipGap (withReturns text) line =
      ⟨behindReturn (skipGap text line).rest, (skipGap text line).line⟩ := by
  fun_induction skipGap text line with
  | case1 => rfl
  | case2 rest line ih =>
    have later : '\r' ∉ rest := fun listed => free (by simp [listed])
    exact ih later
  | case3 rest line ih => simp at free
  | case4 rest line =>
    rw [withReturns_cons (by decide), skipGap_cons (startsContinuation_cons (by decide) _),
      if_pos rfl, dropWhile_withReturns]
  | case5 character rest line slash _ comment blank ih =>
    have later : '\r' ∉ rest := fun listed => free (List.mem_cons_of_mem _ listed)
    have plain : character ≠ '\\' := by
      intro same
      subst same
      exact absurd blank (by decide)
    rw [withReturns_cons blank.1, skipGap_cons (startsContinuation_cons plain _), if_neg comment,
      if_pos blank]
    exact ih later
  | case6 character rest line newline carriage comment blank =>
    by_cases ends : character = '\n'
    · subst ends
      -- The carriage return is blank, and the line end behind it is no part of the gap.
      rw [withReturns_newline, skipGap_cons (startsContinuation_cons (by decide) _),
        if_neg (by decide), if_pos (by decide),
        skipGap_cons (startsContinuation_cons (by decide) _), if_neg (by decide),
        if_neg (by decide)]
      rfl
    · have plain : startsContinuation (character :: rest) = false := by
        unfold startsContinuation
        split <;> simp_all
      have same := startsContinuation_withReturns free
      rw [withReturns_cons ends, plain] at same
      rw [withReturns_cons ends, skipGap_cons same, if_neg comment, if_neg blank,
        behindReturn_cons ends]

/-- What is cut off behind a gap is the same, and carriage returns stand in what is left. -/
theorem cut_behindReturn {text : List Char} (free : '\r' ∉ text) (line : Nat) :
    cut ⟨behindReturn text, line⟩ =
      ((cut ⟨text, line⟩).1,
        ⟨withReturns (cut ⟨text, line⟩).2.rest, (cut ⟨text, line⟩).2.line⟩) := by
  rcases text with _ | ⟨character, rest⟩
  · rfl
  by_cases ends : character = '\n'
  · subst ends
    rfl
  rw [behindReturn_cons ends]
  by_cases opens : character = '('
  · subst opens
    rfl
  by_cases closes : character = ')'
  · subst closes
    rfl
  by_cases percent : character = '%'
  · subst percent
    rfl
  have word (others : List Char) : cut ⟨character :: others, line⟩ =
      (⟨.ofWord (splitWord (character :: others)).1,
        String.ofList (splitWord (character :: others)).1, line⟩,
        ⟨(splitWord (character :: others)).2, line⟩) := by
    unfold cut
    split <;> simp_all
  have same := splitWord_withReturns free
  rw [withReturns_cons ends] at same
  rw [word, word, same]

/-- A step gives the same token, and carriage returns stand in what is left. -/
theorem next_withReturns {text : List Char} (free : '\r' ∉ text) (line : Nat) :
    next ⟨withReturns text, line⟩ =
      ((next ⟨text, line⟩).1,
        ⟨withReturns (next ⟨text, line⟩).2.rest, (next ⟨text, line⟩).2.line⟩) := by
  have left : '\r' ∉ (skipGap text line).rest :=
    fun listed => free ((skipGap_suffix text line).mem listed)
  have step : next ⟨withReturns text, line⟩ =
      cut ⟨behindReturn (skipGap text line).rest, (skipGap text line).line⟩ :=
    congrArg cut (skipGap_withReturns free line)
  rw [step, cut_behindReturn left]
  rfl

/-- A text has the same tokens with a carriage return before each of its line ends. -/
theorem tokens_withReturns {text : List Char} (free : '\r' ∉ text) (line : Nat) :
    tokens ⟨withReturns text, line⟩ = tokens ⟨text, line⟩ := by
  generalize start : (⟨text, line⟩ : Cursor) = cursor
  induction cursor using tokens_induction generalizing text line with
  | last cursor final =>
    subst start
    have step := next_withReturns free line
    have kind : (next ⟨withReturns text, line⟩).1.kind = .endOfData := by
      rw [step]
      exact final
    rw [tokens_of_endOfData kind, tokens_of_endOfData final, step]
  | more cursor going ih =>
    subst start
    have step := next_withReturns free line
    have left : '\r' ∉ (next ⟨text, line⟩).2.rest :=
      fun listed => free ((next_suffix ⟨text, line⟩).mem listed)
    have kind : (next ⟨withReturns text, line⟩).1.kind ≠ .endOfData := by
      rw [step]
      exact going
    have inner := ih left (next ⟨text, line⟩).2.line rfl
    rw [tokens_of_ne_endOfData kind, tokens_of_ne_endOfData going, step]
    exact congrArg (_ :: ·) inner

end Cursor

end GpuScript
