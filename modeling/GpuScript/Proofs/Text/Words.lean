import GpuScript.Proofs.Token.Words
import Mathlib.Data.List.TakeWhile

/-!
# Words of a text

The words of a text are what blanks stand around. A blank at the front belongs to none of them
(`words_cons`), and a run of other characters up to a blank or to the end is one (`words_append`);
from these two the words of any text are read off its front (`words_cases`).
-/

namespace GpuScript.Text

/-- A text that a word may stand in front of: nothing, or what opens with a blank. -/
def OpensBlank (rest : List Char) : Prop :=
  ∀ first ∈ rest.head?, isBlank first = true

/-- There are no words in nothing. -/
theorem words_nil : words [] = [] :=
  rfl

/-- A blank at the front belongs to no word. -/
theorem words_cons {blank : Char} (separates : isBlank blank = true) (rest : List Char) :
    words (blank :: rest) = words rest := by
  rw [words, pieces_cons_of_separates separates, List.filter_cons_of_neg (by simp), words]

/-- Blanks at the front belong to no word. -/
theorem words_trimStart (text : List Char) : words (trimStart text) = words text := by
  induction text with
  | nil => rfl
  | cons first rest ih =>
    rw [trimStart, List.dropWhile_cons]
    split
    · rename_i blank
      rw [words_cons blank]
      exact ih
    · rfl

/-- A run of characters that are not blank is a word in front of a blank or of nothing. -/
theorem words_append {word rest : List Char} (nonempty : word ≠ [])
    (plain : ∀ character ∈ word, isBlank character = false) (ends : OpensBlank rest) :
    words (word ++ rest) = word :: words rest := by
  have whole : pieces isBlank word = [word] := pieces_of_plain plain
  have kept (others : List (List Char)) :
      (word :: others).filter (fun piece => !piece.isEmpty) =
        word :: others.filter fun piece => !piece.isEmpty := by
    simp [nonempty]
  cases rest with
  | nil =>
    rw [List.append_nil, words, whole, kept]
    rfl
  | cons blank rest =>
    have separates : isBlank blank = true := ends blank rfl
    rw [words, pieces_append_cons separates, whole, List.singleton_append, kept,
      words_cons separates, words]

/-- Behind its blanks a text has nothing, or it opens with its first word. -/
theorem words_cases (text : List Char) :
    (trimStart text = [] ∧ words text = []) ∨
      ∃ word rest, word ≠ [] ∧ (∀ character ∈ word, isBlank character = false) ∧
        OpensBlank rest ∧ trimStart text = word ++ rest ∧ words text = word :: words rest := by
  obtain ⟨blanks, after, rfl, blank, opens⟩ := exists_span isBlank text
  have trimmed : trimStart (blanks ++ after) = after := (span_append blank opens).2
  rw [← words_trimStart, trimmed]
  cases after with
  | nil => exact .inl ⟨rfl, words_nil⟩
  | cons first others =>
    have own : isBlank first = false := opens first rfl
    obtain ⟨word, rest, rfl, plain, ends⟩ :=
      exists_span (fun character => !isBlank character) others
    have whole : ∀ character ∈ first :: word, isBlank character = false :=
      List.forall_mem_cons.mpr ⟨own, fun character listed => by simpa using plain character listed⟩
    have stops : OpensBlank rest := fun next found => by simpa using ends next found
    exact .inr ⟨first :: word, rest, List.cons_ne_nil _ _, whole, stops, rfl,
      words_append (List.cons_ne_nil _ _) whole stops⟩

/-- A text without words is blank. -/
theorem words_eq_nil_iff {text : List Char} : words text = [] ↔ text.all isBlank = true := by
  rw [List.all_eq_true, ← List.dropWhile_eq_nil_iff, ← trimStart]
  rcases words_cases text with ⟨empty, none_⟩ | ⟨word, rest, nonempty, _, _, split, cut⟩
  · exact iff_of_true none_ empty
  · rw [split, cut]
    exact iff_of_false (List.cons_ne_nil _ _) (List.append_ne_nil_of_left_ne_nil nonempty rest)

/-- Nothing but what stands behind a character that is not blank is taken away from the end. -/
theorem trimEnd_append_cons (before : List Char) {last : Char} (kept : isBlank last = false)
    (after : List Char) : trimEnd (before ++ last :: after) = before ++ last :: trimEnd after := by
  have turned : (before ++ last :: after).reverse = after.reverse ++ last :: before.reverse := by
    simp
  rw [trimEnd, turned, List.dropWhile_append]
  cases left : after.reverse.dropWhile isBlank with
  | nil => simp [trimEnd, left, kept]
  | cons first others => simp [trimEnd, left]

/-- What is taken away from the end of a text is blank. -/
theorem exists_trimEnd (text : List Char) :
    ∃ blanks, text = trimEnd text ++ blanks ∧ blanks.all isBlank = true := by
  have split := List.takeWhile_append_dropWhile (p := isBlank) (l := text.reverse)
  refine ⟨(text.reverse.takeWhile isBlank).reverse, ?_, ?_⟩
  · rw [trimEnd, ← List.reverse_append, split, List.reverse_reverse]
  · rw [List.all_reverse]
    exact List.all_takeWhile

/-- Nothing is left of a text without its blanks at the end if it is blank. -/
theorem trimEnd_eq_nil_iff {text : List Char} :
    trimEnd text = [] ↔ text.all isBlank = true := by
  rw [trimEnd, List.reverse_eq_nil_iff, List.dropWhile_eq_nil_iff, List.all_eq_true]
  simp only [List.mem_reverse]

end GpuScript.Text
