import GpuScript.Proofs.Text.Lines

/-!
# Lines that end with carriage returns

A text with a carriage return before each of its line ends. A carriage return is blank, as a line
end is, so it stands where everything but the stored text of a shader looks for blanks: the text has
the same lines, each with a carriage return before its end (`physicalLines_withReturns`), and the
same words and blank lines.
-/

namespace GpuScript.Text

/-- The text with a carriage return before each line end. -/
def withReturns (text : List Char) : List Char :=
  text.flatMap fun character => if character = '\n' then ['\r', '\n'] else [character]

/-- A line end gets a carriage return before it. -/
theorem withReturns_newline (rest : List Char) :
    withReturns ('\n' :: rest) = '\r' :: '\n' :: withReturns rest :=
  rfl

/-- Another character stays as it is. -/
theorem withReturns_cons {character : Char} (other : character ≠ '\n') (rest : List Char) :
    withReturns (character :: rest) = character :: withReturns rest := by
  rw [withReturns, List.flatMap_cons, if_neg other]
  rfl

/-- Texts get their carriage returns one behind the other. -/
theorem withReturns_append (first second : List Char) :
    withReturns (first ++ second) = withReturns first ++ withReturns second :=
  List.flatMap_append

/-- A text without line ends stays as it is. -/
theorem withReturns_of_open {line : List Char} (open_ : '\n' ∉ line) : withReturns line = line := by
  induction line with
  | nil => rfl
  | cons first rest ih =>
    have other : first ≠ '\n' := fun same => open_ (same ▸ List.mem_cons_self)
    have later : '\n' ∉ rest := fun listed => open_ (List.mem_cons_of_mem _ listed)
    rw [withReturns_cons other, ih later]

/-- No other character comes in. -/
theorem mem_withReturns {character : Char} (other : character ≠ '\r') (text : List Char) :
    character ∈ withReturns text ↔ character ∈ text := by
  induction text with
  | nil => rfl
  | cons first rest ih =>
    by_cases ends : first = '\n'
    · subst ends
      rw [withReturns_newline, List.mem_cons, List.mem_cons, List.mem_cons, ih]
      exact or_iff_right other
    · rw [withReturns_cons ends, List.mem_cons, List.mem_cons, ih]

section Predicates

variable {keeps : Char → Bool} (alike : keeps '\r' = keeps '\n')
include alike

/-- What does not tell a carriage return from a line end holds of a text with carriage returns if it
holds of the text. -/
theorem all_withReturns (text : List Char) : (withReturns text).all keeps = text.all keeps := by
  induction text with
  | nil => rfl
  | cons first rest ih =>
    by_cases ends : first = '\n'
    · subst ends
      rw [withReturns_newline, List.all_cons, List.all_cons, List.all_cons, ih, alike,
        ← Bool.and_assoc, Bool.and_self]
    · rw [withReturns_cons ends, List.all_cons, List.all_cons, ih]

/-- What does not tell a carriage return from a line end cuts off the same front. -/
theorem takeWhile_withReturns (text : List Char) :
    (withReturns text).takeWhile keeps = withReturns (text.takeWhile keeps) := by
  induction text with
  | nil => rfl
  | cons first rest ih =>
    by_cases ends : first = '\n'
    · subst ends
      rw [withReturns_newline, List.takeWhile_cons, List.takeWhile_cons, List.takeWhile_cons, alike,
        ih]
      cases keeps '\n' <;> rfl
    · rw [withReturns_cons ends, List.takeWhile_cons, List.takeWhile_cons, ih]
      cases keeps first with
      | false => rfl
      | true => exact (withReturns_cons ends _).symm

end Predicates

/-- The lines of a text with carriage returns are its lines with carriage returns. -/
theorem physicalLines_withReturns (text : List Char) :
    physicalLines (withReturns text) = (physicalLines text).map withReturns := by
  induction text using lines_induction with
  | empty => rfl
  | last line nonempty open_ =>
    rw [withReturns_of_open open_, physicalLines_of_open nonempty open_, List.map_singleton,
      withReturns_of_open open_]
  | closed line rest open_ ih =>
    have inner : '\n' ∉ line ++ ['\r'] := by
      intro listed
      rcases List.mem_append.mp listed with before | last
      · exact open_ before
      · exact absurd (List.mem_singleton.mp last) (by decide)
    have own : withReturns (line ++ ['\n']) = line ++ ['\r'] ++ ['\n'] := by
      rw [withReturns_append, withReturns_of_open open_, List.append_assoc]
      rfl
    have whole : withReturns (line ++ '\n' :: rest) =
        (line ++ ['\r']) ++ '\n' :: withReturns rest := by
      rw [withReturns_append, withReturns_of_open open_, withReturns_newline, List.append_assoc]
      rfl
    rw [whole, physicalLines_cons inner, physicalLines_cons open_, List.map_cons, ih, own]

/-- Text before a comment has its carriage returns as the whole line has them. -/
theorem beforeComment_withReturns (line : List Char) :
    beforeComment (withReturns line) = withReturns (beforeComment line) :=
  takeWhile_withReturns (by decide) line

/-- A line is blank with a carriage return if it is so without. -/
theorem isBlankLine_withReturns (line : List Char) :
    isBlankLine (withReturns line) = isBlankLine line := by
  rw [isBlankLine, beforeComment_withReturns, all_withReturns (by decide), isBlankLine]

/-- Blank characters at the end of a text are trimmed. -/
theorem trimEnd_append {blanks : List Char} (blank : ∀ character ∈ blanks, isBlank character = true)
    (text : List Char) : trimEnd (text ++ blanks) = trimEnd text := by
  have passed : ∀ character ∈ blanks.reverse, isBlank character = true :=
    fun character listed => blank character (List.mem_reverse.mp listed)
  rw [trimEnd, List.reverse_append, List.dropWhile_append_of_pos passed, trimEnd]

/-- A physical line is trimmed to the same text with a carriage return and without. -/
theorem trimEnd_withReturns {text line : List Char} (listed : line ∈ physicalLines text) :
    trimEnd (withReturns line) = trimEnd line := by
  obtain ⟨_, open_ | ⟨content, open_, rfl⟩⟩ := physicalLine_cases listed
  · rw [withReturns_of_open open_]
  · have ending : withReturns ['\n'] = ['\r', '\n'] := rfl
    have returned : ∀ character ∈ ['\r', '\n'], isBlank character = true :=
      List.all_eq_true.mp (by decide)
    have plain : ∀ character ∈ ['\n'], isBlank character = true :=
      List.all_eq_true.mp (by decide)
    rw [withReturns_append, withReturns_of_open open_, ending, trimEnd_append returned,
      trimEnd_append plain]

/-- The pieces between blanks are the same with carriage returns, apart from empty ones behind the
first piece. -/
theorem exists_pieces_withReturns (text : List Char) :
    ∃ piece others returned, pieces isBlank text = piece :: others ∧
      pieces isBlank (withReturns text) = piece :: returned ∧
      returned.filter (fun piece => !piece.isEmpty) =
        others.filter fun piece => !piece.isEmpty := by
  induction text with
  | nil => exact ⟨[], [], [], rfl, rfl, rfl⟩
  | cons first rest ih =>
    obtain ⟨piece, others, returned, plain, inner, same⟩ := ih
    by_cases ends : first = '\n'
    · subst ends
      refine ⟨[], piece :: others, [] :: piece :: returned, ?_, ?_, ?_⟩
      · rw [pieces_cons_of_separates (by decide), plain]
      · rw [withReturns_newline, pieces_cons_of_separates (by decide),
          pieces_cons_of_separates (by decide), inner]
      · rw [List.filter_cons_of_neg (by simp), List.filter_cons, List.filter_cons, same]
    · rw [withReturns_cons ends]
      by_cases blank : isBlank first = true
      · refine ⟨[], piece :: others, piece :: returned, ?_, ?_, ?_⟩
        · rw [pieces_cons_of_separates blank, plain]
        · rw [pieces_cons_of_separates blank, inner]
        · rw [List.filter_cons, List.filter_cons, same]
      · refine ⟨first :: piece, others, returned, ?_, ?_, same⟩
        · simp only [pieces, plain, blank, Bool.false_eq_true, ↓reduceIte]
        · simp only [pieces, inner, blank, Bool.false_eq_true, ↓reduceIte]

/-- A text has the same words with carriage returns and without. -/
theorem words_withReturns (text : List Char) : words (withReturns text) = words text := by
  obtain ⟨piece, others, returned, plain, inner, same⟩ := exists_pieces_withReturns text
  rw [words, words, plain, inner, List.filter_cons, List.filter_cons, same]

end GpuScript.Text
