import GpuScript.Proofs.Token.Locality
import GpuScript.Proofs.Token.Runs
import GpuScript.Proofs.Token.Shift
import Mathlib.Data.List.Basic

/-!
# Logical lines as texts

A physical line belongs to the logical line of the next one if a backslash stands before its line
end and no comment before the backslash; this can be told without cutting the line into tokens
(`endsLogicalLine_iff_closes`). So the logical lines of a text are texts themselves, each with the
number of physical lines above it, and what a text is read as line by line is what these texts are
read as on their own (`TokenLine.ofText_eq_flatMap_contentLines`).
-/

namespace GpuScript

open Text

/-- A physical line goes on in the next one: it has no comment, and a backslash stands before its
line end. -/
def IsContinued (line : List Char) : Prop :=
  '#' ∉ line ∧ (['\\', '\n'] <:+ line ∨ ['\\', '\r', '\n'] <:+ line)

instance : DecidablePred IsContinued := fun _ =>
  inferInstanceAs (Decidable (_ ∧ _))

/-- A physical line is the last one of its logical line: its line end continues nothing. -/
def ClosesLogicalLine (line : List Char) : Prop :=
  '\n' ∈ line ∧ ¬ IsContinued line

instance : DecidablePred ClosesLogicalLine := fun _ =>
  inferInstanceAs (Decidable (_ ∧ _))

/-- A text has no line end but at its end. -/
def IsOneLine (text : List Char) : Prop :=
  '\n' ∉ text.dropLast

/-- The last characters of one line are one line. -/
theorem IsOneLine.of_suffix {text rest : List Char} (single : IsOneLine text)
    (part : rest <:+ text) : IsOneLine rest := by
  obtain ⟨passed, rfl⟩ := part
  intro inside
  have nonempty : rest ≠ [] := by
    rintro rfl
    cases inside
  refine single ?_
  rw [List.dropLast_append_of_ne_nil nonempty]
  exact List.mem_append_right _ inside

/-- Nothing stands behind the line end of one line. -/
theorem IsOneLine.eq_nil {rest : List Char} (single : IsOneLine ('\n' :: rest)) : rest = [] := by
  cases rest with
  | nil => rfl
  | cons character others => exact absurd List.mem_cons_self single

/-- A physical line is one line. -/
theorem isOneLine_of_mem {text line : List Char} (physical : line ∈ physicalLines text) :
    IsOneLine line := by
  obtain ⟨_, open_ | ⟨content, open_, rfl⟩⟩ := physicalLine_cases physical
  · exact fun inside => open_ (List.dropLast_subset _ inside)
  · rw [IsOneLine, List.dropLast_concat]
    exact open_

/-- Nothing at all closes nothing. -/
theorem not_closesLogicalLine_nil : ¬ ClosesLogicalLine [] := by
  decide

/-- A line end alone closes. -/
theorem closesLogicalLine_newline : ClosesLogicalLine ['\n'] := by
  decide

/-- Whether a line closes does not depend on a character in front of it that is no line end and
opens neither a comment nor a continuation. -/
theorem closesLogicalLine_cons {character : Char} {rest : List Char} (inner : character ≠ '\n')
    (comment : character ≠ '#') (plain : startsContinuation (character :: rest) = false) :
    ClosesLogicalLine (character :: rest) ↔ ClosesLogicalLine rest := by
  have first : ['\\', '\n'] ≠ character :: rest := fun same => by
    rw [← same] at plain
    cases plain
  have second : ['\\', '\r', '\n'] ≠ character :: rest := fun same => by
    rw [← same] at plain
    cases plain
  simp only [ClosesLogicalLine, IsContinued, List.mem_cons, List.suffix_cons_iff, first, second,
    inner.symm, comment.symm, false_or]

/-- Whether a line closes is told behind its first word. -/
theorem closesLogicalLine_splitWord (text : List Char) :
    ClosesLogicalLine text ↔ ClosesLogicalLine (splitWord text).2 := by
  fun_induction splitWord text with
  | case1 => exact Iff.rfl
  | case2 => exact Iff.rfl
  | case3 character rest plain word others equation ih =>
    obtain ⟨inner, opens⟩ := Bool.or_eq_false_iff.mp (Bool.eq_false_iff.mpr plain)
    have separates {other : Char} (same : isSeparator other = true) : character ≠ other := by
      rintro rfl
      rw [same] at inner
      cases inner
    rw [equation] at ih
    have comment : character ≠ '#' := separates (by decide)
    exact (closesLogicalLine_cons (separates isSeparator_newline) comment opens).trans ih

namespace Cursor

/-- Whether a line closes is told behind the gap at its start. -/
theorem closesLogicalLine_skipGap {text : List Char} (single : IsOneLine text) (line : Nat) :
    ClosesLogicalLine text ↔ ClosesLogicalLine (skipGap text line).rest := by
  fun_induction skipGap text line with
  | case1 => exact Iff.rfl
  | case2 rest line ih =>
    obtain rfl := (single.of_suffix (List.suffix_cons _ _)).eq_nil
    exact iff_of_false (by decide) not_closesLogicalLine_nil
  | case3 rest line ih =>
    obtain rfl := (single.of_suffix ((List.suffix_cons _ _).trans (List.suffix_cons _ _))).eq_nil
    exact iff_of_false (by decide) not_closesLogicalLine_nil
  | case4 rest line =>
    -- Behind a comment nothing but the line end is left, and in a comment it continues nothing.
    by_cases ended : '\n' ∈ rest
    · obtain ⟨content, others, open_, rfl⟩ := exists_closed_line ended
      obtain rfl := (single.of_suffix (List.suffix_append ('#' :: content) _)).eq_nil
      have stops : (content ++ ['\n']).dropWhile (fun character => decide (character ≠ '\n')) =
          ['\n'] :=
        (span_append (fun element listed => by simpa using ne_of_mem_of_not_mem listed open_)
          (by simp)).2
      rw [stops]
      exact iff_of_true ⟨List.mem_cons_of_mem _ ended, fun continued =>
        continued.1 List.mem_cons_self⟩ closesLogicalLine_newline
    · refine iff_of_false (fun closes => ?_) (fun closes => ?_)
      · exact ended ((List.mem_cons.mp closes.1).resolve_left (by decide))
      · exact ended ((List.dropWhile_suffix _).mem closes.1)
  | case5 character rest line slash _ comment blank ih =>
    have plain : character ≠ '\\' := by
      rintro rfl
      exact absurd blank (by decide)
    exact (closesLogicalLine_cons blank.1 comment (startsContinuation_cons plain rest)).trans
      (ih (single.of_suffix (List.suffix_cons _ _)))
  | case6 => exact Iff.rfl

/-- A line has a token that is a line end if it closes. -/
theorem exists_endOfLine_iff {cursor : Cursor} (single : IsOneLine cursor.rest) :
    (∃ token ∈ cursor.tokens, token.kind = .endOfLine) ↔ ClosesLogicalLine cursor.rest := by
  induction cursor using tokens_induction with
  | last cursor ended =>
    rw [closesLogicalLine_skipGap single cursor.line, skipGap_eq_nil_of_endOfData ended,
      tokens_of_endOfData ended]
    exact iff_of_false (by simp [ended]) not_closesLogicalLine_nil
  | more cursor going ih =>
    have inner := single.of_suffix (skipGap_suffix cursor.rest cursor.line)
    have others := ih (single.of_suffix cursor.next_suffix)
    -- The gap is passed over first, so each kind of token is looked at right in front of it.
    rw [closesLogicalLine_skipGap single cursor.line, tokens_of_ne_endOfData going]
    simp only [List.mem_cons, or_and_right, exists_or, exists_eq_left, others]
    rcases cursor.next_cases with ⟨_, step⟩ | ⟨rest, opens, step⟩ |
      ⟨kind, character, rest, marks, opens, step⟩ | ⟨word, rest, _, split, _, step⟩
    · simp [step] at going
    · rw [opens] at inner ⊢
      obtain rfl := inner.eq_nil
      exact iff_of_true (.inl (by rw [step])) closesLogicalLine_newline
    · rw [step, opens]
      have mark : character ≠ '\n' ∧ character ≠ '#' ∧ character ≠ '\\' ∧ kind ≠ .endOfLine := by
        simp only [List.mem_cons, Prod.mk.injEq, List.not_mem_nil, or_false] at marks
        rcases marks with ⟨rfl, rfl⟩ | ⟨rfl, rfl⟩ | ⟨rfl, rfl⟩ <;> decide
      obtain ⟨newline, comment, slash, ends⟩ := mark
      rw [or_iff_right ends]
      exact (closesLogicalLine_cons newline comment (startsContinuation_cons slash rest)).symm
    · have behind := closesLogicalLine_splitWord (skipGap cursor.rest cursor.line).rest
      rw [split] at behind
      rw [step, or_iff_right (TokenKind.ofWord_ne rfl word)]
      exact behind.symm

end Cursor

/-- The line end of a physical line ends a logical line unless it continues the line. -/
theorem endsLogicalLine_iff_closes {text line : List Char} (physical : line ∈ physicalLines text) :
    endsLogicalLine line = true ↔ ClosesLogicalLine line := by
  rw [endsLogicalLine, List.any_eq_true]
  simp only [decide_eq_true_eq]
  exact Cursor.exists_endOfLine_iff (isOneLine_of_mem physical)

namespace Text

variable {α : Type}

/-- A list falls into the same runs if the same of its elements close. -/
theorem splitAfter_congr {closes other : α → Bool} {elements : List α}
    (agree : ∀ element ∈ elements, closes element = other element) :
    splitAfter closes elements = splitAfter other elements := by
  induction elements with
  | nil => rfl
  | cons element rest ih =>
    obtain ⟨own, others⟩ := List.forall_mem_cons.mp agree
    rw [splitAfter, splitAfter, own, ih others]

/-- Lists one behind the other, each with the number of its first element. -/
def numbered (first : Nat) : List (List α) → List (Located (List α))
  | [] => []
  | list :: rest => ⟨first, list⟩ :: numbered (first + list.length) rest

/-- Lists keep their elements when they are numbered. -/
theorem map_cause_numbered (first : Nat) (lists : List (List α)) :
    (numbered first lists).map Located.cause = lists := by
  induction lists generalizing first with
  | nil => rfl
  | cons list rest ih => rw [numbered, List.map_cons, ih]

/-- Counting from a greater number adds to all numbers. -/
theorem numbered_add (first count : Nat) (lists : List (List α)) :
    numbered (first + count) lists = (numbered first lists).map (Located.shift count) := by
  induction lists generalizing first with
  | nil => rfl
  | cons list rest ih =>
    rw [numbered, numbered, Nat.add_right_comm, ih]
    rfl

/-- Runs of numbered elements are numbered runs. -/
theorem splitAfter_zipIdx (closes : α → Bool) (elements : List α) (first : Nat) :
    splitAfter (fun element => closes element.1) (elements.zipIdx first) =
      (numbered first (splitAfter closes elements)).map fun run => run.cause.zipIdx run.line := by
  induction elements generalizing first with
  | nil => rfl
  | cons element rest ih =>
    rw [List.zipIdx_cons, splitAfter, splitAfter, ih]
    by_cases ends : closes element = true
    · rw [if_pos ends, if_pos ends]
      rfl
    · rw [if_neg ends, if_neg ends]
      cases splitAfter closes rest with
      | nil => rfl
      | cons run others =>
        simp [numbered, List.zipIdx_cons, Nat.add_comm, Nat.add_left_comm]

/-- Elements that give nothing may be left out before the others are taken together. -/
theorem flatMap_filter_of_nil {β : Type} {keep : α → Bool} {gather : α → List β}
    (nothing : ∀ element, keep element = false → gather element = []) (elements : List α) :
    (elements.filter keep).flatMap gather = elements.flatMap gather := by
  induction elements with
  | nil => rfl
  | cons element rest ih =>
    cases kept : keep element with
    | true => rw [List.filter_cons_of_pos kept, List.flatMap_cons, List.flatMap_cons, ih]
    | false =>
      rw [List.filter_cons_of_neg (by simp [kept]), List.flatMap_cons, nothing element kept, ih,
        List.nil_append]

end Text

namespace TokenLine

/-- The logical lines of a text as texts, with or without tokens, each with the number of its first
physical line. -/
def logicalTexts (text : String) (firstLine : Nat) : List (Located String) :=
  (numbered firstLine (splitAfter (fun line => decide (ClosesLogicalLine line))
    (physicalLines text.toList))).map fun run => ⟨run.line, String.ofList run.cause.flatten⟩

/-- The logical lines of a text that have a token, as texts, each with the number of physical lines
above it. -/
def contentLines (text : String) : List (Located String) :=
  (logicalTexts text 0).filter fun line => !(ofText line.cause 0).isEmpty

/-- The runs of physical lines are the logical lines. -/
theorem runs_eq (text : String) (firstLine : Nat) :
    runs text firstLine =
      (numbered firstLine (splitAfter (fun line => decide (ClosesLogicalLine line))
        (physicalLines text.toList))).map fun run => run.cause.zipIdx run.line := by
  rw [← splitAfter_zipIdx, runs]
  refine splitAfter_congr fun line listed => ?_
  have physical := List.mem_of_getElem? (List.mem_zipIdx_iff_le_and_getElem?_sub.mp listed).2
  rw [Bool.eq_iff_iff, decide_eq_true_iff, endsLogicalLine_iff_closes physical]

/-- A run of physical lines gives the same logical line, or none, as a text of its own. -/
theorem ofText_of_mem_numbered {text : String} {firstLine : Nat} {run : Located (List (List Char))}
    (listed : run ∈ numbered firstLine (splitAfter (fun line => decide (ClosesLogicalLine line))
      (physicalLines text.toList))) :
    ofText (String.ofList run.cause.flatten) run.line =
      (ofRun? (run.cause.zipIdx run.line)).toList := by
  have inside : run.cause.zipIdx run.line ∈ runs text firstLine := by
    rw [runs_eq]
    exact List.mem_map_of_mem listed
  have among := List.mem_map_of_mem (f := Located.cause) listed
  rw [map_cause_numbered] at among
  have part := List.sublist_flatten_of_mem among
  rw [flatten_splitAfter] at part
  have lines : physicalLines run.cause.flatten = run.cause :=
    (areLines_physicalLines text.toList).sublist part
  rw [ofText_eq_ofTokens, String.toList_ofList, lines, ofTokens_run inside]

/-- The logical lines of a text are those of its lines as texts of their own. -/
theorem ofText_eq_flatMap_logicalTexts (text : String) (firstLine : Nat) :
    ofText text firstLine =
      (logicalTexts text firstLine).flatMap fun line => ofText line.cause line.line := by
  rw [ofText_eq_filterMap_runs, runs_eq, List.filterMap_map, List.filterMap_eq_flatMap_toList,
    logicalTexts, List.flatMap_map]
  exact List.flatMap_congr fun run listed => (ofText_of_mem_numbered listed).symm

/-- A logical line as a text of its own is one logical line or none. -/
theorem exists_ofText_eq_toList {text : String} {firstLine : Nat} {line : Located String}
    (listed : line ∈ logicalTexts text firstLine) :
    ∃ own : Option TokenLine, ofText line.cause line.line = own.toList := by
  obtain ⟨run, inside, rfl⟩ := List.mem_map.mp listed
  exact ⟨_, ofText_of_mem_numbered inside⟩

/-- A text has as many logical lines whatever the number of its first line. -/
theorem length_ofText (text : String) (firstLine : Nat) :
    (ofText text firstLine).length = (ofText text 0).length := by
  have counted := ofText_add text 0 firstLine
  rw [Nat.zero_add] at counted
  rw [counted, List.length_map]

/-- A line with a token is one logical line on its own. -/
theorem exists_ofText_eq_singleton {text : String} {line : Located String}
    (listed : line ∈ contentLines text) (firstLine : Nat) :
    ∃ own, ofText line.cause firstLine = [own] := by
  obtain ⟨inside, filled⟩ := List.mem_filter.mp listed
  obtain ⟨own?, single⟩ := exists_ofText_eq_toList inside
  have most : (ofText line.cause line.line).length ≤ 1 := by
    rw [single]
    exact Option.length_toList_le
  have least : 0 < (ofText line.cause 0).length :=
    List.length_pos_iff.mpr (by simpa using filled)
  rw [length_ofText] at most
  exact List.length_eq_one_iff.mp (by rw [length_ofText]; omega)

/-- The logical lines of a text are those of its lines with tokens, each on its own. -/
theorem ofText_eq_flatMap_contentLines (text : String) (firstLine : Nat) :
    ofText text firstLine =
      (contentLines text).flatMap fun line => ofText line.cause (firstLine + line.line) := by
  have shifted : logicalTexts text firstLine =
      (logicalTexts text 0).map (Located.shift firstLine) := by
    have counted := numbered_add 0 firstLine
      (splitAfter (fun line => decide (ClosesLogicalLine line)) (physicalLines text.toList))
    rw [Nat.zero_add] at counted
    rw [logicalTexts, counted, List.map_map, logicalTexts, List.map_map]
    rfl
  have nothing (line : Located String) (blank : (!(ofText line.cause 0).isEmpty) = false) :
      ofText line.cause (firstLine + line.line) = [] := by
    have none_ : ofText line.cause 0 = [] := by simpa using blank
    exact List.length_eq_zero_iff.mp (by rw [length_ofText, none_, List.length_nil])
  rw [contentLines, flatMap_filter_of_nil nothing, ofText_eq_flatMap_logicalTexts, shifted,
    List.flatMap_map]
  exact List.flatMap_congr fun line _ => by rw [Nat.add_comm]; rfl

end TokenLine

end GpuScript
