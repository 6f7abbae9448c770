import GpuScript.Proofs.Token.Unplaced
import Mathlib.Data.List.Flatten

/-!
# Physical lines that belong together

A continuation joins a physical line to the next one. The physical lines of a text therefore fall
into runs, and each run makes up one logical line or, if it has no token, none
(`TokenLine.ofText_eq_filterMap_runs`). A text with some of the runs taken out has the logical lines
of those that are left, apart from their numbers (`TokenLine.map_unplaced_ofText_keepText`).
-/

namespace GpuScript

open Text

/-- The line end of a physical line ends a logical line: it is a token, and no part of a
continuation. -/
def endsLogicalLine (line : List Char) : Bool :=
  (Cursor.tokens ⟨line, 0⟩).any (·.kind = .endOfLine)

/-- The tokens on a physical line with its number. -/
def tokensOnLine (line : List Char × Nat) : List Token :=
  (Cursor.tokens ⟨line.1, line.2⟩).dropLast

namespace TokenLine

/-- The numbered physical lines of a text, with those together that continuations join. -/
def runs (text : String) (firstLine : Nat) : List (List (List Char × Nat)) :=
  splitAfter (fun line => endsLogicalLine line.1)
    ((physicalLines text.toList).zipIdx firstLine)

/-- The logical line that physical lines make up, if they have a token. -/
def ofRun? (run : List (List Char × Nat)) : Option TokenLine :=
  (ofTokens (run.flatMap tokensOnLine)).head?

/-- The text without the physical lines whose logical line, or lack of one, is not to be kept. -/
def keepText (keep : Option TokenLine → Bool) (text : String) (firstLine : Nat) : String :=
  String.ofList ((((runs text firstLine).filter fun run => keep (ofRun? run)).flatten.map
    Prod.fst).flatten)

end TokenLine

namespace Cursor

/-- No token but the last one is the end of data. -/
theorem kind_ne_endOfData_of_mem {cursor : Cursor} {token : Token}
    (listed : token ∈ cursor.tokens.dropLast) : token.kind ≠ .endOfData := by
  induction cursor using tokens_induction with
  | last cursor final => simp [tokens_of_endOfData final] at listed
  | more cursor going ih =>
    rw [tokens_of_ne_endOfData going, List.dropLast_cons_of_ne_nil (tokens_ne_nil _)] at listed
    rcases List.mem_cons.mp listed with rfl | later
    · exact going
    · exact ih later

end Cursor

/-- Whether a physical line ends a logical line does not depend on its number. -/
theorem endsLogicalLine_iff {line : List Char} (number : Nat) :
    endsLogicalLine line = true ↔
      ∃ token ∈ tokensOnLine (line, number), token.kind.isEnd = true := by
  have kinds : (Cursor.tokens ⟨line, 0⟩).map Token.kind =
      (Cursor.tokens ⟨line, number⟩).map Token.kind := by
    have same := congrArg (List.map Token.kind) (Cursor.map_unplaced_tokens line 0 number)
    rwa [List.map_map, List.map_map] at same
  have among : endsLogicalLine line = true ↔
      TokenKind.endOfLine ∈ (Cursor.tokens ⟨line, number⟩).map Token.kind := by
    rw [← kinds, endsLogicalLine, List.any_eq_true, List.mem_map]
    simp only [decide_eq_true_eq]
  rw [among, Cursor.tokens_eq_dropLast, List.map_append, List.mem_append]
  constructor
  · intro listed
    have before := listed.resolve_right (by simp)
    obtain ⟨token, found, kind⟩ := List.mem_map.mp before
    exact ⟨token, found, kind ▸ rfl⟩
  · rintro ⟨token, found, ends⟩
    have other := Cursor.kind_ne_endOfData_of_mem found
    have kind : token.kind = .endOfLine := by
      revert other ends
      cases token.kind <;> simp [TokenKind.isEnd]
    exact Or.inl (List.mem_map.mpr ⟨token, found, kind⟩)

/-- The tokens on a physical line end no logical line, or its last token alone does. -/
theorem tokensOnLine_cases {text line : List Char} (physical : line ∈ physicalLines text)
    (number : Nat) :
    (endsLogicalLine line = false ∧
      ∀ token ∈ tokensOnLine (line, number), token.kind.isEnd = false) ∨
    ∃ init last, tokensOnLine (line, number) = init ++ [last] ∧ last.kind.isEnd = true ∧
      ∀ token ∈ init, token.kind.isEnd = false := by
  cases ends : endsLogicalLine line with
  | false =>
    refine Or.inl ⟨rfl, fun token listed => Bool.eq_false_iff.mpr fun end_ => ?_⟩
    have closes := (endsLogicalLine_iff number).mpr ⟨token, listed, end_⟩
    rw [ends] at closes
    contradiction
  | true =>
    obtain ⟨last, listed, end_⟩ := (endsLogicalLine_iff number).mp ends
    obtain ⟨init, after, split⟩ := List.append_of_mem listed
    -- All tokens have the number of the line, and it would grow behind an end.
    have own : ∀ token ∈ init ++ last :: after, token.line = number := by
      rw [← split]
      exact fun token among => Cursor.line_eq_of_mem physical among
    have ordered : InOrder (init ++ last :: after) :=
      split ▸ (Cursor.inOrder_tokens ⟨line, number⟩).sublist (List.dropLast_sublist _)
    obtain ⟨_, behind, before⟩ := List.pairwise_append.mp ordered
    have here := own last (by simp)
    have none_ : after = [] := by
      refine List.eq_nil_iff_forall_not_mem.mpr fun token among => ?_
      have grows := ((List.pairwise_cons.mp behind).1 token among).2 end_
      have there := own token (by simp [among])
      omega
    subst none_
    refine Or.inr ⟨init, last, split, end_, fun token among => ?_⟩
    refine Bool.eq_false_iff.mpr fun early => ?_
    have grows := (before token among last List.mem_cons_self).2 early
    have there := own token (by simp [among])
    omega

namespace TokenLine

/-- Tokens that end no line are one logical line. -/
theorem ofTokens_of_inner {tokens : List Token}
    (inner : ∀ token ∈ tokens, token.kind.isEnd = false) :
    ofTokens tokens = (ofList? tokens).toList := by
  have whole : pieces (fun token : Token => token.kind.isEnd) tokens = [tokens] := by
    obtain ⟨piece, others, cut⟩ := List.exists_cons_of_ne_nil
      (pieces_ne_nil (fun token : Token => token.kind.isEnd) tokens)
    rcases pieces_eq_cons cut with ⟨rfl, rfl⟩ | ⟨separator, after, ends, rfl, _⟩
    · exact cut
    · have plain := inner separator (by simp)
      rw [ends] at plain
      contradiction
  rw [ofTokens, whole]
  cases only : ofList? tokens <;> simp [only]

/-- Lists of tokens of which all but the last end with an end make up logical lines one by one. -/
theorem ofTokens_flatten {lists : List (List Token)}
    (closed : lists.Pairwise fun list _ =>
      ∃ init last, list = init ++ [last] ∧ last.kind.isEnd = true) :
    ofTokens lists.flatten = lists.flatMap ofTokens := by
  induction lists with
  | nil => rfl
  | cons list rest ih =>
    obtain ⟨own, later⟩ := List.pairwise_cons.mp closed
    rw [List.flatten_cons, List.flatMap_cons, ← ih later]
    cases rest with
    | nil => simp [ofTokens, pieces, ofList?]
    | cons second others =>
      obtain ⟨init, last, rfl, ends⟩ := own second List.mem_cons_self
      rw [List.append_assoc, List.singleton_append, ofTokens_append_cons ends,
        ofTokens_append_singleton ends]

/-- The numbered physical lines of a run stand in the text. -/
theorem mem_of_mem_runs {text : String} {firstLine : Nat} {run : List (List Char × Nat)}
    (listed : run ∈ runs text firstLine) {line : List Char × Nat} (inside : line ∈ run) :
    line.1 ∈ physicalLines text.toList := by
  have among : line ∈ (runs text firstLine).flatten := List.mem_flatten.mpr ⟨run, listed, inside⟩
  rw [runs, flatten_splitAfter] at among
  exact List.mem_of_getElem? (List.mem_zipIdx_iff_le_and_getElem?_sub.mp among).2

/-- A run makes up one logical line or none. -/
theorem ofTokens_run {text : String} {firstLine : Nat} {run : List (List Char × Nat)}
    (listed : run ∈ runs text firstLine) :
    ofTokens (run.flatMap tokensOnLine) = (ofRun? run).toList := by
  have single : ∃ line : Option TokenLine,
      ofTokens (run.flatMap tokensOnLine) = line.toList := by
    obtain ⟨init, ⟨last, number⟩, split, open_⟩ := exists_last_of_mem_splitAfter listed
    have physical : ∀ line ∈ init ++ [(last, number)], line.1 ∈ physicalLines text.toList :=
      fun line inside => mem_of_mem_runs listed (split ▸ inside)
    have inner : ∀ token ∈ init.flatMap tokensOnLine, token.kind.isEnd = false := by
      intro token found
      obtain ⟨line, inside, cut⟩ := List.mem_flatMap.mp found
      have plain := open_ line inside
      refine Bool.eq_false_iff.mpr fun ends => ?_
      rw [(endsLogicalLine_iff line.2).mpr ⟨token, cut, ends⟩] at plain
      contradiction
    rw [split, List.flatMap_append, List.flatMap_singleton]
    rcases tokensOnLine_cases (physical (last, number) (by simp)) number with
      ⟨_, plain⟩ | ⟨front, final, cut, ends, plain⟩
    · refine ⟨_, ofTokens_of_inner fun token found => ?_⟩
      exact (List.mem_append.mp found).elim (inner token) (plain token)
    · rw [cut, ← List.append_assoc, ofTokens_append_singleton ends]
      refine ⟨_, ofTokens_of_inner fun token found => ?_⟩
      exact (List.mem_append.mp found).elim (inner token) (plain token)
  obtain ⟨line, whole⟩ := single
  rw [ofRun?, whole]
  cases line <;> rfl

/-- Some of the runs of a text make up their logical lines one by one. -/
theorem ofTokens_of_sublist_runs {text : String} {firstLine : Nat}
    {kept : List (List (List Char × Nat))} (part : kept.Sublist (runs text firstLine)) :
    ofTokens (kept.flatten.flatMap tokensOnLine) = kept.filterMap ofRun? := by
  have closed : (kept.map fun run => run.flatMap tokensOnLine).Pairwise fun list _ =>
      ∃ init last, list = init ++ [last] ∧ last.kind.isEnd = true := by
    refine List.pairwise_map.mpr (((pairwise_splitAfter _ _).sublist part).imp_of_mem ?_)
    rintro run _ listed - ⟨front, ⟨line, number⟩, rfl, ends⟩
    have inside : (line, number) ∈ front ++ [(line, number)] := by simp
    have physical := mem_of_mem_runs (part.mem listed) inside
    rcases tokensOnLine_cases physical number with ⟨plain, _⟩ | ⟨init, last, cut, final, _⟩
    · rw [plain] at ends
      contradiction
    · refine ⟨front.flatMap tokensOnLine ++ init, last, ?_, final⟩
      rw [List.flatMap_append, List.flatMap_singleton, cut, List.append_assoc]
  have whole := ofTokens_flatten closed
  rw [← List.flatMap_def, List.flatMap_map] at whole
  rw [List.flatten_eq_flatMap, List.flatMap_assoc]
  refine Eq.trans whole ?_
  clear whole closed
  induction kept with
  | nil => rfl
  | cons run rest ih =>
    have listed := part.mem (List.mem_cons_self (a := run))
    rw [List.flatMap_cons, ofTokens_run listed, ih ((List.sublist_cons_self run rest).trans part),
      List.filterMap_cons]
    cases ofRun? run <;> rfl

/-- The logical lines of a text are those of its lines with their numbers. -/
theorem ofText_eq_ofTokens (text : String) (firstLine : Nat) :
    ofText text firstLine =
      ofTokens (((physicalLines text.toList).zipIdx firstLine).flatMap tokensOnLine) := by
  rw [ofText, Cursor.tokens_eq_dropLast, ofTokens_append_singleton rfl, Cursor.ofText,
    Cursor.tokens_eq_flatMap]
  rfl

/-- The logical lines of a text are those of its runs. -/
theorem ofText_eq_filterMap_runs (text : String) (firstLine : Nat) :
    ofText text firstLine = (runs text firstLine).filterMap ofRun? := by
  rw [← ofTokens_of_sublist_runs (List.Sublist.refl _), ofText_eq_ofTokens, runs,
    flatten_splitAfter]

/-- Apart from their numbers, the tokens on lines do not depend on the numbers of the lines. -/
theorem map_unplaced_flatMap_tokensOnLine (lines : List (List Char × Nat)) :
    (lines.flatMap tokensOnLine).map Token.unplaced =
      (lines.map Prod.fst).flatMap fun line => (tokensOnLine (line, 0)).map Token.unplaced := by
  induction lines with
  | nil => rfl
  | cons line rest ih =>
    have own := congrArg List.dropLast (Cursor.map_unplaced_tokens line.1 line.2 0)
    rw [← List.map_dropLast, ← List.map_dropLast] at own
    rw [List.flatMap_cons, List.map_append, ih, List.map_cons, List.flatMap_cons, tokensOnLine, own]
    rfl

/-- Apart from their numbers, the logical lines of a text that keeps only some of the lines are
those that are to be kept. -/
theorem map_unplaced_ofText_keepText (keep : Option TokenLine → Bool) (text : String)
    (firstLine otherLine : Nat) :
    (ofText (keepText keep text firstLine) otherLine).map unplaced =
      ((ofText text firstLine).filter fun line => keep (some line)).map unplaced := by
  have part : ((runs text firstLine).filter fun run => keep (ofRun? run)).Sublist
      (runs text firstLine) := List.filter_sublist
  have lines : AreLines
      ((((runs text firstLine).filter fun run => keep (ofRun? run)).flatten.map Prod.fst)) := by
    refine (areLines_physicalLines text.toList).sublist ?_
    have inner := part.flatten.map Prod.fst
    rwa [runs, flatten_splitAfter, List.zipIdx_map_fst] at inner
  have whole := congrArg (List.map unplaced) (ofTokens_of_sublist_runs part)
  rw [← ofTokens_map_unplaced, map_unplaced_flatMap_tokensOnLine, List.filterMap_filter] at whole
  rw [ofText_eq_ofTokens, keepText, String.toList_ofList, lines, ← ofTokens_map_unplaced,
    map_unplaced_flatMap_tokensOnLine, List.zipIdx_map_fst, whole, ofText_eq_filterMap_runs,
    List.filter_filterMap]
  refine congrArg (fun gather => (List.filterMap gather _).map unplaced) (funext fun run => ?_)
  cases ofRun? run with
  | none => exact ite_self none
  | some line => rfl

end TokenLine

end GpuScript
