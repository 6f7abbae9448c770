import GpuScript.Proofs.Text.Lines
import GpuScript.Proofs.Token.Locality
import GpuScript.Token.Line

/-!
# Tokens on lines

The tokens of a text are those of its physical lines, each with the number of its line
(`Cursor.tokens_eq_flatMap`). Line numbers never fall from one token to the next and grow at every
line end, so the logical lines of a text start on different physical lines, in order
(`TokenLine.pairwise_ofTokens`).
-/

namespace GpuScript

namespace Text

variable {α : Type} {separates : α → Bool}

/-- The pieces of a list end at its separators. -/
theorem pieces_append_cons {separator : α} (split : separates separator = true)
    (before after : List α) :
    pieces separates (before ++ separator :: after) =
      pieces separates before ++ pieces separates after := by
  induction before with
  | nil => rw [List.nil_append, pieces_cons_of_separates split]; rfl
  | cons first rest ih =>
    obtain ⟨piece, others, inner⟩ := List.exists_cons_of_ne_nil (pieces_ne_nil separates rest)
    rw [List.cons_append, pieces, ih, pieces, inner]
    simp only [List.cons_append]
    split <;> rfl

/-- The first piece is the list up to its first separator, and the other pieces are those of what
follows it. -/
theorem pieces_eq_cons {elements first : List α} {others : List (List α)}
    (cut : pieces separates elements = first :: others) :
    (elements = first ∧ others = []) ∨
      ∃ separator after, separates separator = true ∧ elements = first ++ separator :: after ∧
        pieces separates after = others := by
  induction elements generalizing first with
  | nil =>
    obtain ⟨rfl, rfl⟩ := List.cons.inj cut
    exact Or.inl ⟨rfl, rfl⟩
  | cons element rest ih =>
    obtain ⟨piece, later, inner⟩ := List.exists_cons_of_ne_nil (pieces_ne_nil separates rest)
    by_cases split : separates element = true
    · rw [pieces_cons_of_separates split] at cut
      obtain ⟨rfl, rfl⟩ := List.cons.inj cut
      exact Or.inr ⟨element, rest, split, rfl, rfl⟩
    · simp only [pieces, inner, split, Bool.false_eq_true, ↓reduceIte] at cut
      obtain ⟨rfl, rfl⟩ := List.cons.inj cut
      rcases ih inner with ⟨rfl, rfl⟩ | ⟨separator, after, splits, rfl, same⟩
      · exact Or.inl ⟨rfl, rfl⟩
      · exact Or.inr ⟨separator, after, splits, rfl, same⟩

/-- A piece holds elements of the list that do not separate. -/
theorem mem_of_mem_pieces {elements piece : List α} {element : α}
    (cut : piece ∈ pieces separates elements) (listed : element ∈ piece) :
    element ∈ elements ∧ separates element = false := by
  induction elements generalizing piece with
  | nil =>
    obtain rfl := List.mem_singleton.mp cut
    simp at listed
  | cons first rest ih =>
    obtain ⟨head, others, inner⟩ := List.exists_cons_of_ne_nil (pieces_ne_nil separates rest)
    by_cases split : separates first = true
    · rw [pieces_cons_of_separates split] at cut
      rcases List.mem_cons.mp cut with rfl | later
      · simp at listed
      · exact (ih later listed).imp_left (List.mem_cons_of_mem _)
    · simp only [pieces, inner, split, Bool.false_eq_true, ↓reduceIte] at cut
      rcases List.mem_cons.mp cut with rfl | later
      · rcases List.mem_cons.mp listed with rfl | later
        · exact ⟨List.mem_cons_self, Bool.eq_false_iff.mpr split⟩
        · exact (ih (inner ▸ List.mem_cons_self) later).imp_left (List.mem_cons_of_mem _)
      · exact (ih (inner ▸ List.mem_cons_of_mem _ later) listed).imp_left
          (List.mem_cons_of_mem _)

end Text

open Text

/-- Line numbers never fall from one token to the next, and they grow at every end. -/
def InOrder (tokens : List Token) : Prop :=
  tokens.Pairwise fun earlier later =>
    earlier.line ≤ later.line ∧ (earlier.kind.isEnd = true → earlier.line < later.line)

namespace TokenLine

/-- An end between tokens ends a logical line. -/
theorem ofTokens_append_cons {token : Token} (ends : token.kind.isEnd = true)
    (before after : List Token) :
    ofTokens (before ++ token :: after) = ofTokens before ++ ofTokens after := by
  have cut := @pieces_append_cons _ (fun token : Token => token.kind.isEnd) _ ends before after
  rw [ofTokens, cut, List.filterMap_append]
  rfl

/-- An end after all tokens adds no logical line. -/
theorem ofTokens_append_singleton {token : Token} (ends : token.kind.isEnd = true)
    (before : List Token) : ofTokens (before ++ [token]) = ofTokens before := by
  rw [ofTokens_append_cons ends]
  exact List.append_nil _

/-- A list of tokens has a logical line when one of its tokens is no end. -/
theorem isEmpty_ofTokens (tokens : List Token) :
    (ofTokens tokens).isEmpty = !tokens.any fun token => !token.kind.isEnd := by
  induction tokens with
  | nil => rfl
  | cons token rest ih =>
    cases ends : token.kind.isEnd with
    | true =>
      have same : ofTokens (token :: rest) = ofTokens rest := ofTokens_append_cons ends [] rest
      rw [same, ih, List.any_cons, ends]
      rfl
    | false =>
      obtain ⟨piece, others, cut⟩ := List.exists_cons_of_ne_nil
        (pieces_ne_nil (fun token : Token => token.kind.isEnd) rest)
      have opened : ofTokens (token :: rest) = ⟨token, piece⟩ :: others.filterMap ofList? := by
        simp [ofTokens, pieces, cut, ends, ofList?]
      rw [opened, List.any_cons, ends]
      rfl

/-- The tokens of a logical line are tokens of the list that end no line. -/
theorem mem_of_mem_ofTokens {tokens : List Token} {line : TokenLine} {token : Token}
    (found : line ∈ ofTokens tokens) (listed : token ∈ line.tokens) :
    token ∈ tokens ∧ token.kind.isEnd = false := by
  obtain ⟨piece, cut, whole⟩ := List.mem_filterMap.mp found
  cases piece with
  | nil => cases whole
  | cons first rest =>
    obtain rfl := Option.some.inj whole
    exact mem_of_mem_pieces cut listed

end TokenLine

namespace Cursor

/-- The last token is the end of data, on the line on which the text ends. -/
theorem tokens_eq_dropLast (cursor : Cursor) :
    cursor.tokens = cursor.tokens.dropLast ++ [⟨.endOfData, "", cursor.lastLine⟩] := by
  induction cursor using tokens_induction with
  | last cursor final =>
    rw [tokens_of_endOfData final, List.dropLast_singleton, List.nil_append]
    have empty := skipGap_eq_nil_of_endOfData final
    rw [← line_skipGap_of_nil empty, next, cut, empty]
  | more cursor going ih =>
    rw [tokens_of_ne_endOfData going, List.dropLast_cons_of_ne_nil (tokens_ne_nil _),
      List.cons_append, ← next_lastLine, ← ih]

/-- The tokens open with the next token. -/
theorem head?_tokens (cursor : Cursor) : cursor.tokens.head? = some cursor.peek := by
  by_cases ended : cursor.next.1.kind = .endOfData
  · rw [tokens_of_endOfData ended]
    rfl
  · rw [tokens_of_ne_endOfData ended]
    rfl

/-- A gap never goes back to a line before. -/
theorem le_line_skipGap (cursor : Cursor) :
    cursor.line ≤ (skipGap cursor.rest cursor.line).line := by
  have kept := skipGap_lastLine cursor.rest cursor.line
  have fewer := (skipGap_suffix cursor.rest cursor.line).sublist.count_le '\n'
  rw [lastLine] at kept
  omega

/-- A step moves on to the next line exactly when it passes over a line end. -/
theorem line_next (cursor : Cursor) :
    cursor.next.2.line = cursor.next.1.line + if cursor.next.1.kind = .endOfLine then 1 else 0 := by
  rcases cursor.next_cases with ⟨_, step⟩ | ⟨_, _, step⟩ | ⟨kind, _, _, listed, _, step⟩ |
    ⟨word, _, _, _, _, step⟩
  · rw [step]
    rfl
  · rw [step]
    rfl
  · rw [step, if_neg (by rintro rfl; simp at listed)]
    rfl
  · rw [step, if_neg (TokenKind.ofWord_ne rfl word)]
    rfl

/-- No token at a cursor stands on a line before that of the cursor. -/
theorem line_le_of_mem_tokens {cursor : Cursor} {token : Token}
    (listed : token ∈ cursor.tokens) : cursor.line ≤ token.line := by
  have gap (cursor : Cursor) := cursor.next_line ▸ cursor.le_line_skipGap
  induction cursor using tokens_induction with
  | last cursor final =>
    rw [tokens_of_endOfData final, List.mem_singleton] at listed
    exact listed ▸ gap cursor
  | more cursor going ih =>
    rw [tokens_of_ne_endOfData going] at listed
    rcases List.mem_cons.mp listed with rfl | later
    · exact gap cursor
    · have onward := ih later
      have step := cursor.line_next
      have here := gap cursor
      omega

/-- No token stands on a line before that of an earlier token, and a token after a line end stands
on a later line. -/
theorem inOrder_tokens (cursor : Cursor) : InOrder cursor.tokens := by
  induction cursor using tokens_induction with
  | last cursor final =>
    rw [tokens_of_endOfData final]
    exact List.pairwise_singleton _ _
  | more cursor going ih =>
    rw [tokens_of_ne_endOfData going, InOrder, List.pairwise_cons]
    refine ⟨fun later listed => ?_, ih⟩
    have onward := line_le_of_mem_tokens listed
    have step := cursor.line_next
    refine ⟨by omega, fun ends => ?_⟩
    have line : cursor.next.1.kind = .endOfLine := by
      revert going ends
      cases cursor.next.1.kind <;> simp [TokenKind.isEnd]
    rw [if_pos line] at step
    omega

/-- The tokens of a text are those of its physical lines, in order. -/
theorem tokens_eq_flatMap (text : List Char) (firstLine : Nat) :
    (tokens ⟨text, firstLine⟩).dropLast =
      ((physicalLines text).zipIdx firstLine).flatMap fun (line, number) =>
        (tokens ⟨line, number⟩).dropLast := by
  induction text using lines_induction generalizing firstLine with
  | empty =>
    have final : (⟨[], firstLine⟩ : Cursor).next.1.kind = .endOfData := rfl
    rw [tokens_of_endOfData final]
    rfl
  | last line nonempty open_ =>
    rw [physicalLines_of_open nonempty open_]
    simp
  | closed line rest open_ ih =>
    have settled := settled_of_getLast ⟨line ++ ['\n'], firstLine⟩ (by simp)
    have split := settled.tokens_append rest
    have ends : lastLine ⟨line ++ ['\n'], firstLine⟩ = firstLine + 1 := by
      simp [lastLine, List.count_eq_zero.mpr open_]
    rw [append, ends, List.append_assoc, List.singleton_append] at split
    rw [split, List.dropLast_append_of_ne_nil (tokens_ne_nil _), ih, physicalLines_cons open_]
    rfl

/-- A token before the end of data stands in the text, and its line is the last one less the line
ends from the token on. -/
theorem exists_suffix_of_mem {cursor : Cursor} {token : Token}
    (listed : token ∈ cursor.tokens.dropLast) :
    ∃ after, token.text.toList ≠ [] ∧ token.text.toList ++ after <:+ cursor.rest ∧
      token.line + (token.text.toList ++ after).count '\n' = cursor.lastLine := by
  induction cursor using tokens_induction with
  | last cursor final => simp [tokens_of_endOfData final] at listed
  | more cursor going ih =>
    rw [tokens_of_ne_endOfData going, List.dropLast_cons_of_ne_nil (tokens_ne_nil _)] at listed
    rcases List.mem_cons.mp listed with rfl | later
    · have gap := skipGap_suffix cursor.rest cursor.line
      have kept := skipGap_lastLine cursor.rest cursor.line
      rw [← lastLine] at kept
      rcases cursor.next_cases with ⟨empty, step⟩ | ⟨rest, opens, step⟩ |
        ⟨kind, character, rest, _, opens, step⟩ | ⟨word, rest, nonempty, _, opens, step⟩
      · simp [step] at going
      all_goals
        refine ⟨rest, ?_⟩
        rw [lastLine, opens] at kept
        rw [opens] at gap
        rw [step]
      · exact ⟨by simp, by simpa using gap, by simpa using kept⟩
      · exact ⟨by simp, by simpa using gap, by simpa using kept⟩
      · exact ⟨by simpa using nonempty, by simpa using gap, by simpa using kept⟩
    · obtain ⟨after, nonempty, part, kept⟩ := ih later
      exact ⟨after, nonempty, part.trans cursor.next_suffix, kept.trans cursor.next_lastLine⟩

/-- The tokens that are cut from a physical line have its number. -/
theorem line_eq_of_mem {text line : List Char} {number : Nat} {token : Token}
    (physical : line ∈ physicalLines text) (listed : token ∈ (tokens ⟨line, number⟩).dropLast) :
    token.line = number := by
  obtain ⟨after, nonempty, part, kept⟩ := exists_suffix_of_mem listed
  obtain ⟨_, open_ | ⟨content, open_, rfl⟩⟩ := physicalLine_cases physical
  · have most := part.sublist.count_le '\n'
    simp only [lastLine, List.count_eq_zero.mpr open_] at most kept
    omega
  · have ended : (content ++ ['\n']).getLast? = some '\n' := by simp
    have last := getLast?_of_suffix ended part (by simp [nonempty])
    have least := List.count_pos_iff.mpr (List.mem_of_getLast? last)
    have most := part.sublist.count_le '\n'
    simp only [lastLine, List.count_append, List.count_eq_zero.mpr open_,
      List.count_singleton_self] at most kept least
    omega

/-- A token that ends no line is cut from a physical line, and its number is that of the line. -/
theorem exists_physicalLine_of_mem {text : List Char} {firstLine : Nat} {token : Token}
    (listed : token ∈ tokens ⟨text, firstLine⟩) (inner : token.kind.isEnd = false) :
    ∃ index line, (physicalLines text)[index]? = some line ∧ token.line = firstLine + index := by
  rw [tokens_eq_dropLast, List.mem_append, List.mem_singleton] at listed
  have before := listed.resolve_right (by rintro rfl; contradiction)
  rw [tokens_eq_flatMap, List.mem_flatMap] at before
  obtain ⟨⟨line, number⟩, placed, found⟩ := before
  obtain ⟨low, place⟩ := List.mem_zipIdx_iff_le_and_getElem?_sub.mp placed
  have same := line_eq_of_mem (List.mem_of_getElem? place) found
  exact ⟨number - firstLine, line, place, by omega⟩

/-- What is gathered on a single line of numbered lines. -/
theorem flatMap_zipIdx_of_getElem? {α β : Type} {lines : List α} {line : α} {index : Nat}
    (placed : lines[index]? = some line) (gather : α → Nat → List β) (firstLine : Nat) :
    ((lines.zipIdx firstLine).flatMap fun (line, number) =>
      if number = firstLine + index then gather line number else []) =
        gather line (firstLine + index) := by
  induction lines generalizing index firstLine with
  | nil => simp at placed
  | cons first rest ih =>
    rw [List.zipIdx_cons, List.flatMap_cons]
    cases index with
    | zero =>
      obtain rfl := Option.some.inj placed
      have others : ((rest.zipIdx (firstLine + 1)).flatMap fun (line, number) =>
          if number = firstLine + 0 then gather line number else []) = [] := by
        refine List.flatMap_eq_nil_iff.mpr fun (line, number) found => ?_
        have low := (List.mem_zipIdx_iff_le_and_getElem?_sub.mp found).1
        exact if_neg (by omega)
      rw [others, List.append_nil]
      exact if_pos rfl
    | succ index =>
      have inner := ih placed (firstLine + 1)
      rw [Nat.add_right_comm, Nat.add_assoc] at inner
      rw [inner]
      simp

/-- The tokens with the number of a line are those of the physical line with the number. -/
theorem filter_line_tokens {text line : List Char} {index : Nat}
    (placed : (physicalLines text)[index]? = some line) (firstLine : Nat) :
    (tokens ⟨text, firstLine⟩).dropLast.filter (fun token => token.line = firstLine + index) =
      (tokens ⟨line, firstLine + index⟩).dropLast := by
  have own {line : List Char} (listed : line ∈ physicalLines text) (number : Nat) :
      (tokens ⟨line, number⟩).dropLast.filter (fun token => token.line = firstLine + index) =
        if number = firstLine + index then (tokens ⟨line, number⟩).dropLast else [] := by
    split
    · rename_i same
      exact List.filter_eq_self.mpr fun token found => by simp [line_eq_of_mem listed found, same]
    · rename_i other
      exact List.filter_eq_nil_iff.mpr fun token found => by
        simp [line_eq_of_mem listed found, other]
  rw [tokens_eq_flatMap, List.filter_flatMap, ← flatMap_zipIdx_of_getElem? placed
    (fun line number => (tokens ⟨line, number⟩).dropLast)]
  refine congrArg List.flatten (List.map_congr_left fun (line, number) found => ?_)
  exact own (List.mem_of_getElem? (List.mem_zipIdx_iff_le_and_getElem?_sub.mp found).2) number

end Cursor

namespace TokenLine

/-- A token that is no end opens a logical line, and all further lines start on later physical
lines. -/
theorem exists_ofTokens_cons {token : Token} {rest : List Token}
    (inner : token.kind.isEnd = false) (ordered : InOrder (token :: rest)) :
    ∃ piece later, ofTokens (token :: rest) = ⟨token, piece⟩ :: later ∧
      later.Sublist (ofTokens rest) ∧ ∀ line ∈ later, token.line < line.line := by
  obtain ⟨before, after⟩ := List.pairwise_cons.mp ordered
  obtain ⟨piece, others, cut⟩ := List.exists_cons_of_ne_nil
    (pieces_ne_nil (fun token : Token => token.kind.isEnd) rest)
  refine ⟨piece, others.filterMap ofList?, ?_, ?_, ?_⟩
  · simp [ofTokens, pieces, cut, inner, ofList?]
  · rw [ofTokens, cut]
    exact (List.sublist_cons_self piece others).filterMap ofList?
  · intro line found
    rcases pieces_eq_cons cut with ⟨_, rfl⟩ | ⟨separator, beyond, ends, rfl, same⟩
    · simp at found
    · have among : line ∈ ofTokens beyond := by rwa [ofTokens, same]
      have first := (mem_of_mem_ofTokens among List.mem_cons_self).1
      have up := (before separator (by simp)).1
      have step := (List.pairwise_cons.mp (List.pairwise_append.mp after).2.1).1 _ first
      exact Nat.lt_of_le_of_lt up (step.2 ends)

/-- Logical lines start on different physical lines, in order. -/
theorem pairwise_ofTokens {tokens : List Token} (ordered : InOrder tokens) :
    (ofTokens tokens).Pairwise fun earlier later => earlier.line < later.line := by
  induction tokens with
  | nil => exact List.Pairwise.nil
  | cons token rest ih =>
    have inner := ih (List.pairwise_cons.mp ordered).2
    cases ends : token.kind.isEnd with
    | true => exact ofTokens_append_cons ends [] rest ▸ inner
    | false =>
      obtain ⟨piece, later, whole, part, up⟩ := exists_ofTokens_cons ends ordered
      exact whole ▸ List.pairwise_cons.mpr ⟨up, inner.sublist part⟩

/-- A logical line opens with a token that stands on a later physical line than all tokens before
it. -/
theorem exists_split_of_mem_ofTokens {tokens : List Token} {line : TokenLine}
    (ordered : InOrder tokens) (found : line ∈ ofTokens tokens) :
    ∃ before after, tokens = before ++ line.first :: after ∧
      ∀ token ∈ before, token.line < line.line := by
  induction tokens with
  | nil => cases found
  | cons token rest ih =>
    obtain ⟨before, after⟩ := List.pairwise_cons.mp ordered
    have further (among : line ∈ ofTokens rest) (up : token.line < line.line) :
        ∃ before after, token :: rest = before ++ line.first :: after ∧
          ∀ token ∈ before, token.line < line.line := by
      obtain ⟨passed, left, rfl, fewer⟩ := ih after among
      exact ⟨token :: passed, left, rfl, List.forall_mem_cons.mpr ⟨up, fewer⟩⟩
    cases ends : token.kind.isEnd with
    | true =>
      have same : ofTokens (token :: rest) = ofTokens rest := ofTokens_append_cons ends [] rest
      have among : line ∈ ofTokens rest := same ▸ found
      have first := (mem_of_mem_ofTokens among List.mem_cons_self).1
      exact further among ((before _ first).2 ends)
    | false =>
      obtain ⟨piece, later, whole, part, up⟩ := exists_ofTokens_cons ends ordered
      rw [whole] at found
      rcases List.mem_cons.mp found with rfl | beyond
      · exact ⟨[], rest, rfl, by simp⟩
      · exact further (part.mem beyond) (up line beyond)

/-- The first token of a logical line is the first token of the physical line with its number. -/
theorem exists_physicalLine_of_mem_ofText {text : String} {firstLine : Nat} {line : TokenLine}
    (found : line ∈ ofText text firstLine) :
    ∃ index physical, (physicalLines text.toList)[index]? = some physical ∧
      line.line = firstLine + index ∧ Cursor.peek ⟨physical, line.line⟩ = line.first := by
  have first := mem_of_mem_ofTokens found List.mem_cons_self
  obtain ⟨index, physical, placed, number⟩ := Cursor.exists_physicalLine_of_mem first.1 first.2
  change line.line = firstLine + index at number
  obtain ⟨before, after, split, earlier⟩ :=
    exists_split_of_mem_ofTokens (Cursor.inOrder_tokens (Cursor.ofText text firstLine)) found
  have passed : before.filter (fun token => token.line = firstLine + index) = [] :=
    List.filter_eq_nil_iff.mpr fun token listed => by
      simpa [← number] using Nat.ne_of_lt (earlier token listed)
  have opens : ((Cursor.ofText text firstLine).tokens.filter fun token =>
      token.line = firstLine + index).head? = some line.first := by
    have kept : decide (line.first.line = firstLine + index) = true := decide_eq_true number
    rw [split, List.filter_append, passed, List.nil_append, List.filter_cons, kept]
    rfl
  rw [Cursor.tokens_eq_dropLast, List.filter_append, Cursor.ofText,
    Cursor.filter_line_tokens placed] at opens
  refine ⟨index, physical, placed, number, number ▸ ?_⟩
  cases own : (Cursor.tokens ⟨physical, firstLine + index⟩).dropLast with
  | nil =>
    rw [own, List.nil_append] at opens
    have ended := (List.mem_filter.mp (List.mem_of_mem_head? opens)).1
    rw [List.mem_singleton.mp ended] at first
    cases first.2
  | cons token others =>
    rw [own] at opens
    have whole := Cursor.head?_tokens ⟨physical, firstLine + index⟩
    rw [Cursor.tokens_eq_dropLast, own] at whole
    exact (Option.some.inj whole).symm.trans (Option.some.inj opens)

end TokenLine

end GpuScript
