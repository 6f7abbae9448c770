import GpuScript.Proofs.Replacement.Run

/-!
# Replacements that do not feed each other

If no character of a replacement text occurs in a token, what has been put in the place of a token
is never part of a token again. The tokens of a line are then those that one cut of the line from
its front finds (`Replacement.cut`), and the line becomes the text of the pieces with each token
exchanged. Substitutions are counted over the whole line, though, and not where they follow from
one another: with a thousand tokens or more the line is refused as if its replacements had no end
(`Source.expand_of_apart`).
-/

namespace GpuScript

namespace Replacement

/-- A piece of a text. -/
inductive Piece where
  /-- The token of a replacement. -/
  | token (replacement : Replacement)
  /-- A character that belongs to no token. -/
  | plain (character : Char)
  deriving DecidableEq

namespace Piece

/-- The piece is a token. -/
def isToken : Piece → Bool
  | token _ => true
  | plain _ => false

/-- The text of a piece. -/
def before : Piece → List Char
  | token replacement => replacement.token.toList
  | plain character => [character]

/-- The text of a piece after its replacement. -/
def after : Piece → List Char
  | token replacement => replacement.text.toList
  | plain character => [character]

end Piece

/-- A text cut into pieces from its front, after so many characters that belong to a token before
them. Where tokens stand, the first replacement with such a token has it. -/
def cut (replacements : List Replacement) : Nat → List Char → List Piece
  | _, [] => []
  | taken + 1, _ :: rest => cut replacements taken rest
  | 0, first :: rest =>
    match opening? replacements (first :: rest) with
    | some replacement =>
      .token replacement :: cut replacements (replacement.token.toList.length - 1) rest
    | none => .plain first :: cut replacements 0 rest

variable {replacements : List Replacement}

/-- The characters of a token are passed over. -/
theorem cut_eq_drop (taken : Nat) (text : List Char) :
    cut replacements taken text = cut replacements 0 (text.drop taken) := by
  induction text generalizing taken with
  | nil => cases taken <;> rfl
  | cons first rest ih =>
    cases taken with
    | zero => rfl
    | succ taken => exact ih taken

/-- A character where no token stands is a piece. -/
theorem cut_of_none {first : Char} {rest : List Char}
    (absent : opening? replacements (first :: rest) = none) :
    cut replacements 0 (first :: rest) = .plain first :: cut replacements 0 rest := by
  rw [cut, absent]

section Nonempty

variable (nonempty : ∀ replacement ∈ replacements, replacement.token ≠ "")
include nonempty

/-- No token is empty, so it has a first character. -/
theorem exists_token_eq_cons {replacement : Replacement} (listed : replacement ∈ replacements) :
    ∃ first more, replacement.token.toList = first :: more := by
  refine List.exists_cons_of_ne_nil fun none_ => nonempty replacement listed ?_
  exact String.toList_inj.mp none_

/-- No token stands where nothing is left. -/
theorem opening?_nil : opening? replacements [] = none := by
  refine List.find?_eq_none.mpr fun replacement listed opens => ?_
  obtain ⟨first, more, token⟩ := exists_token_eq_cons nonempty listed
  rw [token] at opens
  cases opens

/-- A token at the front of a text is its first piece. -/
theorem cut_of_some {behind : List Char} {replacement : Replacement}
    (opens : opening? replacements (replacement.token.toList ++ behind) = some replacement) :
    cut replacements 0 (replacement.token.toList ++ behind) =
      .token replacement :: cut replacements 0 behind := by
  obtain ⟨first, more, token⟩ := exists_token_eq_cons nonempty (List.mem_of_find?_eq_some opens)
  rw [token, List.cons_append] at opens ⊢
  rw [cut, opens]
  simp only [token, List.length_cons, Nat.add_sub_cancel]
  rw [cut_eq_drop, List.drop_left]

/-- A text is gone through by tokens that open it and by characters where no token stands. -/
theorem cut_induction {motive : List Char → Prop} (nil : motive [])
    (token : ∀ replacement behind,
      opening? replacements (replacement.token.toList ++ behind) = some replacement →
        motive behind → motive (replacement.token.toList ++ behind))
    (plain : ∀ first rest, opening? replacements (first :: rest) = none →
      motive rest → motive (first :: rest))
    (text : List Char) : motive text := by
  induction size : text.length using Nat.strong_induction_on generalizing text with
  | _ size_ ih =>
    cases text with
    | nil => exact nil
    | cons first rest =>
      cases opens : opening? replacements (first :: rest) with
      | none => exact plain first rest opens (ih rest.length (by simp [← size]) rest rfl)
      | some replacement =>
        obtain ⟨behind, split, _⟩ := Checked.exists_of_find? opens
        obtain ⟨_, more, own⟩ := exists_token_eq_cons nonempty (List.mem_of_find?_eq_some opens)
        have shorter : behind.length < size_ := by
          rw [← size, split, own]
          simp only [List.length_append, List.length_cons]
          omega
        rw [split] at opens ⊢
        exact token replacement behind opens (ih behind.length shorter behind rfl)

/-- The pieces of a text are the text. -/
theorem flatMap_before_cut (text : List Char) :
    (cut replacements 0 text).flatMap Piece.before = text := by
  induction text using cut_induction nonempty with
  | nil => rfl
  | token replacement behind opens ih =>
    rw [cut_of_some nonempty opens, List.flatMap_cons, ih]
    rfl
  | plain first rest absent ih =>
    rw [cut_of_none absent, List.flatMap_cons, ih]
    rfl

/-- A text of characters that occur in no token is kept. -/
theorem expand?_append_of_not_mem {inserted : List Char}
    (strange : ∀ character ∈ inserted, ∀ replacement ∈ replacements,
      character ∉ replacement.token.toList) (allowed : Nat) (behind : List Char) :
    expand? replacements allowed (inserted ++ behind) =
      (expand? replacements allowed behind).map (inserted ++ ·) := by
  induction inserted with
  | nil => exact (congrFun Option.map_id _).symm
  | cons first inserted ih =>
    obtain ⟨own, others⟩ := List.forall_mem_cons.mp strange
    have absent : opening? replacements (first :: (inserted ++ behind)) = none := by
      refine List.find?_eq_none.mpr fun replacement listed opens => ?_
      obtain ⟨opening, more, token⟩ := exists_token_eq_cons nonempty listed
      rw [token, List.isPrefixOf_iff_prefix, List.cons_prefix_cons] at opens
      refine own replacement listed ?_
      rw [token, opens.1]
      exact List.mem_cons_self
    rw [List.cons_append, expand?_cons_of_none (Checked.substitute?_of_find?_none absent),
      ih others, Option.map_map]
    rfl

/-- If no character of a replacement text occurs in a token, every token of a text takes one
substitution, and these are all. -/
theorem expand?_of_apart (apart : ∀ replacement ∈ replacements, ∀ other ∈ replacements,
      ∀ character ∈ replacement.text.toList, character ∉ other.token.toList)
    (allowed : Nat) (text : List Char) :
    expand? replacements allowed text =
      if (cut replacements 0 text).countP Piece.isToken ≤ allowed then
        some ((cut replacements 0 text).flatMap Piece.after)
      else
        none := by
  induction text using cut_induction nonempty generalizing allowed with
  | nil =>
    have absent := Checked.substitute?_of_find?_none (opening?_nil nonempty)
    exact (expand?_nil_of_none absent allowed).trans (if_pos (Nat.zero_le allowed)).symm
  | plain first rest absent ih =>
    rw [expand?_cons_of_none (Checked.substitute?_of_find?_none absent), ih, cut_of_none absent,
      List.countP_cons_of_neg (by simp [Piece.isToken])]
    split <;> rfl
  | token replacement behind opens ih =>
    obtain ⟨rest, split, made⟩ := Checked.exists_of_find? opens
    obtain rfl := List.append_cancel_left split
    have strange (character : Char) (among : character ∈ replacement.text.toList) :
        ∀ other ∈ replacements, character ∉ other.token.toList := fun other listed =>
      apart replacement (List.mem_of_find?_eq_some opens) other listed character among
    rw [cut_of_some nonempty opens, List.countP_cons_of_pos rfl, List.flatMap_cons]
    -- The text that is put in is kept as it is, so what is behind the token is cut on its own.
    cases allowed with
    | zero => rw [expand?_zero_of_some made, if_neg (Nat.not_succ_le_zero _)]
    | succ allowed =>
      rw [expand?_succ_of_some made, expand?_append_of_not_mem nonempty strange, ih]
      simp only [Nat.add_le_add_iff_right]
      split <;> rfl

end Nonempty

end Replacement

namespace Source

open Replacement (Piece cut)

/-- If no token is empty and no character of a replacement text occurs in a token, a line is cut
into its tokens and other characters once. It is read exactly if there are 999 tokens at most, and
then with the replacement of each token in its place; else it is refused for replacements without
end. -/
theorem expand_of_apart (source : Source) (number : Nat) (line : List Char)
    (nonempty : ∀ replacement ∈ source.replacements, replacement.token ≠ "")
    (apart : ∀ replacement ∈ source.replacements, ∀ other ∈ source.replacements,
      ∀ character ∈ replacement.text.toList, character ∉ other.token.toList) :
    (cut source.replacements 0 line).flatMap Piece.before = line ∧
    source.expand number (some line) =
      if (cut source.replacements 0 line).countP Piece.isToken ≤ 999 then
        .ok ((cut source.replacements 0 line).flatMap Piece.after)
      else
        .error (.line ⟨number, .endlessReplacement⟩) := by
  refine ⟨Replacement.flatMap_before_cut nonempty line, ?_⟩
  cases line with
  | nil => rfl
  | cons first rest =>
    have whole : Replacement.applyAll? source.replacements (first :: rest) =
        if (cut source.replacements 0 (first :: rest)).countP Piece.isToken ≤ 999 then
          some ((cut source.replacements 0 (first :: rest)).flatMap Piece.after)
        else
          none :=
      Replacement.expand?_of_apart nonempty apart Replacement.limit (first :: rest)
    rw [expand, whole]
    by_cases few : (cut source.replacements 0 (first :: rest)).countP Piece.isToken ≤ 999
    · rw [if_pos few, if_pos few]
    · rw [if_neg few, if_neg few]

/-- A source with a token that opens another one, and one that is removed. -/
def shortenedSource : Source :=
  ⟨.text "", [⟨"AB", "1"⟩, ⟨"A", "2 3"⟩, ⟨"x", ""⟩]⟩

/-- The first token that stands at a place is the one that counts. -/
theorem expand_of_apart_shortened :
    (∀ replacement ∈ shortenedSource.replacements, replacement.token ≠ "") ∧
    (∀ replacement ∈ shortenedSource.replacements, ∀ other ∈ shortenedSource.replacements,
      ∀ character ∈ replacement.text.toList, character ∉ other.token.toList) ∧
    shortenedSource.expand 1 (some "xAB Ax\n".toList) = .ok "1 2 3\n".toList := by
  have nonempty : ∀ replacement ∈ shortenedSource.replacements, replacement.token ≠ "" := by
    decide +kernel
  have apart : ∀ replacement ∈ shortenedSource.replacements,
      ∀ other ∈ shortenedSource.replacements,
        ∀ character ∈ replacement.text.toList, character ∉ other.token.toList := by
    simp [shortenedSource]
  have read := (expand_of_apart shortenedSource 1 "xAB Ax\n".toList nonempty apart).2
  refine ⟨nonempty, apart, read.trans ?_⟩
  decide +kernel

/-- A source whose only replacement gives a character that is no token. -/
def recolouredSource : Source :=
  ⟨.text "", [⟨"A", "B"⟩]⟩

/-- A line with a thousand tokens is refused, although nothing that is put in stands in a token. -/
theorem expand_of_apart_thousand :
    (∀ replacement ∈ recolouredSource.replacements, replacement.token ≠ "") ∧
    (∀ replacement ∈ recolouredSource.replacements, ∀ other ∈ recolouredSource.replacements,
      ∀ character ∈ replacement.text.toList, character ∉ other.token.toList) ∧
    ¬ ∃ expanded, recolouredSource.expand 1 (some (List.replicate 1000 'A')) = .ok expanded := by
  refine ⟨by decide +kernel, by simp [recolouredSource], ?_⟩
  rintro ⟨expanded, read⟩
  have refused : recolouredSource.expand 1 (some (List.replicate 1000 'A')) =
      .error (.line ⟨1, .endlessReplacement⟩) := by
    decide +kernel
  cases refused.symm.trans read

end Source

end GpuScript
