import GpuScript.Proofs.Source

/-!
# Lines with an end

A text is its lines, each with an end behind it, and what follows the last end (`EndedLines`). There
is one way to see it so (`EndedLines.unique`). If more text arrives, the open rest of the text goes
on in the first line of the new text (`EndedLines.append`). The bytes of a text have the bytes of
its lines as their lines (`EndedLines.encode`).
-/

namespace GpuScript.Text

/-- A list is lines with a mark behind each of them, and a rest. The mark occurs nowhere else. -/
structure EndedLines {α : Type} (mark : α) (elements : List α) (lines : List (List α))
    (rest : List α) : Prop where
  /-- The lines with their ends and the rest make up the list. -/
  joined : elements = lines.flatMap (· ++ [mark]) ++ rest
  /-- No line has an end in it. -/
  closed : ∀ line ∈ lines, mark ∉ line
  /-- The rest is open. -/
  open_ : mark ∉ rest

namespace EndedLines

variable {α : Type} {mark : α} {elements more line rest last : List α}
  {lines others : List (List α)}

/-- A list without the mark has no lines. -/
theorem of_open (open_ : mark ∉ rest) : EndedLines mark rest [] rest :=
  ⟨rfl, nofun, open_⟩

/-- A line with its end stands in front of the other lines. -/
theorem cons (own : mark ∉ line) (ended : EndedLines mark elements lines rest) :
    EndedLines mark (line ++ mark :: elements) (line :: lines) rest := by
  refine ⟨?_, List.forall_mem_cons.mpr ⟨own, ended.closed⟩, ended.open_⟩
  rw [ended.joined]
  simp

/-- What follows the end of the first line has the other lines. -/
theorem tail (ended : EndedLines mark elements (line :: lines) rest) :
    ∃ after, elements = line ++ mark :: after ∧ mark ∉ line ∧ EndedLines mark after lines rest := by
  obtain ⟨own, closed⟩ := List.forall_mem_cons.mp ended.closed
  refine ⟨lines.flatMap (· ++ [mark]) ++ rest, ?_, own, rfl, closed, ended.open_⟩
  rw [ended.joined]
  simp

/-- The first mark in a list tells what is in front of it and behind it. -/
theorem append_cons_inj {first second after beyond : List α} (own : mark ∉ first)
    (absent : mark ∉ second) (same : first ++ mark :: after = second ++ mark :: beyond) :
    first = second ∧ after = beyond := by
  rcases List.append_eq_append_iff.mp same with ⟨middle, rfl, split⟩ | ⟨middle, rfl, split⟩
  · cases middle with
    | nil => simpa using split
    | cons element middle =>
      obtain ⟨rfl, -⟩ := List.cons.inj split
      simp at absent
  · cases middle with
    | nil => simpa [eq_comm] using split
    | cons element middle =>
      obtain ⟨rfl, -⟩ := List.cons.inj split
      simp at own

/-- A list has its lines in one way. -/
theorem unique (ended : EndedLines mark elements lines rest)
    (other : EndedLines mark elements others last) : others = lines ∧ last = rest := by
  induction lines generalizing elements others with
  | nil =>
    have whole : elements = rest := ended.joined
    cases others with
    | nil => exact ⟨rfl, other.joined.symm.trans whole⟩
    | cons first others =>
      obtain ⟨after, split, -, -⟩ := other.tail
      have listed : mark ∈ rest := by simp [← whole, split]
      exact absurd listed ended.open_
  | cons first lines ih =>
    obtain ⟨after, split, own, later⟩ := ended.tail
    cases others with
    | nil =>
      have whole : elements = last := other.joined
      have listed : mark ∈ last := by simp [← whole, split]
      exact absurd listed other.open_
    | cons second others =>
      obtain ⟨beyond, same, absent, remaining⟩ := other.tail
      obtain ⟨rfl, rfl⟩ := append_cons_inj own absent (split.symm.trans same)
      obtain ⟨rfl, rfl⟩ := ih later remaining
      exact ⟨rfl, rfl⟩

/-- Nothing is left behind a mark at the end. -/
theorem eq_nil_of_getLast? (ended : EndedLines mark elements lines rest)
    (ends : elements.getLast? = some mark) : rest = [] := by
  rw [ended.joined, List.getLast?_append] at ends
  cases last_ : rest.getLast? with
  | none => exact List.getLast?_eq_none_iff.mp last_
  | some element =>
    rw [last_, Option.some_or] at ends
    rw [ends] at last_
    exact absurd (List.mem_of_getLast? last_) ended.open_

/-- When more follows, the rest is where the next line has begun. -/
theorem append (ended : EndedLines mark elements lines rest)
    (later : EndedLines mark (rest ++ more) others last) :
    EndedLines mark (elements ++ more) (lines ++ others) last := by
  refine ⟨?_, List.forall_mem_append.mpr ⟨ended.closed, later.closed⟩, later.open_⟩
  rw [ended.joined, List.append_assoc, later.joined, List.flatMap_append, List.append_assoc]

end EndedLines

/-- The bytes of a text in UTF-8. -/
def encode (text : List Char) : List UInt8 :=
  text.flatMap String.utf8EncodeChar

/-- The byte of a line end is in the bytes of a text only if the line end is in the text. -/
theorem newline_not_mem_encode {text : List Char} (open_ : '\n' ∉ text) : 10 ∉ encode text := by
  intro listed
  obtain ⟨character, inside, found⟩ := List.mem_flatMap.mp listed
  exact open_ (Source.eq_newline_of_mem_utf8EncodeChar found ▸ inside)

/-- The lines of the bytes of a text are the bytes of its lines. -/
theorem EndedLines.encode {text rest : List Char} {lines : List (List Char)}
    (ended : EndedLines '\n' text lines rest) :
    EndedLines 10 (Text.encode text) (lines.map Text.encode) (Text.encode rest) := by
  have ending : String.utf8EncodeChar '\n' = [10] := rfl
  refine ⟨?_, ?_, newline_not_mem_encode ended.open_⟩
  · rw [ended.joined]
    simp [Text.encode, List.flatMap_assoc, List.flatMap_map, ending]
  · rw [List.forall_mem_map]
    intro line listed
    exact newline_not_mem_encode (ended.closed line listed)

end GpuScript.Text
