import Mathlib.Data.List.Infix

/-!
# Places in a text by bytes

A scanner may keep its place in a text as a number of bytes. Such a place is one only if it lies in
the text and no character reaches across it (`split?`). A part of a text is taken out or exchanged
between two places in order; what is asked for is nothing otherwise (`slice?`, `replace?`).

The places of a text are the numbers of bytes of its beginnings (`split?_eq_some_iff`), and these
are the positions between the encoded characters of the string (`isSome_split?_iff`).
-/

namespace GpuScript.Checked

/-- The number of bytes of a text in UTF-8. -/
def byteLength : List Char → Nat
  | [] => 0
  | first :: rest => first.utf8Size + byteLength rest

/-- The text before a place and the text from there on; nothing if the place lies beyond the text
or inside a character. -/
def split? : List Char → Nat → Option (List Char × List Char)
  | text, 0 => some ([], text)
  | [], _ + 1 => none
  | first :: rest, place + 1 =>
    if first.utf8Size ≤ place + 1 then
      (split? rest (place + 1 - first.utf8Size)).map fun (before, after) => (first :: before, after)
    else
      none

/-- The part of a text between two places; nothing if they are not in order or no places. -/
def slice? (text : List Char) (start stop : Nat) : Option (List Char) := do
  let (before, _) ← split? text stop
  let (_, part) ← split? before start
  some part

/-- The text with another part between two places; nothing if they are not in order or no
places. -/
def replace? (text : List Char) (start stop : Nat) (part : List Char) : Option (List Char) := do
  let (before, after) ← split? text stop
  let (kept, _) ← split? before start
  some (kept ++ part ++ after)

/-- The place of the first of the characters that are a given one. -/
def placeOf? (target : Char) : List Char → Option Nat
  | [] => none
  | first :: rest =>
    if first = target then some 0 else (placeOf? target rest).map (first.utf8Size + ·)

/-- Nothing has no bytes. -/
@[simp]
theorem byteLength_nil : byteLength [] = 0 :=
  rfl

/-- The first character has its own bytes. -/
@[simp]
theorem byteLength_cons (first : Char) (rest : List Char) :
    byteLength (first :: rest) = first.utf8Size + byteLength rest :=
  rfl

/-- Texts one after the other have the bytes of both. -/
@[simp]
theorem byteLength_append (first second : List Char) :
    byteLength (first ++ second) = byteLength first + byteLength second := by
  induction first with
  | nil => rw [List.nil_append, byteLength_nil, Nat.zero_add]
  | cons character rest ih =>
    rw [List.cons_append, byteLength_cons, byteLength_cons, ih, Nat.add_assoc]

/-- Only the empty text has no bytes. -/
theorem byteLength_pos_iff {text : List Char} : 0 < byteLength text ↔ text ≠ [] := by
  cases text with
  | nil => simp
  | cons first rest =>
    have own := first.utf8Size_pos
    simp only [byteLength_cons, ne_eq, reduceCtorEq, not_false_eq_true, iff_true]
    omega

/-- A string has the bytes of its characters. -/
theorem byteLength_toList (text : String) : byteLength text.toList = text.utf8ByteSize := by
  have size (characters : List Char) :
      (String.ofList characters).utf8ByteSize = byteLength characters := by
    induction characters with
    | nil => rfl
    | cons first rest ih =>
      rw [← List.singleton_append, String.ofList_append, String.utf8ByteSize_append, ih,
        byteLength_append, ← String.singleton_eq_ofList, String.utf8ByteSize_singleton]
      rfl
  rw [← size, String.ofList_toList]

/-- A text is split where one of its beginnings ends. -/
@[simp]
theorem split?_append (before after : List Char) :
    split? (before ++ after) (byteLength before) = some (before, after) := by
  induction before with
  | nil => cases after <;> rfl
  | cons first rest ih =>
    obtain ⟨place, next⟩ := Nat.exists_eq_add_one.mpr
      (byteLength_pos_iff.mpr (List.cons_ne_nil first rest))
    have left : place + 1 - first.utf8Size = byteLength rest := by
      rw [← next, byteLength_cons, Nat.add_sub_cancel_left]
    have inside : first.utf8Size ≤ place + 1 := by
      rw [← next, byteLength_cons]
      exact Nat.le_add_right _ _
    rw [next, List.cons_append, split?, if_pos inside, left, ih]
    rfl

/-- A text is split into a beginning with so many bytes and what follows it. -/
theorem split?_eq_some_iff {text before after : List Char} {place : Nat} :
    split? text place = some (before, after) ↔
      text = before ++ after ∧ place = byteLength before := by
  constructor
  · intro found
    fun_induction split? text place generalizing before after with
    | case1 text =>
      obtain ⟨rfl, rfl⟩ := Prod.mk.inj (Option.some.inj found)
      exact ⟨rfl, rfl⟩
    | case2 place => cases found
    | case3 first rest place inside ih =>
      obtain ⟨⟨inner, left⟩, split, same⟩ := Option.map_eq_some_iff.mp found
      obtain ⟨rfl, rfl⟩ := Prod.mk.inj same
      obtain ⟨rfl, size⟩ := ih split
      refine ⟨rfl, ?_⟩
      rw [byteLength_cons, ← size]
      omega
    | case4 first rest place beyond => cases found
  · rintro ⟨rfl, rfl⟩
    exact split?_append before after

/-- A text can be split at exactly the valid positions of its string. -/
theorem isSome_split?_iff {text : String} {place : Nat} :
    (split? text.toList place).isSome = true ↔ (⟨place⟩ : String.Pos.Raw).IsValid text := by
  rw [Option.isSome_iff_exists, String.Pos.Raw.isValid_iff_exists_append]
  constructor
  · rintro ⟨⟨before, after⟩, found⟩
    obtain ⟨whole, rfl⟩ := split?_eq_some_iff.mp found
    refine ⟨String.ofList before, String.ofList after, ?_, ?_⟩
    · rw [← String.ofList_append, ← whole, String.ofList_toList]
    · have size := byteLength_toList (String.ofList before)
      rw [String.toList_ofList] at size
      exact congrArg String.Pos.Raw.mk size
  · rintro ⟨before, after, rfl, same⟩
    refine ⟨(before.toList, after.toList), split?_eq_some_iff.mpr ⟨String.toList_append, ?_⟩⟩
    rw [byteLength_toList]
    exact congrArg String.Pos.Raw.byteIdx same

-- Neither the middle of a character nor what is beyond the end is a place.
example : split? "aé".toList 2 = none ∧ split? "aé".toList 4 = none := by decide

/-- A part of a text is taken out between the places where it begins and ends. -/
theorem slice?_append (before part after : List Char) :
    slice? (before ++ (part ++ after)) (byteLength before) (byteLength before + byteLength part) =
      some part := by
  rw [slice?, ← List.append_assoc, ← byteLength_append, split?_append]
  simp

/-- The end of a text is taken out from the place where it begins. -/
theorem slice?_rest (before rest : List Char) :
    slice? (before ++ rest) (byteLength before) (byteLength (before ++ rest)) = some rest := by
  have whole := slice?_append before rest []
  rwa [List.append_nil, ← byteLength_append] at whole

/-- The beginning of a text is taken out up to the place where it ends. -/
theorem slice?_first (part after : List Char) :
    slice? (part ++ after) 0 (byteLength part) = some part := by
  have whole := slice?_append [] part after
  rwa [byteLength_nil, Nat.zero_add] at whole

/-- A part of a text is exchanged between the places where it begins and ends. -/
theorem replace?_append (before part after other : List Char) :
    replace? (before ++ (part ++ after)) (byteLength before) (byteLength before + byteLength part)
      other = some (before ++ (other ++ after)) := by
  rw [replace?, ← List.append_assoc, ← byteLength_append, split?_append]
  simp

/-- A part of a text can be taken out between exactly the pairs of valid positions in order. -/
theorem isSome_slice?_iff {text : String} {start stop : Nat} :
    (slice? text.toList start stop).isSome = true ↔
      start ≤ stop ∧ (⟨start⟩ : String.Pos.Raw).IsValid text ∧
        (⟨stop⟩ : String.Pos.Raw).IsValid text := by
  simp only [← isSome_split?_iff, Option.isSome_iff_exists, Prod.exists, split?_eq_some_iff]
  constructor
  · rintro ⟨part, found⟩
    obtain ⟨⟨before, after⟩, whole, inner⟩ := Option.bind_eq_some_iff.mp found
    obtain ⟨⟨kept, rest⟩, first, -⟩ := Option.bind_eq_some_iff.mp inner
    obtain ⟨split, rfl⟩ := split?_eq_some_iff.mp whole
    obtain ⟨rfl, rfl⟩ := split?_eq_some_iff.mp first
    refine ⟨?_, ⟨kept, rest ++ after, ?_, rfl⟩, ⟨kept ++ rest, after, split, rfl⟩⟩
    · rw [byteLength_append]
      exact Nat.le_add_right _ _
    · rw [split, List.append_assoc]
  · rintro ⟨order, ⟨kept, left, first, rfl⟩, before, after, whole, rfl⟩
    -- Of two beginnings of a text, the one with fewer bytes is a beginning of the other.
    have shorter : kept <+: before := by
      rcases List.prefix_or_prefix_of_prefix (first ▸ List.prefix_append kept left)
        (whole ▸ List.prefix_append before after) with inside | ⟨more, rfl⟩
      · exact inside
      · rw [byteLength_append] at order
        have nothing : more = [] := by
          refine Classical.byContradiction fun more_ => ?_
          have grows := byteLength_pos_iff.mpr more_
          omega
        rw [nothing, List.append_nil]
    obtain ⟨part, rfl⟩ := shorter
    refine ⟨part, ?_⟩
    rw [whole, byteLength_append, List.append_assoc]
    exact slice?_append kept part after

/-- A part of a text can be exchanged exactly where it can be taken out. -/
theorem isSome_replace? (text : List Char) (start stop : Nat) (part : List Char) :
    (replace? text start stop part).isSome = (slice? text start stop).isSome := by
  rw [replace?, slice?]
  rcases split? text stop with _ | ⟨before, after⟩
  · rfl
  · simp only [Option.bind_eq_bind, Option.bind_some]
    cases split? before start <;> rfl

/-- A character has its place behind the characters before it. -/
theorem placeOf?_append_cons {target : Char} {before : List Char} (absent : target ∉ before)
    (rest : List Char) : placeOf? target (before ++ target :: rest) = some (byteLength before) := by
  induction before with
  | nil => rw [List.nil_append, placeOf?, if_pos rfl, byteLength_nil]
  | cons first more ih =>
    obtain ⟨other, inner⟩ := List.ne_and_not_mem_of_not_mem_cons absent
    rw [List.cons_append, placeOf?, if_neg (Ne.symm other), ih inner, byteLength_cons]
    rfl

/-- A character that is not there has no place. -/
theorem placeOf?_eq_none {target : Char} {text : List Char} (absent : target ∉ text) :
    placeOf? target text = none := by
  induction text with
  | nil => rfl
  | cons first rest ih =>
    obtain ⟨other, inner⟩ := List.ne_and_not_mem_of_not_mem_cons absent
    rw [placeOf?, if_neg (Ne.symm other), ih inner]
    rfl

end GpuScript.Checked
