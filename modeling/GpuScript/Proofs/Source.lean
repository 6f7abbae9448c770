import GpuScript.Proofs.Text.Lines
import GpuScript.Source

/-!
# Sources without replacements

A source without replacements is read as it stands: its lines are the physical lines of its text,
and none of them ends the reading early. This is so for a text and for a file with the bytes of a
text: the byte of a line end stands in no other character, so the lines of the bytes are those of
the text.
-/

namespace GpuScript

open Text

namespace Replacement

/-- Without replacements a text is walked over unchanged. -/
theorem walk?_nil (resume : List Char → Option (List Char)) (text : List Char) :
    walk? [] resume text = some text := by
  induction text with
  | nil => rfl
  | cons first rest ih =>
    rw [walk?, ih]
    rfl

/-- Without replacements a line stays as it is. -/
theorem applyAll?_nil (line : List Char) : applyAll? [] line = some line := by
  cases line with
  | nil => rfl
  | cons first rest => exact walk?_nil _ _

end Replacement

namespace Source

/-- A source holds a text when it is read without replacements and its lines are those of the
text. -/
structure Holds (files : Files) (source : Source) (text : String) : Prop where
  /-- The lines are those of the text. -/
  lines : source.physicalLines files = .ok ((Text.physicalLines text.toList).map some)
  /-- No tokens are replaced. -/
  plain : source.replacements = []

/-- A text that is given as such is held. -/
theorem holds_text (files : Files) (text : String) : Holds files ⟨.text text, []⟩ text :=
  ⟨rfl, rfl⟩

/-- The byte of a line end stands in no other character. -/
theorem eq_newline_of_mem_utf8EncodeChar {character : Char}
    (listed : 10 ∈ String.utf8EncodeChar character) : character = '\n' := by
  have high (value : Nat) (least : 128 ≤ value) (most : value < 256) :
      (10 : UInt8) ≠ UInt8.ofNat value := by
    intro same
    have numbers := congrArg UInt8.toNat same
    simp only [UInt8.toNat_ofNat', UInt8.reduceToNat] at numbers
    omega
  revert listed
  fun_cases String.utf8EncodeChar character with
  | case1 value small =>
    intro listed
    have same := congrArg UInt8.toNat (List.mem_singleton.mp listed)
    simp only [UInt8.toNat_ofNat', UInt8.reduceToNat] at same
    exact Char.ext (UInt32.toNat_inj.mp (by change value = 10; omega))
  | _ =>
    intro listed
    simp only [List.mem_cons, List.not_mem_nil, or_false] at listed
    refine absurd listed ?_
    simp only [not_or]
    repeat' apply And.intro
    all_goals exact high _ (by omega) (by omega)

/-- The lines of the bytes of a text are the bytes of its lines. -/
theorem splitAfter_flatMap_utf8EncodeChar (text : List Char) :
    splitAfter (· == 10) (text.flatMap String.utf8EncodeChar) =
      (Text.physicalLines text).map fun line => line.flatMap String.utf8EncodeChar := by
  have plain {line : List Char} (open_ : '\n' ∉ line) :
      ∀ byte ∈ line.flatMap String.utf8EncodeChar, (byte == 10) = false := by
    intro byte listed
    obtain ⟨character, inside, found⟩ := List.mem_flatMap.mp listed
    refine beq_false_of_ne ?_
    rintro rfl
    exact open_ (eq_newline_of_mem_utf8EncodeChar found ▸ inside)
  induction text using lines_induction with
  | empty => rfl
  | last line nonempty open_ =>
    have bytes : line.flatMap String.utf8EncodeChar ≠ [] := by
      simpa [List.flatMap_eq_nil_iff, ← List.eq_nil_iff_forall_not_mem] using nonempty
    rw [physicalLines_of_open nonempty open_, splitAfter_of_open bytes (plain open_),
      List.map_singleton]
  | closed line rest open_ ih =>
    have ending : String.utf8EncodeChar '\n' = [10] := rfl
    rw [physicalLines_cons open_, List.flatMap_append, List.flatMap_cons, ending,
      List.singleton_append, splitAfter_append_cons (plain open_) rfl, ih, List.map_cons,
      List.flatMap_append, List.flatMap_singleton, ending]

/-- A file with the bytes of a text holds the text. -/
theorem holds_file {files : Files} {name text : String}
    (stored : files name = .ok text.toByteArray) : Holds files ⟨.file name, []⟩ text := by
  have bytes : text.toByteArray.data.toList = text.toList.flatMap String.utf8EncodeChar := by
    rw [← String.utf8Encode_toList, List.utf8Encode, List.toList_data_toByteArray]
  refine ⟨?_, rfl⟩
  simp only [physicalLines, stored, decodeLines, bytes, splitAfter_flatMap_utf8EncodeChar,
    List.map_map]
  refine congrArg Except.ok (List.map_congr_left fun line _ => ?_)
  have whole : (String.ofList line).toByteArray =
      ⟨(line.flatMap String.utf8EncodeChar).toArray⟩ := by
    rw [String.toByteArray_ofList, List.utf8Encode]
    ext1
    exact List.data_toByteArray
  have valid : (String.ofList line).toByteArray.IsValidUTF8 := (String.ofList line).isValidUTF8
  rw [Function.comp, ← whole, String.fromUTF8?, dif_pos valid]
  exact congrArg some String.toList_ofList

/-- Without replacements lines that are not empty are read as they are. -/
theorem readLines_of_plain {source : Source} (plain : source.replacements = [])
    {lines : List (List Char)} (nonempty : ∀ line ∈ lines, line ≠ []) (number : Nat) :
    source.readLines number (lines.map some) = lines.map .ok := by
  induction lines generalizing number with
  | nil => rfl
  | cons line rest ih =>
    have same : source.expand number (some line) = .ok line := by
      rw [expand, plain, Replacement.applyAll?_nil]
    obtain ⟨first, others, rfl⟩ := List.exists_cons_of_ne_nil (nonempty line List.mem_cons_self)
    have inner := ih (fun line listed => nonempty line (List.mem_cons_of_mem _ listed)) (number + 1)
    rw [List.map_cons, readLines, same, inner]
    rfl

/-- The lines of a source that holds a text are the physical lines of the text. -/
theorem Holds.lines_eq {files : Files} {source : Source} {text : String}
    (holds : source.Holds files text) :
    source.lines files = .ok ((Text.physicalLines text.toList).map .ok) := by
  rw [Source.lines, holds.lines]
  exact congrArg Except.ok
    (readLines_of_plain holds.plain (fun _ listed => ne_nil_of_mem_splitAfter listed) 1)

end Source

end GpuScript
