import GpuScript.Log
import GpuScript.Proofs.Text.EndedLines

/-!
# Whole lines, however they arrive

Text is written to a line buffer in pieces, and the buffer hands on lines. However the text is cut
into pieces, these are the lines of the whole text, and what stays in the buffer is what follows the
last line end (`LineBuffer.writeRun_eq_iff`). A buffer of bytes that moves from one line end to the
next, and drops what it has passed when it finds no more, hands on and holds the same
(`ByteBuffer.writeRun_eq`). The text of a record ends with a line end, so the records that a log
keeps leave it in whole lines and nothing of them stays behind (`Log.writeRun_pieces`).

What carries the induction over the pieces (`HandsOnLines.run`) is that the buffer never holds a
line end between them.
-/

namespace GpuScript

open Text

/-- What a writer hands on for inputs, one after the other, and its state then. -/
def writeRun {σ ι ο : Type} (write : σ → ι → List ο × σ) (state : σ) : List ι → List ο × σ
  | [] => ([], state)
  | input :: rest =>
    let (handed, state) := write state input
    let (others, state) := writeRun write state rest
    (handed ++ others, state)

/-- A writer hands on, in some form, the lines of the text that waits and of the text that comes,
and then the rest waits. -/
def HandsOnLines {σ ι ο α : Type} (mark : α) (pending : σ → List α) (content : ι → List α)
    (form : List α → ο) (write : σ → ι → List ο × σ) : Prop :=
  ∀ state input, ∃ lines, (write state input).1 = lines.map form ∧
    EndedLines mark (pending state ++ content input) lines (pending (write state input).2)

/-- A writer that hands on lines hands on the lines of all that it was given. -/
theorem HandsOnLines.run {σ ι ο α : Type} {mark : α} {pending : σ → List α}
    {content : ι → List α} {form : List α → ο} {write : σ → ι → List ο × σ}
    (step : HandsOnLines mark pending content form write) {state : σ}
    (open_ : mark ∉ pending state) (inputs : List ι) :
    ∃ lines, (writeRun write state inputs).1 = lines.map form ∧
      EndedLines mark (pending state ++ inputs.flatMap content) lines
        (pending (writeRun write state inputs).2) := by
  induction inputs generalizing state with
  | nil =>
    refine ⟨[], rfl, ?_⟩
    rw [List.flatMap_nil, List.append_nil]
    exact EndedLines.of_open open_
  | cons input rest ih =>
    obtain ⟨lines, handed, ended⟩ := step state input
    obtain ⟨others, more, later⟩ := ih ended.open_
    refine ⟨lines ++ others, ?_, ?_⟩
    · rw [List.map_append, ← handed, ← more]
      rfl
    · rw [List.flatMap_cons, ← List.append_assoc]
      exact ended.append later

namespace LineBuffer

/-- A text is split into its lines and its rest. -/
theorem endedLines_splitLines (text : List Char) :
    EndedLines '\n' text (splitLines text).1 (splitLines text).2 := by
  induction text with
  | nil => exact EndedLines.of_open List.not_mem_nil
  | cons character rest ih =>
    rw [splitLines]
    generalize splitLines rest = cut at ih ⊢
    obtain ⟨lines, last⟩ := cut
    dsimp only at ih ⊢
    by_cases newline : character = '\n'
    · subst newline
      rw [if_pos rfl]
      exact EndedLines.cons List.not_mem_nil ih
    · rw [if_neg newline]
      have other : '\n' ≠ character := Ne.symm newline
      cases lines with
      | nil =>
        -- Nothing has ended yet, so the character goes to the rest.
        have whole : rest = last := ih.joined
        rw [whole]
        exact EndedLines.of_open (List.not_mem_cons_of_ne_of_not_mem other ih.open_)
      | cons first others =>
        obtain ⟨after, rfl, own, later⟩ := ih.tail
        exact EndedLines.cons (List.not_mem_cons_of_ne_of_not_mem other own) later

/-- A line buffer hands on lines. -/
theorem handsOnLines_write :
    HandsOnLines '\n' pending String.toList String.ofList write := by
  intro buffer text
  exact ⟨_, rfl, endedLines_splitLines _⟩

/-- An empty line buffer hands on the lines of the pieces that it is given, and holds their rest. -/
theorem exists_writeRun (chunks : List String) :
    ∃ lines, (writeRun write empty chunks).1 = lines.map String.ofList ∧
      EndedLines '\n' (String.join chunks).toList lines
        (writeRun write empty chunks).2.pending := by
  have open_ : '\n' ∉ empty.pending := List.not_mem_nil
  rw [String.toList_join]
  exact handsOnLines_write.run open_ chunks

/-- What an empty line buffer hands on and holds then are the lines and the rest of the text. -/
theorem writeRun_eq_iff {chunks : List String} {lines : List (List Char)} {rest : List Char} :
    writeRun write empty chunks = (lines.map String.ofList, ⟨rest⟩) ↔
      EndedLines '\n' (String.join chunks).toList lines rest := by
  obtain ⟨found, handed, ended⟩ := exists_writeRun chunks
  constructor
  · intro run
    rw [run] at handed ended
    have same : lines = found :=
      (List.map_inj_right fun _ _ => String.ofList_injective).mp handed
    rw [same]
    exact ended
  · intro other
    obtain ⟨rfl, rfl⟩ := ended.unique other
    exact Prod.ext handed rfl

end LineBuffer

namespace ByteBuffer

/-- Hands on the lines of a buffer from a place on, one after the other, and gives the place behind
the last line end. -/
def sendFrom (buffer : List UInt8) (place : Nat) : List (List UInt8) × Nat :=
  match _found : (buffer.drop place).findIdx? (· == 10) with
  | none => ([], place)
  | some length =>
    let (lines, stop) := sendFrom buffer (place + length + 1)
    (buffer.extract place (place + length) :: lines, stop)
  termination_by buffer.length - place
  decreasing_by
    have inside := (List.findIdx?_eq_some_iff_getElem.mp _found).1
    rw [List.length_drop] at inside
    omega

/-- The lines that are complete after more text, and the bytes that wait then: those behind the last
line end. -/
def write (buffer : List UInt8) (text : String) : List (List UInt8) × List UInt8 :=
  let whole := buffer ++ encode text.toList
  let (lines, stop) := sendFrom whole 0
  (lines, whole.drop stop)

/-- From any place on, the lines are handed on and the rest stands behind the last line end. -/
theorem endedLines_sendFrom (buffer : List UInt8) (place : Nat) :
    EndedLines 10 (buffer.drop place) (sendFrom buffer place).1
      (buffer.drop (sendFrom buffer place).2) := by
  fun_induction sendFrom buffer place with
  | case1 place none_ =>
    apply EndedLines.of_open
    intro listed
    have plain := List.findIdx?_eq_none_iff.mp none_ 10 listed
    cases plain
  | case2 place length found lines stop later ih =>
    obtain ⟨inside, ends, before⟩ := List.findIdx?_eq_some_iff_getElem.mp found
    have mark : (buffer.drop place)[length] = 10 := by simpa using ends
    have open_ : 10 ∉ (buffer.drop place).take length := by
      intro listed
      obtain ⟨index, short, own⟩ := List.mem_take_iff_getElem.mp listed
      have plain := before index (by omega)
      simp [own] at plain
    have split : (buffer.drop place).take length ++ 10 :: buffer.drop (place + length + 1) =
        buffer.drop place := by
      rw [← mark, Nat.add_assoc, ← List.drop_drop, List.getElem_cons_drop, List.take_append_drop]
    have line : buffer.extract place (place + length) = (buffer.drop place).take length := by
      simp
    rw [later] at ih
    have ended := EndedLines.cons open_ ih
    rw [split, ← line] at ended
    exact ended

/-- A buffer of bytes hands on lines. -/
theorem handsOnLines_write :
    HandsOnLines 10 id (fun text : String => encode text.toList) id write := by
  intro buffer text
  exact ⟨_, (List.map_id _).symm, endedLines_sendFrom _ 0⟩

/-- A buffer of bytes hands on the bytes of the lines that a line buffer hands on, and holds the
bytes of the text that the line buffer holds. -/
theorem writeRun_eq (chunks : List String) :
    writeRun write [] chunks =
      ((writeRun LineBuffer.write .empty chunks).1.map fun line => encode line.toList,
        encode (writeRun LineBuffer.write .empty chunks).2.pending) := by
  obtain ⟨lines, handed, ended⟩ := LineBuffer.exists_writeRun chunks
  have open_ : 10 ∉ id ([] : List UInt8) := List.not_mem_nil
  obtain ⟨sent, own, bytes⟩ := handsOnLines_write.run open_ chunks
  have whole : encode (String.join chunks).toList =
      id [] ++ chunks.flatMap fun text => encode text.toList := by
    rw [String.toList_join, encode, List.flatMap_assoc]
    rfl
  rw [← whole] at bytes
  obtain ⟨rfl, rest⟩ := ended.encode.unique bytes
  rw [handed, List.map_map]
  refine Prod.ext ?_ rest
  rw [own, List.map_id]
  simp [Function.comp_def]

end ByteBuffer

/-- Pieces of pieces are joined piece by piece. -/
theorem Text.join_flatten (pieces : List (List String)) :
    String.join pieces.flatten = String.join (pieces.map String.join) := by
  induction pieces with
  | nil => rfl
  | cons first others ih =>
    rw [List.flatten_cons, List.map_cons, String.join_append, String.join_cons, ih]

namespace Log

/-- The records that a filter keeps, in order. -/
def kept (filter : LogFilter) (records : List LogRecord) : List LogRecord :=
  records.filter fun record => filter.keeps record.level

/-- A log writes the texts of the records that it keeps to its buffer. -/
theorem writeAll_eq (filter : LogFilter) (buffer : LineBuffer) (records : List LogRecord) :
    (Log.mk filter buffer).writeAll records = Prod.map id (Log.mk filter)
      (writeRun LineBuffer.write buffer ((kept filter records).map LogRecord.text)) := by
  induction records generalizing buffer with
  | nil => rfl
  | cons record rest ih =>
    rw [writeAll, write]
    cases keeps : filter.keeps record.level with
    | false =>
      have others : kept filter (record :: rest) = kept filter rest :=
        List.filter_cons_of_neg (by simp [keeps])
      rw [if_neg Bool.false_ne_true, others]
      exact ih buffer
    | true =>
      have more : kept filter (record :: rest) = record :: kept filter rest :=
        List.filter_cons_of_pos keeps
      rw [if_pos rfl, more, List.map_cons, writeRun]
      dsimp only
      rw [ih]
      rfl

/-- Texts of records do not end inside a line. -/
theorem getLast?_join_text {records : List LogRecord} (some_ : records ≠ []) :
    (String.join (records.map LogRecord.text)).toList.getLast? = some '\n' := by
  obtain ⟨before, last, rfl⟩ := (List.eq_nil_or_concat records).resolve_left some_
  have text : last.text.toList = (last.level.name ++ ": " ++ last.message).toList ++ ['\n'] := by
    simp [LogRecord.text]
  rw [String.toList_join, List.concat_eq_append, List.map_append, List.flatMap_append,
    List.map_singleton, List.flatMap_singleton, text, ← List.append_assoc, List.getLast?_concat]

/-- Texts of records leave nothing behind their lines. -/
theorem eq_nil_of_endedLines_text {records : List LogRecord} {lines : List (List Char)}
    {rest : List Char}
    (ended : EndedLines '\n' (String.join (records.map LogRecord.text)).toList lines rest) :
    rest = [] := by
  by_cases none_ : records = []
  · rw [none_] at ended
    exact (List.append_eq_nil_iff.mp ended.joined.symm).2
  · exact ended.eq_nil_of_getLast? (getLast?_join_text none_)

/-- A new log hands on the lines of the texts of the records that it keeps, and nothing waits in it
then, however the texts were cut into pieces on their way to the buffer. -/
theorem writeRun_pieces {filter : LogFilter} {records : List LogRecord}
    {pieces : List (List String)}
    (cut : pieces.map String.join = (kept filter records).map LogRecord.text) :
    writeRun LineBuffer.write .empty pieces.flatten = (lines filter records, .empty) ∧
    (new filter).writeAll records = (lines filter records, new filter) ∧
    String.join ((lines filter records).map (· ++ "\n")) =
      String.join ((kept filter records).map LogRecord.text) := by
  obtain ⟨found, handed, ended⟩ :=
    LineBuffer.exists_writeRun ((kept filter records).map LogRecord.text)
  have nothing := eq_nil_of_endedLines_text ended
  rw [nothing] at ended
  have whole : writeRun LineBuffer.write .empty ((kept filter records).map LogRecord.text) =
      (found.map String.ofList, .empty) := LineBuffer.writeRun_eq_iff.mpr ended
  have log : (new filter).writeAll records = (found.map String.ofList, new filter) := by
    rw [new, writeAll_eq, whole]
    rfl
  have own : lines filter records = found.map String.ofList := by
    rw [lines, log]
  rw [own]
  refine ⟨?_, log, ?_⟩
  · apply LineBuffer.writeRun_eq_iff.mpr
    rw [join_flatten, cut]
    exact ended
  · apply String.toList_injective
    rw [ended.joined, String.toList_join]
    simp [List.flatMap_map]

/-- However a text is cut into the pieces that are written, a line buffer hands on the lines of the
text and holds what follows the last line end; the buffer of bytes, which moves from one line end to
the next, hands on and holds the same in bytes. So the records that a log keeps leave it in whole
lines, which are their texts one after the other, and nothing stays behind. -/
theorem delivers_lines :
    (∀ (chunks : List String) (lines : List (List Char)) (rest : List Char),
      writeRun LineBuffer.write .empty chunks = (lines.map String.ofList, ⟨rest⟩) ↔
        EndedLines '\n' (String.join chunks).toList lines rest) ∧
    (∀ chunks : List String, writeRun ByteBuffer.write [] chunks =
      ((writeRun LineBuffer.write .empty chunks).1.map fun line => encode line.toList,
        encode (writeRun LineBuffer.write .empty chunks).2.pending)) ∧
    ∀ (filter : LogFilter) (records : List LogRecord) (pieces : List (List String)),
      (pieces.map String.join = (kept filter records).map fun record =>
        record.level.name ++ ": " ++ record.message ++ "\n") →
        writeRun LineBuffer.write .empty pieces.flatten = (lines filter records, .empty) ∧
        (new filter).writeAll records = (lines filter records, new filter) ∧
        String.join ((lines filter records).map (· ++ "\n")) =
          String.join ((kept filter records).map fun record =>
            record.level.name ++ ": " ++ record.message ++ "\n") :=
  ⟨fun _ _ _ => LineBuffer.writeRun_eq_iff, ByteBuffer.writeRun_eq,
    fun _ _ _ cut => writeRun_pieces cut⟩

/-- Records of a run: one of them is too detailed, another has a line end in its message. -/
def twoLineRecords : List LogRecord :=
  [⟨.debug, "skipped"⟩, ⟨.warn, "first\nsecond"⟩, ⟨.error, "last"⟩]

/-- A log up to warnings hands on the three lines of the two records that it keeps, when the first
one arrives in four pieces with the cuts around its line ends. -/
theorem delivers_lines_twoLineRecords :
    writeRun LineBuffer.write .empty
      ["WARN", ": first", "\nsecond", "\n", "ERROR", ": ", "last\n"] =
        (["WARN: first", "second", "ERROR: last"], .empty) ∧
    (new (.upTo .warn)).writeAll twoLineRecords =
      (["WARN: first", "second", "ERROR: last"], new (.upTo .warn)) := by
  have cut : [["WARN", ": first", "\nsecond", "\n"], ["ERROR", ": ", "last\n"]].map String.join =
      (kept (.upTo .warn) twoLineRecords).map fun record =>
        record.level.name ++ ": " ++ record.message ++ "\n" := by decide +kernel
  have found : lines (.upTo .warn) twoLineRecords = ["WARN: first", "second", "ERROR: last"] := by
    decide +kernel
  obtain ⟨run, log, -⟩ := delivers_lines.2.2 _ _ _ cut
  rw [found] at run log
  exact ⟨run, log⟩

end Log

end GpuScript
