import GpuScript.Proofs.Script.Replacing

/-!
# Lines that are never read

A source is read by calls that hand out one line each, and a line without characters says that
there are no more. The end of the text says so, and so does a line that is empty after its
replacements: the lines after it are left unread. This module follows the calls (`Source.Reads`)
and tells for a script that is accepted whether all of its lines have been read
(`Script.unread_eq_nil_iff`).

The induction is on the calls. What carries it is that each of them takes exactly the line that
comes next, so that the first line that is empty decides what is left.
-/

namespace GpuScript

open Text

namespace Source

/-- What is left of a source while it is read. -/
structure Stream where
  /-- The physical lines that have not been read. -/
  lines : List (Option (List Char))
  /-- The number of the next line. -/
  number : Nat
  deriving DecidableEq

/-- One call: the next line after its replacements, or an empty one if there are no more lines, and
what is left. -/
def readLine (source : Source) : Stream → Except ScriptError (List Char) × Stream
  | ⟨[], number⟩ => (.ok [], ⟨[], number⟩)
  | ⟨line :: rest, number⟩ => (source.expand number line, ⟨rest, number + 1⟩)

/-- The calls that read a source, with the lines that they give and what they leave: the calls end
with an empty line or with one that is refused. -/
inductive Reads (source : Source) :
    Stream → List (Except ScriptError (List Char)) → Stream → Prop where
  /-- The call gives an empty line. -/
  | nothing {stream left : Stream} (call : source.readLine stream = (.ok [], left)) :
    Reads source stream [] left
  /-- The line of the call is refused. -/
  | refused {stream left : Stream} {error : ScriptError}
    (call : source.readLine stream = (.error error, left)) :
    Reads source stream [.error error] left
  /-- The call gives a line, and others follow it. -/
  | line {stream next left : Stream} {line : List Char}
    {read : List (Except ScriptError (List Char))}
    (call : source.readLine stream = (.ok line, next)) (nonempty : line ≠ [])
    (others : Reads source next read left) :
    Reads source stream (.ok line :: read) left

/-- The replacements leave nothing of a line, not even its end. -/
def Empties (source : Source) (line : Option (List Char)) : Prop :=
  line.bind (Replacement.applyAll? source.replacements) = some []

instance (source : Source) (line : Option (List Char)) : Decidable (source.Empties line) :=
  inferInstanceAs (Decidable (_ = _))

variable {source : Source}

/-- A line is read as an empty one exactly if the replacements leave nothing of it. -/
theorem expand_eq_nil_iff {number : Nat} {line : Option (List Char)} :
    source.expand number line = .ok [] ↔ source.Empties line := by
  cases line with
  | none => simp [expand, Empties]
  | some line =>
    cases applied : Replacement.applyAll? source.replacements line <;>
      simp [expand, Empties, applied]

/-- A call gives an empty line at the end of the text, and for a line that the replacements
empty. -/
theorem readLine_eq_nil_iff {stream : Stream} :
    (source.readLine stream).1 = .ok [] ↔
      stream.lines = [] ∨ ∃ line ∈ stream.lines.head?, source.Empties line := by
  obtain ⟨lines, number⟩ := stream
  cases lines with
  | nil => simp [readLine]
  | cons line rest => simp [readLine, expand_eq_nil_iff]

/-- The calls give the lines of the source as they are read from the next one on. -/
theorem Reads.eq_readLines {stream left : Stream} {read : List (Except ScriptError (List Char))}
    (run : source.Reads stream read left) :
    read = source.readLines stream.number stream.lines := by
  induction run with
  | @nothing stream left call =>
    obtain ⟨lines, number⟩ := stream
    cases lines with
    | nil => rfl
    | cons line rest =>
      have own : source.expand number line = .ok [] := congrArg Prod.fst call
      rw [readLines, own]
  | @refused stream left error call =>
    obtain ⟨lines, number⟩ := stream
    cases lines with
    | nil => cases call
    | cons line rest =>
      have own : source.expand number line = .error error := congrArg Prod.fst call
      rw [readLines, own]
  | @line stream next left expanded read call nonempty others ih =>
    obtain ⟨lines, number⟩ := stream
    cases lines with
    | nil => exact absurd (Except.ok.inj (congrArg Prod.fst call)).symm nonempty
    | cons line rest =>
      have own : source.expand number line = .ok expanded := congrArg Prod.fst call
      obtain rfl : ⟨rest, number + 1⟩ = next := congrArg Prod.snd call
      obtain ⟨first, others, rfl⟩ := List.exists_cons_of_ne_nil nonempty
      rw [readLines, own, ih]

/-- The calls come to an end on every source. -/
theorem exists_reads (source : Source) (lines : List (Option (List Char))) (number : Nat) :
    ∃ read left, source.Reads ⟨lines, number⟩ read left := by
  induction lines generalizing number with
  | nil => exact ⟨[], _, .nothing rfl⟩
  | cons line rest ih =>
    cases own : source.expand number line with
    | error error => exact ⟨_, _, .refused (by rw [readLine, own])⟩
    | ok expanded =>
      by_cases empty : expanded = []
      · subst empty
        exact ⟨[], _, .nothing (by rw [readLine, own])⟩
      · obtain ⟨read, left, others⟩ := ih (number + 1)
        exact ⟨_, left, .line (by rw [readLine, own]) empty others⟩

/-- The calls leave the last lines of a source, and the number of the next one tells how many lines
stand before them. -/
theorem Reads.exists_append {stream left : Stream} {read : List (Except ScriptError (List Char))}
    (run : source.Reads stream read left) :
    ∃ passed, stream.lines = passed ++ left.lines ∧
      left.number = stream.number + passed.length := by
  have call {stream next : Stream} {result : Except ScriptError (List Char)}
      (call : source.readLine stream = (result, next)) :
      ∃ passed, stream.lines = passed ++ next.lines ∧
        next.number = stream.number + passed.length := by
    obtain ⟨lines, number⟩ := stream
    obtain rfl := congrArg Prod.snd call
    cases lines with
    | nil => exact ⟨[], rfl, rfl⟩
    | cons line rest => exact ⟨[line], rfl, rfl⟩
  induction run with
  | nothing last => exact call last
  | refused last => exact call last
  | line first _ _ ih =>
    obtain ⟨own, split, number⟩ := call first
    obtain ⟨passed, later, count⟩ := ih
    refine ⟨own ++ passed, by rw [split, later, List.append_assoc], ?_⟩
    rw [count, number, List.length_append, Nat.add_assoc]

/-- If no line is refused, all lines are read exactly if the replacements empty none of them except
the last. -/
theorem Reads.left_eq_nil_iff {stream left : Stream} {done : List (List Char)}
    (run : source.Reads stream (done.map .ok) left) :
    left.lines = [] ↔ ∀ line ∈ stream.lines.dropLast, ¬ source.Empties line := by
  generalize same : done.map Except.ok = read at run
  induction run generalizing done with
  | @nothing stream left call =>
    obtain ⟨lines, number⟩ := stream
    cases lines with
    | nil =>
      obtain rfl := congrArg Prod.snd call
      simp [readLine]
    | cons line rest =>
      have emptied : source.Empties line := expand_eq_nil_iff.mp (congrArg Prod.fst call)
      obtain rfl : ⟨rest, number + 1⟩ = left := congrArg Prod.snd call
      cases rest with
      | nil => simp
      | cons second others => simp [emptied]
  | refused call =>
    -- The lines that are given are none of them refused.
    obtain ⟨line, _, impossible⟩ := List.mem_map.mp (same ▸ List.mem_singleton_self _)
    cases impossible
  | @line stream next left expanded read call nonempty others ih =>
    obtain ⟨lines, number⟩ := stream
    cases lines with
    | nil => exact absurd (Except.ok.inj (congrArg Prod.fst call)).symm nonempty
    | cons line rest =>
      obtain ⟨_, later, rfl, _, tail⟩ := List.map_eq_cons_iff.mp same
      have own : source.expand number line = .ok expanded := congrArg Prod.fst call
      obtain rfl : ⟨rest, number + 1⟩ = next := congrArg Prod.snd call
      have kept : ¬ source.Empties line := by
        intro emptied
        have nothing : source.expand number line = .ok [] := expand_eq_nil_iff.mpr emptied
        exact nonempty (Except.ok.inj (own.symm.trans nothing))
      rw [ih tail]
      cases rest with
      | nil => simp
      | cons second others => simp [kept]

/-- The calls give lines that are not refused up to the end, or up to one that is. -/
theorem Reads.shape {stream left : Stream} {read : List (Except ScriptError (List Char))}
    (run : source.Reads stream read left) :
    ∃ done : List (List Char),
      read = done.map .ok ∨ ∃ error, read = done.map .ok ++ [.error error] := by
  induction run with
  | nothing _ => exact ⟨[], .inl rfl⟩
  | @refused _ _ error _ => exact ⟨[], .inr ⟨error, rfl⟩⟩
  | @line _ _ _ line read _ _ _ ih =>
    obtain ⟨done, whole | ⟨error, whole⟩⟩ := ih
    · exact ⟨line :: done, .inl (by rw [whole, List.map_cons])⟩
    · exact ⟨line :: done, .inr ⟨error, by rw [whole, List.map_cons, List.cons_append]⟩⟩

end Source

namespace Section

/-- The sections of a source are told from the lines that the calls give, and none of these is
refused. -/
theorem exists_done_of_split {files : Files} {source : Source}
    {lines : List (Option (List Char))} (opened : source.physicalLines files = .ok lines)
    {read : List (Except ScriptError (List Char))} {left : Source.Stream}
    (run : source.Reads ⟨lines, 1⟩ read left) {strict : Bool} {sections : List Section}
    (accepted : (split files strict source).2 = .ok sections) :
    ∃ done : List (List Char), read = done.map .ok ∧
      (splitLines strict .start 1 (done.map .ok)).result.map Prod.snd = .ok sections := by
  have given : source.lines files = .ok read := by
    rw [Source.lines, opened, run.eq_readLines]
    rfl
  rw [split_of_lines given] at accepted
  obtain ⟨done, rfl | ⟨error, rfl⟩⟩ := run.shape
  · exact ⟨done, rfl, accepted⟩
  · rw [splitLines_append_error] at accepted
    cases accepted

end Section

namespace Script

/-- A script that is accepted has been split. -/
theorem exists_split_of_load {files : Files} {config : Config} {source : Source} {script : Script}
    (accepted : (load files config source).2 = .ok script) :
    ∃ sections, (Section.split files config.strict source).2 = .ok sections := by
  cases outcome : (Section.split files config.strict source).2 with
  | ok sections => exact ⟨sections, rfl⟩
  | error error =>
    rw [load_of_split_error outcome] at accepted
    cases accepted

/-- A source that can be opened is read by calls, each for one line. A call gives an empty line at
the end of the text, and also for a line that the replacements empty. The calls leave the last lines
of the source; if its sections are found, or even the script is accepted, then they leave none
exactly if the replacements empty no line except perhaps the last. -/
theorem unread_eq_nil_iff {files : Files} {source : Source} {lines : List (Option (List Char))}
    (opened : source.physicalLines files = .ok lines) :
    (∀ stream, (source.readLine stream).1 = .ok [] ↔
      stream.lines = [] ∨ ∃ line ∈ stream.lines.head?, source.Empties line) ∧
    ∃ read passed unread number, source.lines files = .ok read ∧
      source.Reads ⟨lines, 1⟩ read ⟨unread, number⟩ ∧
      lines = passed ++ unread ∧ number = passed.length + 1 ∧
      (∀ strict sections, (Section.split files strict source).2 = .ok sections →
        (unread = [] ↔ ∀ line ∈ lines.dropLast, ¬ source.Empties line)) ∧
      ∀ config script, (load files config source).2 = .ok script →
        (unread = [] ↔ ∀ line ∈ lines.dropLast, ¬ source.Empties line) := by
  refine ⟨fun stream => Source.readLine_eq_nil_iff, ?_⟩
  obtain ⟨read, ⟨unread, number⟩, run⟩ := source.exists_reads lines 1
  obtain ⟨passed, whole, count⟩ := run.exists_append
  have given : source.lines files = .ok read := by
    rw [Source.lines, opened, run.eq_readLines]
    rfl
  have all {strict : Bool} {sections : List Section}
      (accepted : (Section.split files strict source).2 = .ok sections) :
      unread = [] ↔ ∀ line ∈ lines.dropLast, ¬ source.Empties line := by
    obtain ⟨done, rfl, _⟩ := Section.exists_done_of_split opened run accepted
    exact run.left_eq_nil_iff
  refine ⟨read, passed, unread, number, given, run, whole, ?_, fun _ _ => all, ?_⟩
  · change number = 1 + passed.length at count
    omega
  · intro config script accepted
    obtain ⟨sections, found⟩ := exists_split_of_load accepted
    exact all found

/-- A test whose second line is removed together with its end. -/
def skippedSource : Source :=
  ⟨.text "[test]\nskip\nclear\n", [⟨"skip\n", ""⟩]⟩

/-- The script is accepted, but the line after the one that is removed is left unread, and with it
the only command. -/
theorem unread_eq_nil_iff_skippedSource :
    let files : Files := fun _ => .ok .empty
    let lines := ["[test]\n", "skip\n", "clear\n"].map fun line => some line.toList
    skippedSource.physicalLines files = .ok lines ∧
    ((load files Config.default skippedSource).2.map Script.commands = .ok []) ∧
    ∃ read passed unread number, skippedSource.lines files = .ok read ∧
      skippedSource.Reads ⟨lines, 1⟩ read ⟨unread, number⟩ ∧
      lines = passed ++ unread ∧ unread ≠ [] := by
  intro files lines
  have opened : skippedSource.physicalLines files = .ok lines := by decide +kernel
  have accepted : (load files Config.default skippedSource).2.map Script.commands = .ok [] := by
    decide +kernel
  obtain ⟨_, read, passed, unread, number, given, run, whole, _, _, found⟩ :=
    unread_eq_nil_iff opened
  obtain ⟨script, outcome, _⟩ := map_eq_ok.mp accepted
  refine ⟨opened, accepted, read, passed, unread, number, given, run, whole, fun none_ => ?_⟩
  have kept := (found Config.default script outcome).mp none_ (some "skip\n".toList) (by decide)
  exact kept (by decide +kernel)

end Script

end GpuScript
