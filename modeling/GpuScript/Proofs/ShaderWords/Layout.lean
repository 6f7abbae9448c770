import GpuScript.Node
import GpuScript.Proofs.ShaderWords.Literal

/-!
# Layouts of the words of a shader

The words of a shader may stand on their lines in any way, with blanks between them and comments
behind them. Every text is the layout of one list of words, each with the line that it stands on
(`exists_lays`, `Lays.eq_wordsOnLines`), and reading the text is reading these words in order
(`readLines_eq_mapM`): a layout of words that encode values gives these values, and a text is
refused for the first of its words that stands for none, with the line of this word
(`Node.readShader_words`).
-/

namespace GpuScript

open Text

namespace ShaderWords

/-- A text lays out words from a line on: line ends, other blanks and comments stand between the
words, and each word has the line on which it stands. -/
inductive Lays : Nat → List Char → List (Located (List Char)) → Prop where
  /-- Nothing lays out no words. -/
  | nothing {line : Nat} : Lays line [] []
  /-- Behind a line end the next line begins. -/
  | lineEnd {line : Nat} {rest : List Char} {placed : List (Located (List Char))}
      (others : Lays (line + 1) rest placed) : Lays line ('\n' :: rest) placed
  /-- A blank that is no line end. -/
  | blank {line : Nat} {character : Char} {rest : List Char} {placed : List (Located (List Char))}
      (separates : isBlank character = true) (inner : character ≠ '\n')
      (others : Lays line rest placed) : Lays line (character :: rest) placed
  /-- A comment, up to the end of the line. -/
  | comment {line : Nat} {text rest : List Char} {placed : List (Located (List Char))}
      (inner : '\n' ∉ text) (ended : ∀ first ∈ rest.head?, first = '\n')
      (others : Lays line rest placed) : Lays line ('#' :: (text ++ rest)) placed
  /-- A word, up to a blank, a comment or the end of the text. -/
  | word {line : Nat} {word rest : List Char} {placed : List (Located (List Char))}
      (nonempty : word ≠ [])
      (plain : ∀ character ∈ word, isBlank character = false ∧ character ≠ '#')
      (ended : ∀ first ∈ rest.head?, isBlank first = true ∨ first = '#')
      (others : Lays line rest placed) : Lays line (word ++ rest) (⟨line, word⟩ :: placed)

/-- Every text is the layout of some words. -/
theorem exists_lays (line : Nat) (text : List Char) : ∃ placed, Lays line text placed := by
  cases text with
  | nil => exact ⟨[], .nothing⟩
  | cons character rest =>
    by_cases newline : character = '\n'
    · obtain ⟨placed, others⟩ := exists_lays (line + 1) rest
      exact ⟨placed, newline ▸ .lineEnd others⟩
    by_cases blank : isBlank character = true
    · obtain ⟨placed, others⟩ := exists_lays line rest
      exact ⟨placed, .blank blank newline others⟩
    by_cases mark : character = '#'
    · obtain ⟨text, behind, rfl, inner, ended⟩ := exists_span (· ≠ '\n') rest
      obtain ⟨placed, others⟩ := exists_lays line behind
      refine ⟨placed, mark ▸ .comment (fun listed => ?_) (fun first opens => ?_) others⟩
      · simpa using inner '\n' listed
      · simpa using ended first opens
    · obtain ⟨word, behind, rfl, plain, ended⟩ :=
        exists_span (fun character => !isBlank character && character ≠ '#') rest
      obtain ⟨placed, others⟩ := exists_lays line behind
      refine ⟨_, .word (List.cons_ne_nil character word) (List.forall_mem_cons.mpr
        ⟨⟨Bool.eq_false_iff.mpr blank, mark⟩, fun other listed => ?_⟩) (fun first opens => ?_)
        others⟩
      · simpa using plain other listed
      · have stops := ended first opens
        by_cases separates : isBlank first = true
        · exact .inl separates
        · exact .inr (by simpa [separates] using stops)
termination_by text.length

/-- The words on lines, the first of which has the given number, each with its line. -/
def wordsOnLines : Nat → List (List Char) → List (Located (List Char))
  | _, [] => []
  | line, first :: rest =>
    (words (beforeComment first)).map (Located.mk line) ++ wordsOnLines (line + 1) rest

/-- The words on lines are read one after the other. -/
theorem readLines_eq_mapM (line : Nat) (lines : List (List Char)) :
    readLines line lines =
      (wordsOnLines line lines).mapM fun word => read word.line word.cause := by
  induction lines generalizing line with
  | nil => rfl
  | cons first rest ih =>
    rw [readLines, wordsOnLines, List.mapM_append, List.mapM_map, ih]
    rfl

/-- Text that ends no line stands on the first line of what it is put in front of. -/
theorem exists_physicalLines_append {front : List Char} (nonempty : front ≠ [])
    (open_ : '\n' ∉ front) (rest : List Char) :
    ∃ first others,
      (∀ line, wordsOnLines line (physicalLines rest) = wordsOnLines line (first :: others)) ∧
      physicalLines (front ++ rest) = (front ++ first) :: others ∧
      first.head? = rest.head? := by
  cases rest with
  | nil =>
    refine ⟨[], [], fun line => rfl, ?_, rfl⟩
    rw [List.append_nil, physicalLines_of_open nonempty open_]
  | cons character rest =>
    by_cases ended : '\n' ∈ character :: rest
    · obtain ⟨content, behind, inner, split⟩ := exists_closed_line ended
      have free : '\n' ∉ front ++ content :=
        fun listed => (List.mem_append.mp listed).elim open_ inner
      refine ⟨content ++ ['\n'], physicalLines behind, fun line => ?_, ?_, ?_⟩
      · rw [split, physicalLines_cons inner]
      · rw [split, ← List.append_assoc, physicalLines_cons free, List.append_assoc]
      · rw [split]
        cases content <;> rfl
    · have free : '\n' ∉ front ++ character :: rest :=
        fun listed => (List.mem_append.mp listed).elim open_ ended
      refine ⟨character :: rest, [], fun line => ?_, ?_, rfl⟩
      · rw [physicalLines_of_open (List.cons_ne_nil _ _) ended]
      · rw [physicalLines_of_open (List.append_ne_nil_of_left_ne_nil nonempty _) free]

/-- The words that a text lays out are those on its lines. -/
theorem Lays.eq_wordsOnLines {line : Nat} {text : List Char} {placed : List (Located (List Char))}
    (lays : Lays line text placed) : placed = wordsOnLines line (physicalLines text) := by
  induction lays with
  | nothing => rfl
  | @lineEnd line rest placed _ ih =>
    have cut : physicalLines ('\n' :: rest) = ['\n'] :: physicalLines rest :=
      physicalLines_cons List.not_mem_nil rest
    rw [ih, cut]
    rfl
  | @blank line character rest placed separates inner _ ih =>
    have open_ : '\n' ∉ [character] := by simpa using inner.symm
    obtain ⟨first, others, same, cut, -⟩ :=
      exists_physicalLines_append (List.cons_ne_nil character []) open_ rest
    have mark : character ≠ '#' := by
      rintro rfl
      exact absurd separates (by decide)
    have kept : beforeComment (character :: first) = character :: beforeComment first :=
      List.takeWhile_cons_of_pos (by simpa using mark)
    rw [List.singleton_append, List.singleton_append] at cut
    rw [ih, same, cut, wordsOnLines, wordsOnLines, kept, words_cons separates]
  | @comment line text rest placed inner ended _ ih =>
    have open_ : '\n' ∉ '#' :: text := List.not_mem_cons_of_ne_of_not_mem (by decide) inner
    rw [ih]
    cases rest with
    | nil =>
      rw [List.append_nil, physicalLines_of_open (List.cons_ne_nil _ _) open_]
      rfl
    | cons first behind =>
      obtain rfl := ended first rfl
      have cut : physicalLines ('\n' :: behind) = ['\n'] :: physicalLines behind :=
        physicalLines_cons List.not_mem_nil behind
      rw [cut, ← List.cons_append, physicalLines_cons open_]
      rfl
  | @word line word rest placed nonempty plain ended _ ih =>
    have open_ : '\n' ∉ word := fun listed => absurd (plain '\n' listed).1 (by decide)
    obtain ⟨first, others, same, cut, opens⟩ := exists_physicalLines_append nonempty open_ rest
    have kept : beforeComment (word ++ first) = word ++ beforeComment first :=
      List.takeWhile_append_of_pos fun character listed => by simpa using (plain character listed).2
    -- A comment right behind the word is cut off, and then nothing is left behind the word.
    have ends : OpensBlank (beforeComment first) := by
      intro character found
      cases first with
      | nil => cases found
      | cons front behind =>
        by_cases mark : front = '#'
        · subst mark
          cases found
        · rw [beforeComment, List.takeWhile_cons_of_pos (by simpa using mark)] at found
          obtain rfl := Option.some.inj found
          exact (ended front (opens ▸ rfl)).resolve_right mark
    rw [ih, same, cut, wordsOnLines, wordsOnLines, kept,
      words_append nonempty (fun character listed => (plain character listed).1) ends]
    rfl

/-- A text lays out no words but those on its lines. -/
theorem lays_iff {line : Nat} {text : List Char} {placed : List (Located (List Char))} :
    Lays line text placed ↔ placed = wordsOnLines line (physicalLines text) := by
  refine ⟨Lays.eq_wordsOnLines, ?_⟩
  rintro rfl
  obtain ⟨placed, lays⟩ := exists_lays line text
  exact lays.eq_wordsOnLines ▸ lays

/-- A text is read as the words that it lays out, one after the other. -/
theorem Lays.parse_eq_mapM {text : String} {firstLine : Nat} {placed : List (Located (List Char))}
    (lays : Lays firstLine text.toList placed) :
    parse text firstLine = placed.mapM fun word => read word.line word.cause := by
  rw [parse, readLines_eq_mapM, lays.eq_wordsOnLines]

end ShaderWords

namespace Node

open ShaderWords

/-- The shader of a section with hexadecimal words. -/
theorem result_readShader_words (stage : Stage) (body : String) (firstLine : Nat) :
    (readShader stage .words body firstLine).result =
      mapBoth (ScriptError.ofLocated .shaderWord)
        (fun values => some (.shader stage (.words values)))
        (ShaderWords.parse body firstLine) := by
  rw [readShader, readSource]
  cases ShaderWords.parse body firstLine <;> rfl

/-- A section that lays out words which encode values is a shader of exactly these values. Any body
lays out one list of words. It is a shader if all of these words stand for values, and otherwise it
is refused for the first of them that does not, with the line of this word. -/
theorem readShader_words (stage : Stage) (body : String) (firstLine : Nat) :
    let result := (readShader stage .words body firstLine).result
    (∀ placed values, Lays firstLine body.toList placed →
      List.Forall₂ (fun word value => Encodes word.cause value) placed values →
      result = .ok (some (.shader stage (.words values)))) ∧
    ∃ placed, (∀ other, Lays firstLine body.toList other ↔ other = placed) ∧
      (∀ node?, result = .ok node? ↔
        ∃ values, List.Forall₂ (fun word value => StandsFor word.cause value) placed values ∧
          node? = some (.shader stage (.words values))) ∧
      ∀ error, result = .error error ↔
        ∃ before word after, placed = before ++ word :: after ∧
          (∀ other ∈ before, ∃ value, StandsFor other.cause value) ∧
          (¬ ∃ value, StandsFor word.cause value) ∧
          error = .line ⟨word.line, .shaderWord (String.ofList word.cause)⟩ ∧
          error.message = "Invalid hex value: " ++ String.ofList word.cause := by
  intro result
  have whole : result = mapBoth (ScriptError.ofLocated .shaderWord)
      (fun values => some (.shader stage (.words values))) (ShaderWords.parse body firstLine) :=
    result_readShader_words stage body firstLine
  obtain ⟨placed, lays⟩ := exists_lays firstLine body.toList
  have only (other : List (Located (List Char))) :
      Lays firstLine body.toList other ↔ other = placed := by
    rw [lays_iff, lays.eq_wordsOnLines]
  have accepted (values : List UInt32) : ShaderWords.parse body firstLine = .ok values ↔
      List.Forall₂ (fun word value => StandsFor word.cause value) placed values := by
    rw [lays.parse_eq_mapM, mapM_eq_ok_iff]
    simp only [read_eq_ok_iff]
  refine ⟨fun other values layout encoded => ?_, placed, only, fun node? => ?_, fun error => ?_⟩
  · obtain rfl := (only other).mp layout
    have values_ := (accepted values).mpr (encoded.imp fun _ _ => Encodes.standsFor)
    rw [whole, values_]
    rfl
  · rw [whole, mapBoth_eq_ok]
    simp only [accepted, eq_comm]
  · rw [whole, mapBoth_eq_error, lays.parse_eq_mapM]
    simp only [mapM_eq_error_iff, read_eq_ok_iff, read_eq_error_iff]
    constructor
    · rintro ⟨_, ⟨before, word, after, split, clean, wrong, rfl⟩, rfl⟩
      exact ⟨before, word, after, split, clean, wrong, rfl, rfl⟩
    · rintro ⟨before, word, after, split, clean, wrong, rfl, -⟩
      exact ⟨_, ⟨before, word, after, split, clean, wrong, rfl⟩, rfl⟩

end Node

end GpuScript
