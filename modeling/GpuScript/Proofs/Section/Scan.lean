import GpuScript.Proofs.Checked.Section

/-!
# Headers read from the front

The name in a header can be read without cutting it into words first: blanks and a word are taken
away at its front, and then the next word, as long as the words of some kind of section go on. A
stage is looked for first, with the word behind it, and then what may follow; a name that belongs
to no shader is compared as a whole. The line itself is read by the places of its brackets.

A word counts only if a blank or nothing is behind it, so taking words away does to the words of the
name what it does to its text (`map_nameWords_stripWords?`), and what is found depends on these
words alone (`map_nameWords_stageBefore?`, `kindOfTail?_eq`).
-/

namespace GpuScript.Section

open Text

/-- The words of the name in a header. -/
def nameWords (name : List Char) : List String :=
  (words name).map String.ofList

/-- The text behind a word at its front, if blanks at most stand before the word and it ends
there. -/
def stripWord? (word : String) (text : List Char) : Option (List Char) :=
  match word.toList.isPrefixOf? (trimStart text) with
  | none => none
  | some [] => some []
  | some (next :: rest) => if isBlank next then some (next :: rest) else none

/-- The text behind words at its front. -/
def stripWords? (words : List String) (text : List Char) : Option (List Char) :=
  words.foldlM (fun rest word => stripWord? word rest) text

/-- The stage whose name a text opens with in front of a word, and the text behind that word. -/
def stageBefore? (word : String) (text : List Char) : Option (Stage × List Char) :=
  Stage.all.findSome? fun stage =>
    ((stripWords? stage.words text).bind (stripWord? word)).map fun tail => (stage, tail)

/-- The kind of section if nothing follows. -/
def closing? (kind : SectionKind) (tail : List Char) : Option SectionKind :=
  if tail.all isBlank then some kind else none

/-- The kind of a shader section, by the text behind `shader`. -/
def kindOfTail? (stage : Stage) (tail : List Char) : Option SectionKind :=
  match stripWords? ["spirv", "hex"] tail with
  | some rest => closing? (.shader stage .words) rest
  | none =>
    match stripWord? "spirv" tail with
    | some rest => closing? (.shader stage .assembly) rest
    | none =>
      match stripWord? "binary" tail with
      | some rest => closing? (.shader stage .words) rest
      | none =>
        match stripWord? "passthrough" tail with
        | some rest => if stage = .vertex then closing? .passthrough rest else none
        | none => closing? (.shader stage .glsl) tail

/-- The kind of a section by its name: a shader section, or one whose name is told as a whole. -/
def kindOfName? (name : List Char) : Option SectionKind :=
  match (stageBefore? "shader" name).bind fun found => kindOfTail? found.1 found.2 with
  | some kind => some kind
  | none =>
    match nameWords name with
    | ["comment"] => some .comment
    | ["require"] => some .require
    | ["vertex", "data"] => some .vertexData
    | ["indices"] => some .indices
    | ["test"] => some .test
    | _ => none

/-- The kind of section that a header line opens, by the places of its brackets and by the words at
the front of its name; nothing if a place is none of the line. -/
def scanHeader? (line : List Char) : Option (Except Error SectionKind) :=
  match Checked.placeOf? ']' line with
  | none => some (.error .missingBracket)
  | some place => do
    let (before, after) ← Checked.split? (trimEnd line) place
    if after = [']'] then
      let name ← Checked.slice? before 1 (Checked.byteLength before)
      match kindOfName? name with
      | some kind => some (.ok kind)
      | none => some (.error (.unknownKind (String.ofList (trim name))))
    else
      some (.error .trailingData)

/-- No character of a word is blank. -/
theorem isBlank_of_isWord {word : String} (clean : IsWord word) :
    ∀ character ∈ word.toList, isBlank character = false := by
  intro character listed
  have plain := clean.plain character listed
  simp only [isSeparator, Bool.or_eq_false_iff] at plain
  exact plain.1.1.1.1.1

/-- A word is taken away where it stands behind blanks at the front and ends. -/
theorem stripWord?_eq_some_iff {word : String} {text tail : List Char} :
    stripWord? word text = some tail ↔
      trimStart text = word.toList ++ tail ∧ OpensBlank tail := by
  rw [stripWord?, eq_comm (a := trimStart text), ← List.isPrefixOf?_eq_some_iff_append_eq]
  cases word.toList.isPrefixOf? (trimStart text) with
  | none => simp
  | some found =>
    cases found with
    | nil =>
      simp only [Option.some.injEq]
      refine ⟨?_, And.left⟩
      rintro rfl
      exact ⟨rfl, nofun⟩
    | cons next rest =>
      simp only [Option.ite_none_right_eq_some, Option.some.injEq]
      constructor
      · rintro ⟨blank, rfl⟩
        refine ⟨rfl, fun first opens => ?_⟩
        obtain rfl := Option.some.inj opens
        exact blank
      · rintro ⟨rfl, ends⟩
        exact ⟨ends next rfl, rfl⟩

/-- Taking a word away at the front takes it away from the words of the text, and fails if they do
not open with it. -/
theorem map_nameWords_stripWord? {word : String} (clean : IsWord word) (text : List Char) :
    (stripWord? word text).map nameWords = [word].isPrefixOf? (nameWords text) := by
  have plain := isBlank_of_isWord clean
  cases found : stripWord? word text with
  | some tail =>
    obtain ⟨split, ends⟩ := stripWord?_eq_some_iff.mp found
    have cut := words_append clean.nonempty plain ends
    rw [← split, words_trimStart] at cut
    have opens : nameWords text = [word] ++ nameWords tail := by
      rw [nameWords, cut, List.map_cons, String.ofList_toList]
      rfl
    rw [opens, Option.map_some, eq_comm, List.isPrefixOf?_eq_some_iff_append_eq]
  | none =>
    rw [Option.map_none, eq_comm, Option.eq_none_iff_forall_ne_some]
    intro others opens
    have opens := List.isPrefixOf?_eq_some_iff_append_eq.mp opens
    rcases words_cases text with ⟨_, empty⟩ | ⟨first, rest, _, _, ends, split, cut⟩
    · rw [nameWords, empty] at opens
      cases opens
    · rw [nameWords, cut] at opens
      obtain ⟨same, -⟩ := List.cons.inj opens
      have taken : stripWord? word text = some rest :=
        stripWord?_eq_some_iff.mpr ⟨by rw [split, same, String.toList_ofList], ends⟩
      cases found.symm.trans taken

/-- The words of a stage are words. -/
theorem Stage.isWord_of_mem_words {stage : Stage} {word : String} (listed : word ∈ stage.words) :
    IsWord word := by
  revert word
  cases stage <;> decide

/-- Taking words away at the front takes them away from the words of the text. -/
theorem map_nameWords_stripWords? {words : List String} (clean : ∀ word ∈ words, IsWord word)
    (text : List Char) :
    (stripWords? words text).map nameWords = words.isPrefixOf? (nameWords text) := by
  induction words generalizing text with
  | nil => rfl
  | cons word rest ih =>
    obtain ⟨own, others⟩ := List.forall_mem_cons.mp clean
    have first := map_nameWords_stripWord? own text
    rw [stripWords?, List.foldlM_cons]
    cases found : stripWord? word text with
    | none =>
      rw [found, Option.map_none, eq_comm, Option.eq_none_iff_forall_ne_some] at first
      refine (Option.eq_none_iff_forall_ne_some.mpr fun after opens => ?_).symm
      have opens := List.isPrefixOf?_eq_some_iff_append_eq.mp opens
      exact first _ (List.isPrefixOf?_eq_some_iff_append_eq.mpr opens)
    | some tail =>
      rw [found] at first
      have opens := List.isPrefixOf?_eq_some_iff_append_eq.mp first.symm
      rw [← opens, List.singleton_append, List.isPrefixOf?, beq_self_eq_true, if_pos rfl]
      exact ih others tail

/-- Nothing follows where there are no words. -/
theorem closing?_eq (kind : SectionKind) (tail : List Char) :
    closing? kind tail = if nameWords tail = [] then some kind else none := by
  have blank : (tail.all isBlank = true) = (nameWords tail = []) := by
    rw [← words_eq_nil_iff, nameWords, List.map_eq_nil_iff]
  rw [closing?]
  simp only [blank]

/-- Behind a word that is taken away are the other words of the text. -/
theorem nameWords_of_stripWord? {word : String} (clean : IsWord word) {text tail : List Char}
    (taken : stripWord? word text = some tail) : nameWords text = word :: nameWords tail := by
  have opens := map_nameWords_stripWord? clean text
  rw [taken] at opens
  exact (List.isPrefixOf?_eq_some_iff_append_eq.mp opens.symm).symm

/-- The words of a text do not open with a word that cannot be taken away. -/
theorem ne_of_stripWord?_eq_none {word : String} (clean : IsWord word) {text : List Char}
    (kept : stripWord? word text = none) (others : List String) :
    nameWords text ≠ word :: others := by
  intro opens
  have taken := map_nameWords_stripWord? clean text
  rw [kept, opens, List.isPrefixOf?, beq_self_eq_true, if_pos rfl] at taken
  cases taken

/-- What follows `shader` tells the kind of section by its words. -/
theorem kindOfTail?_eq (stage : Stage) (tail : List Char) :
    kindOfTail? stage tail = SectionKind.ofShaderWords? stage ("shader" :: nameWords tail) := by
  have spirv : IsWord "spirv" := by decide
  have binary : IsWord "binary" := by decide
  have passthrough : IsWord "passthrough" := by decide
  have clean : ∀ word ∈ ["spirv", "hex"], IsWord word := by decide
  have both := map_nameWords_stripWords? clean tail
  rw [kindOfTail?]
  cases taken : stripWords? ["spirv", "hex"] tail with
  | some rest =>
    rw [taken] at both
    rw [← List.isPrefixOf?_eq_some_iff_append_eq.mp both.symm]
    dsimp only
    rw [closing?_eq]
    cases nameWords rest <;> rfl
  | none =>
    have notBoth (others : List String) : nameWords tail ≠ "spirv" :: "hex" :: others := by
      intro opens
      rw [taken, opens] at both
      cases both
    dsimp only
    split
    · rename_i rest alone
      have cut := nameWords_of_stripWord? spirv alone
      rw [closing?_eq, cut]
      rcases split : nameWords rest with _ | ⟨second, others⟩
      · rfl
      · have other : second ≠ "hex" := by
          rintro rfl
          exact notBoth others (cut.trans (congrArg _ split))
        simp [SectionKind.ofShaderWords?, other]
    · rename_i notSpirv
      split
      · rename_i rest alone
        rw [closing?_eq, nameWords_of_stripWord? binary alone]
        cases nameWords rest <;> rfl
      · rename_i notBinary
        split
        · rename_i rest alone
          rw [closing?_eq, nameWords_of_stripWord? passthrough alone]
          cases nameWords rest <;> simp [SectionKind.ofShaderWords?]
        · rename_i notThrough
          rw [closing?_eq]
          rcases cut : nameWords tail with _ | ⟨first, others⟩
          · rfl
          · have none_ : first ≠ "spirv" ∧ first ≠ "binary" ∧ first ≠ "passthrough" := by
              refine ⟨?_, ?_, ?_⟩ <;> rintro rfl
              · exact ne_of_stripWord?_eq_none spirv notSpirv others cut
              · exact ne_of_stripWord?_eq_none binary notBinary others cut
              · exact ne_of_stripWord?_eq_none passthrough notThrough others cut
            simp [SectionKind.ofShaderWords?, none_]

/-- The stage in front of a word and what is behind it are those of the words of the text. -/
theorem map_nameWords_stageBefore? {word : String} (clean : IsWord word) (text : List Char) :
    (stageBefore? word text).map (fun found => (found.1, nameWords found.2)) =
      Stage.all.findSome? fun stage =>
        ((stage.words ++ [word]).isPrefixOf? (nameWords text)).map fun others =>
          (stage, others) := by
  rw [stageBefore?, List.map_findSome?]
  refine congrArg (fun look => Stage.all.findSome? look) (funext fun stage => ?_)
  have whole : ∀ other ∈ stage.words ++ [word], IsWord other := by
    refine List.forall_mem_append.mpr ⟨fun _ => Stage.isWord_of_mem_words, ?_⟩
    exact List.forall_mem_singleton.mpr clean
  have strips : (stripWords? stage.words text).bind (stripWord? word) =
      stripWords? (stage.words ++ [word]) text := by
    rw [stripWords?, stripWords?, List.foldlM_append]
    refine congrArg _ (funext fun tail => ?_)
    rw [List.foldlM_cons]
    cases stripWord? word tail <;> rfl
  rw [Function.comp_apply, strips, ← map_nameWords_stripWords? whole, Option.map_map,
    Option.map_map]
  rfl

end GpuScript.Section
