import GpuScript.Proofs.Section.Scan

/-!
# The grammar of headers

The words between the brackets of a header name the kind of its section (`SectionKind.NamedBy`). A
line with an opening bracket at its front opens a section of a kind if, blanks at its end apart, it
closes the bracket once, at its end, around words that name this kind (`Opens`); otherwise it is
refused for the first of three reasons (`Refuses`). Both readings of a header, the one that cuts the
name into words and the one that takes them away from its front, follow this grammar
(`header_iff_grammar`).
-/

namespace GpuScript

open Text

/-- Words name a kind of section. -/
inductive SectionKind.NamedBy : SectionKind → List String → Prop where
  /-- A comment. -/
  | comment : NamedBy .comment ["comment"]
  /-- What the script requires. -/
  | require : NamedBy .require ["require"]
  /-- The data of the vertices. -/
  | vertexData : NamedBy .vertexData ["vertex", "data"]
  /-- The indices of the vertices. -/
  | indices : NamedBy .indices ["indices"]
  /-- The commands of a test. -/
  | test : NamedBy .test ["test"]
  /-- The vertex shader that hands its input on. -/
  | passthrough : NamedBy .passthrough ["vertex", "shader", "passthrough"]
  /-- The source text of a shader. -/
  | source (stage : Stage) : NamedBy (.shader stage .glsl) (stage.words ++ ["shader"])
  /-- The assembly text of a shader. -/
  | assembly (stage : Stage) :
    NamedBy (.shader stage .assembly) (stage.words ++ ["shader", "spirv"])
  /-- The words of an assembled shader. -/
  | binary (stage : Stage) : NamedBy (.shader stage .words) (stage.words ++ ["shader", "binary"])
  /-- The words of an assembled shader, by their notation. -/
  | hexadecimal (stage : Stage) :
    NamedBy (.shader stage .words) (stage.words ++ ["shader", "spirv", "hex"])

namespace SectionKind

/-- The words behind a stage that give a kind of section name it together with the stage. -/
theorem namedBy_of_ofShaderWords? {stage : Stage} {words : List String} {kind : SectionKind}
    (found : ofShaderWords? stage words = some kind) : kind.NamedBy (stage.words ++ words) := by
  unfold ofShaderWords? at found
  split at found
  · exact Option.some.inj found ▸ .source stage
  · exact Option.some.inj found ▸ .assembly stage
  · exact Option.some.inj found ▸ .hexadecimal stage
  · exact Option.some.inj found ▸ .binary stage
  · obtain ⟨rfl, named⟩ := Option.ite_none_right_eq_some.mp found
    exact Option.some.inj named ▸ .passthrough
  · cases found

/-- Words give the kind of section that they name. -/
theorem ofWords?_eq_some_iff {words : List String} {kind : SectionKind} :
    ofWords? words = some kind ↔ kind.NamedBy words := by
  constructor
  · intro found
    unfold ofWords? at found
    split at found
    · exact Option.some.inj found ▸ .comment
    · exact Option.some.inj found ▸ .require
    · exact Option.some.inj found ▸ .vertexData
    · exact Option.some.inj found ▸ .indices
    · exact Option.some.inj found ▸ .test
    · obtain ⟨stage, -, named⟩ := List.exists_of_findSome?_eq_some found
      obtain ⟨others, opens, named⟩ := Option.bind_eq_some_iff.mp named
      rw [← List.isPrefixOf?_eq_some_iff_append_eq.mp opens]
      exact namedBy_of_ofShaderWords? named
  · rintro (_ | _ | _ | _ | _ | _ | stage | stage | stage | stage)
    case source => cases stage <;> rfl
    case assembly => cases stage <;> rfl
    case binary => cases stage <;> rfl
    case hexadecimal => cases stage <;> rfl
    all_goals rfl

end SectionKind

namespace Section

/-- The name that is taken apart from its front gives the kind of section that its words name. -/
theorem kindOfName?_eq_some_iff {name : List Char} {kind : SectionKind} :
    kindOfName? name = some kind ↔ kind.NamedBy (nameWords name) := by
  have shader : (stageBefore? "shader" name).bind (fun found => kindOfTail? found.1 found.2) =
      (Stage.all.findSome? fun stage =>
        ((stage.words ++ ["shader"]).isPrefixOf? (nameWords name)).map fun others =>
          (stage, others)).bind fun found =>
            SectionKind.ofShaderWords? found.1 ("shader" :: found.2) := by
    rw [← map_nameWords_stageBefore? (by decide), Option.bind_map]
    exact congrArg _ (funext fun found => kindOfTail?_eq found.1 found.2)
  rw [kindOfName?, shader]
  generalize nameWords name = words
  constructor
  · intro found
    split at found
    · rename_i named
      obtain ⟨⟨stage, others⟩, first, named⟩ := Option.bind_eq_some_iff.mp named
      obtain ⟨_, -, looked⟩ := List.exists_of_findSome?_eq_some first
      obtain ⟨_, opens, same⟩ := Option.map_eq_some_iff.mp looked
      obtain ⟨rfl, rfl⟩ := Prod.mk.inj same
      rw [← List.isPrefixOf?_eq_some_iff_append_eq.mp opens, List.append_assoc]
      rw [← Option.some.inj found]
      exact SectionKind.namedBy_of_ofShaderWords? named
    · split at found
      · exact Option.some.inj found ▸ .comment
      · exact Option.some.inj found ▸ .require
      · exact Option.some.inj found ▸ .vertexData
      · exact Option.some.inj found ▸ .indices
      · exact Option.some.inj found ▸ .test
      · cases found
  · rintro (_ | _ | _ | _ | _ | _ | stage | stage | stage | stage)
    case source => cases stage <;> rfl
    case assembly => cases stage <;> rfl
    case binary => cases stage <;> rfl
    case hexadecimal => cases stage <;> rfl
    all_goals rfl

/-- Taken apart from its front, a name gives the kind of section that its words give. -/
theorem kindOfName?_eq (name : List Char) :
    kindOfName? name = SectionKind.ofWords? (nameWords name) :=
  Option.ext fun _ => kindOfName?_eq_some_iff.trans SectionKind.ofWords?_eq_some_iff.symm

/-- Read by the places of its brackets and from the front of its name, a header gives what cutting
it gives. -/
theorem scanHeader?_eq {line : List Char} (opens : isHeader line = true) :
    scanHeader? line = some (kindOfHeader line) := by
  rw [← Checked.kindOfHeader?_eq opens, scanHeader?, Checked.kindOfHeader?]
  simp only [kindOfName?_eq]
  rfl

/-- A header line opens a section of a kind: behind its opening bracket stand words that name the
kind, and a closing bracket ends it, blanks apart. -/
def Opens (line : List Char) (kind : SectionKind) : Prop :=
  ∃ name, trimEnd line = '[' :: name ++ [']'] ∧ ']' ∉ name ∧ kind.NamedBy (nameWords name)

/-- A header line is refused with a message. -/
inductive Refuses (line : List Char) : String → Prop where
  /-- The bracket is not closed. -/
  | missing (open_ : ']' ∉ line) : Refuses line "Missing ‘]’"
  /-- The first closing bracket has something behind it that is not blank. -/
  | trailing {before after : List Char} (split : line = before ++ ']' :: after)
    (first : ']' ∉ before) (more : ∃ character ∈ after, isBlank character = false) :
    Refuses line "Trailing data after ‘]’"
  /-- The words between the brackets name no kind of section. -/
  | unknown {name : List Char} (bracketed : trimEnd line = '[' :: name ++ [']'])
    (first : ']' ∉ name) (unnamed : ∀ kind : SectionKind, ¬ kind.NamedBy (nameWords name)) :
    Refuses line ("Unknown section “" ++ String.ofList (trim name) ++ "”")

/-- What a header line has in front of a closing bracket opens with the other bracket. -/
theorem exists_name {before after : List Char}
    (opens : isHeader (before ++ ']' :: after) = true) : ∃ name, before = '[' :: name := by
  cases before with
  | nil => cases opens
  | cons bracket name => exact ⟨name, congrArg (· :: name) (beq_iff_eq.mp opens)⟩

/-- A header line with its first closing bracket is read by what stands around it. -/
theorem kindOfHeader_append {name : List Char} (first : ']' ∉ name) (after : List Char) :
    kindOfHeader ('[' :: name ++ ']' :: after) =
      if after.all isBlank then
        match SectionKind.ofWords? (nameWords name) with
        | some kind => .ok kind
        | none => .error (.unknownKind (String.ofList (trim name)))
      else
        .error .trailingData := by
  have closed : ('[' :: name ++ ']' :: after).contains ']' = true := by simp
  have bracket : isBlank ']' = false := by decide
  have trimmed := trimEnd_append_cons ('[' :: name) bracket after
  have kept : ∀ character ∈ '[' :: name, decide (character ≠ ']') = true := by
    refine List.forall_mem_cons.mpr ⟨by decide, fun character listed => ?_⟩
    exact decide_eq_true fun same => first (same ▸ listed)
  have stops : ∀ next ∈ (']' :: trimEnd after).head?, decide (next ≠ ']') = false := by simp
  obtain ⟨ahead, behind⟩ := span_append kept stops
  rw [kindOfHeader, if_pos closed, trimmed]
  dsimp only
  rw [ahead, behind]
  simp only [List.cons.injEq, true_and, trimEnd_eq_nil_iff]
  rfl

/-- A line that closes its bracket once, at its end, has blanks at most behind the bracket. -/
theorem bracketed_iff {line name : List Char} :
    trimEnd line = '[' :: name ++ [']'] ↔
      ∃ after, line = '[' :: name ++ ']' :: after ∧ after.all isBlank = true := by
  constructor
  · intro trimmed
    obtain ⟨blanks, split, blank⟩ := exists_trimEnd line
    refine ⟨blanks, ?_, blank⟩
    rw [split, trimmed, List.append_assoc]
    rfl
  · rintro ⟨after, rfl, blank⟩
    rw [trimEnd_append_cons ('[' :: name) (by decide), trimEnd_eq_nil_iff.mpr blank]

/-- A line that opens a section of a kind is read as this kind. -/
theorem kindOfHeader_of_opens {line : List Char} {kind : SectionKind} (opened : Opens line kind) :
    kindOfHeader line = .ok kind := by
  obtain ⟨name, bracketed, first, named⟩ := opened
  obtain ⟨after, rfl, blank⟩ := bracketed_iff.mp bracketed
  rw [kindOfHeader_append first, if_pos blank, SectionKind.ofWords?_eq_some_iff.mpr named]

/-- A line that is refused with a message is read as the cause of this message. -/
theorem exists_cause_of_refuses {line : List Char} {message : String}
    (opens : isHeader line = true) (refused : Refuses line message) :
    ∃ cause, kindOfHeader line = .error cause ∧ cause.message = message := by
  cases refused with
  | missing open_ =>
    refine ⟨.missingBracket, ?_, rfl⟩
    rw [kindOfHeader, if_neg (by simpa using open_)]
  | trailing split first more =>
    subst split
    obtain ⟨name, rfl⟩ := exists_name opens
    have own : ']' ∉ name := fun listed => first (List.mem_cons_of_mem _ listed)
    refine ⟨.trailingData, ?_, rfl⟩
    rw [kindOfHeader_append own, if_neg (by simpa using more)]
  | @unknown name bracketed first unnamed =>
    obtain ⟨after, rfl, blank⟩ := bracketed_iff.mp bracketed
    refine ⟨.unknownKind (String.ofList (trim name)), ?_, rfl⟩
    have none_ : SectionKind.ofWords? (nameWords name) = none :=
      Option.eq_none_iff_forall_ne_some.mpr fun kind found =>
        unnamed kind (SectionKind.ofWords?_eq_some_iff.mp found)
    rw [kindOfHeader_append first, if_pos blank, none_]

/-- Every header line opens a section or is refused with a message. -/
theorem opens_or_refuses {line : List Char} (opens : isHeader line = true) :
    (∃ kind, Opens line kind) ∨ ∃ message, Refuses line message := by
  by_cases closed : ']' ∈ line
  · obtain ⟨before, after, rfl, first⟩ := List.eq_append_cons_of_mem closed
    by_cases blank : after.all isBlank = true
    · obtain ⟨name, rfl⟩ := exists_name opens
      have own : ']' ∉ name := fun listed => first (List.mem_cons_of_mem _ listed)
      have bracketed : trimEnd ('[' :: name ++ ']' :: after) = '[' :: name ++ [']'] :=
        bracketed_iff.mpr ⟨after, rfl, blank⟩
      by_cases named : ∃ kind : SectionKind, kind.NamedBy (nameWords name)
      · obtain ⟨kind, named⟩ := named
        exact .inl ⟨kind, name, bracketed, own, named⟩
      · exact .inr ⟨_, .unknown bracketed own (not_exists.mp named)⟩
    · have more : ∃ character ∈ after, isBlank character = false := by simpa using blank
      exact .inr ⟨_, .trailing rfl first more⟩
  · exact .inr ⟨_, .missing closed⟩

/-- A header line, whatever comes before and behind it, opens a section of a kind if the words
between its brackets name the kind and nothing is behind them; otherwise it is refused, with the
message that is due. The words are all that counts, whether the name is cut into them or they are
taken away at its front. -/
theorem header_iff_grammar {line : List Char} (opens : isHeader line = true) :
    (∀ kind, kindOfHeader line = .ok kind ↔ Opens line kind) ∧
    (∀ message, (∃ cause, kindOfHeader line = .error cause ∧ cause.message = message) ↔
      Refuses line message) ∧
    scanHeader? line = some (kindOfHeader line) ∧
    ∀ strict place number later, splitLines strict place number (.ok line :: later) =
      match kindOfHeader line with
      | .ok kind =>
        (splitLines strict (placeAfter kind) (number + 1) later).withSection kind (number + 1)
      | .error cause => .refused (.line ⟨number, .splitting cause⟩) := by
  refine ⟨fun kind => ⟨fun read => ?_, kindOfHeader_of_opens⟩,
    fun message => ⟨?_, exists_cause_of_refuses opens⟩, scanHeader?_eq opens, ?_⟩
  · rcases opens_or_refuses opens with ⟨other, opened⟩ | ⟨message, refused⟩
    · obtain rfl := Except.ok.inj (read.symm.trans (kindOfHeader_of_opens opened))
      exact opened
    · obtain ⟨cause, found, -⟩ := exists_cause_of_refuses opens refused
      cases read.symm.trans found
  · rintro ⟨cause, read, rfl⟩
    rcases opens_or_refuses opens with ⟨kind, opened⟩ | ⟨message, refused⟩
    · cases read.symm.trans (kindOfHeader_of_opens opened)
    · obtain ⟨other, found, rfl⟩ := exists_cause_of_refuses opens refused
      obtain rfl := Except.error.inj (read.symm.trans found)
      exact refused
  · intro strict place number later
    rw [splitLines.eq_def]
    dsimp only
    rw [if_pos opens]
    cases kindOfHeader line <;> rfl

/-- A header with blanks of several kinds around its words and behind its bracket. -/
def spacedHeader : List Char :=
  "[\u2003tessellation\tcontrol  shader spirv\u00a0hex ] \r\n".toList

/-- A header with a word behind its bracket. -/
def overlongHeader : List Char :=
  "[test] ]\n".toList

/-- The words of a header tell its kind whatever blanks stand around them, and a second closing
bracket is one too many. -/
theorem header_iff_grammar_spacedHeader :
    isHeader spacedHeader = true ∧
      kindOfHeader spacedHeader = .ok (.shader .tessControl .words) ∧
      scanHeader? spacedHeader = some (.ok (.shader .tessControl .words)) ∧
      isHeader overlongHeader = true ∧
      ∃ cause, kindOfHeader overlongHeader = .error cause ∧
        cause.message = "Trailing data after ‘]’" := by
  have spaced : isHeader spacedHeader = true := by decide
  have overlong : isHeader overlongHeader = true := by decide
  obtain ⟨kinds, -, scans, -⟩ := header_iff_grammar spaced
  obtain ⟨-, refusals, -⟩ := header_iff_grammar overlong
  have words : nameWords "\u2003tessellation\tcontrol  shader spirv\u00a0hex ".toList =
      Stage.tessControl.words ++ ["shader", "spirv", "hex"] := by decide
  have opened : Opens spacedHeader (.shader .tessControl .words) := by
    refine ⟨"\u2003tessellation\tcontrol  shader spirv\u00a0hex ".toList, by decide, by decide, ?_⟩
    rw [words]
    exact .hexadecimal .tessControl
  have read := (kinds _).mpr opened
  refine ⟨spaced, read, scans.trans (congrArg some read), overlong, (refusals _).mpr ?_⟩
  have split : overlongHeader = "[test".toList ++ ']' :: " ]\n".toList := by decide
  exact .trailing split (by decide) ⟨']', by decide, by decide⟩

end Section

end GpuScript
