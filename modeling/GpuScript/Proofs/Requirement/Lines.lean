import GpuScript.Node
import GpuScript.Proofs.Requirement.Pulling
import GpuScript.Proofs.Script.Shift
import GpuScript.Proofs.Token.LogicalLines

/-!
# The lines of a require section

The lines of a require section know nothing of one another. A body is accepted when each of its
lines that has a token is accepted as a body of its own, it then asks for what these lines ask for,
one entry a line, and otherwise it is refused for the first line that is, further down
(`Node.readRequire_by_lines`).
-/

namespace GpuScript

open Text

namespace Requirements

/-- The entries of the lines of a body whose first line has the given number. -/
def entries (text : String) (firstLine : Nat) :
    Except (Located Requirement.Error) (List RequireEntry) :=
  (TokenLine.ofText text firstLine).mapM RequireEntry.readLine

/-- Every entry is a requirement or an extension. -/
theorem length_ofEntries (entries : List RequireEntry) :
    (ofEntries entries).requirements.length + (ofEntries entries).extensions.length =
      entries.length := by
  induction entries with
  | nil => rfl
  | cons entry rest ih =>
    cases entry <;>
      simp only [ofEntries, List.filterMap_cons, RequireEntry.requirement?,
        RequireEntry.extension?, List.length_cons] at ih ⊢ <;>
      omega

/-- The entries of a body are the same further down. -/
theorem entries_add (count : Nat) (text : String) (firstLine : Nat) :
    entries text (firstLine + count) =
      mapBoth (Located.shift count) id (entries text firstLine) := by
  rw [entries, TokenLine.ofText_add]
  exact mapM_map_mapBoth (RequireEntry.readLine_shift count) _

/-- The entries of a body are those of its lines as bodies of their own. -/
theorem entries_eq (text : String) (firstLine : Nat) :
    entries text firstLine =
      ((TokenLine.contentLines text).mapM fun line =>
        mapBoth (Located.shift line.line) id (entries line.cause firstLine)).map List.flatten := by
  have shifted (line : Located String) :
      (TokenLine.ofText line.cause (firstLine + line.line)).mapM RequireEntry.readLine =
        mapBoth (Located.shift line.line) id (entries line.cause firstLine) :=
    entries_add line.line line.cause firstLine
  rw [entries, TokenLine.ofText_eq_flatMap_contentLines, mapM_flatMap]
  simp only [shifted]

/-- A line with a token has one entry if it is accepted as a body of its own. -/
theorem exists_entries_eq_singleton {text : String} {line : Located String}
    (listed : line ∈ TokenLine.contentLines text) {firstLine : Nat} {found : List RequireEntry}
    (accepted : entries line.cause firstLine = .ok found) : ∃ entry, found = [entry] := by
  obtain ⟨own, single⟩ := TokenLine.exists_ofText_eq_singleton listed firstLine
  have same := length_of_mapM_eq_ok accepted
  rw [single] at same
  exact List.length_eq_one_iff.mp same

/-- The entries of a body that is accepted are those of its lines as bodies of their own, one
each. -/
theorem forall₂_of_entries_eq_ok {text : String} {firstLine : Nat} {found : List RequireEntry}
    (accepted : entries text firstLine = .ok found) :
    List.Forall₂ (fun line entry => entries line.cause firstLine = .ok [entry])
      (TokenLine.contentLines text) found := by
  rw [entries_eq] at accepted
  obtain ⟨parts, each, rfl⟩ := map_eq_ok.mp accepted
  refine forall₂_flatten (fun line listed part own => ?_) (mapM_eq_ok_iff.mp each)
  obtain ⟨_, alone, rfl⟩ := mapBoth_eq_ok.mp own
  obtain ⟨entry, rfl⟩ := exists_entries_eq_singleton listed alone
  exact ⟨entry, rfl, alone⟩

/-- A body is refused for the first of its lines that is refused as a body of its own. -/
theorem entries_eq_error_iff {text : String} {firstLine : Nat} {error : Located Requirement.Error} :
    entries text firstLine = .error error ↔
      ∃ before line after own, TokenLine.contentLines text = before ++ line :: after ∧
        (∀ other ∈ before, ∃ found, entries other.cause firstLine = .ok found) ∧
        entries line.cause firstLine = .error own ∧ error = own.shift line.line := by
  have accepted (line : Located String) :
      (∃ found, mapBoth (Located.shift line.line) id (entries line.cause firstLine) = .ok found) ↔
        ∃ found, entries line.cause firstLine = .ok found := by
    cases entries line.cause firstLine <;> simp [mapBoth]
  rw [entries_eq, map_eq_error, mapM_eq_error_iff]
  simp only [accepted, mapBoth_eq_error]
  constructor
  · rintro ⟨before, line, after, split, clean, own, alone, rfl⟩
    exact ⟨before, line, after, own, split, clean, alone, rfl⟩
  · rintro ⟨before, line, after, own, split, clean, alone, rfl⟩
    exact ⟨before, line, after, split, clean, own, alone, rfl⟩

end Requirements

namespace Node

open Requirements

/-- The node of a require section by the entries of its lines. -/
theorem readRequire_eq (body : String) (firstLine : Nat) :
    readRequire body firstLine =
      mapBoth (ScriptError.ofLocated .requirement)
        (fun entries => if entries.isEmpty then none else some (.require (.ofEntries entries)))
        (entries body firstLine) := by
  have parsed : parse body firstLine = (entries body firstLine).map ofEntries := rfl
  rw [readRequire, parsed]
  cases entries body firstLine with
  | error error => rfl
  | ok entries => simp only [Except.map, mapBoth, isEmpty_ofEntries]

/-- A line that has one entry is a section with this entry. -/
theorem readRequire_of_entries {body : String} {firstLine : Nat} {entry : RequireEntry}
    (single : entries body firstLine = .ok [entry]) :
    readRequire body firstLine = .ok (some (.require (.ofEntries [entry]))) := by
  rw [readRequire_eq, single]
  rfl

/-- A section is accepted if its entries are. -/
theorem exists_readRequire_iff {body : String} {firstLine : Nat} :
    (∃ node?, readRequire body firstLine = .ok node?) ↔
      ∃ found, entries body firstLine = .ok found := by
  rw [readRequire_eq]
  cases entries body firstLine <;> simp [mapBoth]

/-- A require section is refused as the first of its lines that is refused on its own, further
down. -/
theorem readRequire_eq_error_iff {body : String} {firstLine : Nat} {error : ScriptError} :
    readRequire body firstLine = .error error ↔
      ∃ before line after own, TokenLine.contentLines body = before ++ line :: after ∧
        (∀ other ∈ before, ∃ node?, readRequire other.cause firstLine = .ok node?) ∧
        readRequire line.cause firstLine = .error (.line own) ∧
        error = .line ⟨own.line + line.line, own.cause⟩ := by
  rw [readRequire_eq, mapBoth_eq_error]
  constructor
  · rintro ⟨_, found, rfl⟩
    obtain ⟨before, line, after, own, split, clean, single, rfl⟩ := entries_eq_error_iff.mp found
    refine ⟨before, line, after, ⟨own.line, .requirement own.cause⟩, split, fun other listed =>
      exists_readRequire_iff.mpr (clean other listed), ?_, rfl⟩
    rw [readRequire_eq, single]
    rfl
  · rintro ⟨before, line, after, own, split, clean, found, rfl⟩
    rw [readRequire_eq, mapBoth_eq_error] at found
    obtain ⟨cause, single, same⟩ := found
    obtain rfl := ScriptError.line.inj same
    exact ⟨cause.shift line.line, entries_eq_error_iff.mpr ⟨before, line, after, cause, split,
      fun other listed => exists_readRequire_iff.mp (clean other listed), single, rfl⟩, rfl⟩

/-- A require section is accepted when each of its lines that has a token is, as a body of its own.
The node then holds one entry for each of them, what the line gives on its own, in order. Otherwise
the section is refused as the first line that is refused on its own, further down. It makes no
difference for this whether the lines are cut apart first or pull their tokens from one cursor. -/
theorem readRequire_by_lines (body : String) (firstLine : Nat) :
    let lines := TokenLine.contentLines body
    let alone (line : Located String) := readRequire line.cause firstLine
    ((∃ node?, readRequire body firstLine = .ok node?) ↔
      ∀ line ∈ lines, ∃ node?, alone line = .ok node?) ∧
    (∀ node?, readRequire body firstLine = .ok node? →
      ∃ entries : List RequireEntry,
        List.Forall₂ (fun line entry => alone line = .ok (some (.require (.ofEntries [entry]))))
          lines entries ∧
        (ofEntries entries).requirements.length + (ofEntries entries).extensions.length =
          lines.length ∧
        node? = if lines.isEmpty then none else some (.require (.ofEntries entries))) ∧
    (∀ error, readRequire body firstLine = .error error ↔
      ∃ before line after own, lines = before ++ line :: after ∧
        (∀ other ∈ before, ∃ node?, alone other = .ok node?) ∧
        alone line = .error (.line own) ∧
        error = .line ⟨own.line + line.line, own.cause⟩) ∧
    pull body firstLine = parse body firstLine := by
  intro lines alone
  refine ⟨⟨?_, ?_⟩, ?_, fun _ => readRequire_eq_error_iff, pull_eq body firstLine⟩
  · intro accepted line listed
    obtain ⟨found, whole⟩ := exists_readRequire_iff.mp accepted
    obtain ⟨entry, _, own⟩ := exists_of_mem_left (forall₂_of_entries_eq_ok whole) listed
    exact ⟨_, readRequire_of_entries own⟩
  · intro each
    cases whole : readRequire body firstLine with
    | ok node? => exact ⟨node?, rfl⟩
    | error error =>
      obtain ⟨before, line, after, own, split, _, found, _⟩ := readRequire_eq_error_iff.mp whole
      have listed : line ∈ TokenLine.contentLines body := split ▸ by simp
      obtain ⟨node?, accepted⟩ := each line listed
      cases found.symm.trans accepted
  · intro node? accepted
    rw [readRequire_eq] at accepted
    obtain ⟨found, whole, rfl⟩ := mapBoth_eq_ok.mp accepted
    have each := forall₂_of_entries_eq_ok whole
    refine ⟨found, each.imp fun line entry own => readRequire_of_entries own, ?_, ?_⟩
    · rw [length_ofEntries, each.length_eq]
    · have same : found.isEmpty = lines.isEmpty := by
        rw [Bool.eq_iff_iff, List.isEmpty_iff_length_eq_zero, List.isEmpty_iff_length_eq_zero,
          each.length_eq]
      rw [same]

end Node

end GpuScript
