import GpuScript.Proofs.Command.Setting
import GpuScript.Proofs.Pipeline.Coordinates
import GpuScript.Proofs.Test.Lines

/-!
# The last line that names a property settles it

A property line sets one property and leaves all others alone, so the value of a property after
lines is the one that the last line gives that names it (`Test.readLines_of_sets`). The numbers of
the lines take no part in this, and neither does the order of lines that name different properties
(`Test.parse_settings`).
-/

namespace GpuScript

open Command

namespace TokenLine

/-- The property that a line names with its first word. -/
def property? (line : TokenLine) : Option Property :=
  line.first.word?.bind Property.ofName?

/-- The line names the property. -/
def names (property : Property) (line : TokenLine) : Bool :=
  line.property? = some property

/-- The value that the operands of a line give to a property, if nothing follows it. -/
def setting? (line : TokenLine) (property : Property) : Option property.Value :=
  match propertyValue property line.rest with
  | .ok (value, []) => some value
  | _ => none

/-- The line names a property and gives it a value. -/
def Sets (line : TokenLine) : Prop :=
  ∃ property, line.property? = some property ∧ (line.setting? property).isSome

/-- The value of a property after lines that start from a pipeline state: the one that the last
line gives that names the property, or the one before all lines if none does. -/
def settled? (initial : Pipeline) (lines : List TokenLine) (property : Property) :
    Option property.Value :=
  match (lines.filter (names property)).getLast? with
  | none => some (initial.get property)
  | some line => line.setting? property

/-- The same lines in another order, in which lines that name the same property follow one another
as before. Line numbers are no part of a line here. -/
structure Reordered (lines others : List TokenLine) : Prop where
  /-- The lines are the same. -/
  perm : (others.map unplaced).Perm (lines.map unplaced)
  /-- The lines of a property keep their order. -/
  order : ∀ property, (others.filter (names property)).map unplaced =
    (lines.filter (names property)).map unplaced

/-- The property of a line does not depend on its number. -/
@[simp]
theorem property?_unplaced (line : TokenLine) : line.unplaced.property? = line.property? :=
  rfl

/-- The value that a line gives does not depend on its number. -/
@[simp]
theorem setting?_unplaced (line : TokenLine) (property : Property) :
    line.unplaced.setting? property = line.setting? property := by
  rw [setting?, setting?, rest_unplaced, propertyValue_map_unplaced]
  cases propertyValue property line.rest with
  | error cause => rfl
  | ok result =>
    obtain ⟨value, rest⟩ := result
    cases rest <;> rfl

/-- Whether a line sets a property does not depend on its number. -/
theorem sets_unplaced {line : TokenLine} : line.unplaced.Sets ↔ line.Sets := by
  simp only [Sets, property?_unplaced, setting?_unplaced]

/-- Lines that are among other lines apart from their numbers set properties if those do. -/
theorem sets_of_subset {lines others : List TokenLine}
    (part : others.map unplaced ⊆ lines.map unplaced) (sets : ∀ line ∈ lines, line.Sets) :
    ∀ line ∈ others, line.Sets := by
  intro line listed
  obtain ⟨same, among, equal⟩ := List.mem_map.mp (part (List.mem_map_of_mem listed))
  exact sets_unplaced.mp (equal ▸ sets_unplaced.mpr (sets same among))

/-- Lines that are the same without their numbers settle the same value. -/
theorem settled?_congr {lines others : List TokenLine} {property : Property}
    (same : (others.filter (names property)).map unplaced =
      (lines.filter (names property)).map unplaced) (initial : Pipeline) :
    settled? initial others property = settled? initial lines property := by
  have last := congrArg List.getLast? same
  rw [List.getLast?_map, List.getLast?_map] at last
  unfold settled?
  cases left : (others.filter (names property)).getLast? with
  | none =>
    rw [left, Option.map_none, eq_comm, Option.map_eq_none_iff] at last
    rw [last]
  | some other =>
    rw [left, Option.map_some, eq_comm, Option.map_eq_some_iff] at last
    obtain ⟨line, right, equal⟩ := last
    rw [right]
    change other.setting? property = line.setting? property
    rw [← setting?_unplaced, ← equal, setting?_unplaced]

/-- A line that gives a value to a property settles this property and leaves the others to the
lines after it. -/
theorem settled?_cons {line : TokenLine} {property : Property} {value : property.Value}
    (named : line.property? = some property) (given : line.setting? property = some value)
    (initial : Pipeline) (rest : List TokenLine) (other : Property) :
    settled? initial (line :: rest) other = settled? (initial.set property value) rest other := by
  unfold settled?
  cases later : (rest.filter (names other)).getLast? with
  | some last =>
    have final : ((line :: rest).filter (names other)).getLast? = some last := by
      rw [List.filter_cons]
      split
      · rw [List.getLast?_cons, later]
        rfl
      · exact later
    rw [final]
  | none =>
    have none_ : rest.filter (names other) = [] := List.getLast?_eq_none_iff.mp later
    rw [List.filter_cons, none_]
    by_cases same : other = property
    · subst same
      rw [if_pos (by simp [names, named])]
      change line.setting? other = _
      rw [given, Pipeline.get_set_eq_update, Function.update_self]
    · rw [if_neg (by simpa [names, named] using Ne.symm same)]
      change some (initial.get other) = _
      rw [Pipeline.get_set_of_ne same]

end TokenLine

namespace Test

open TokenLine

/-- A line is refused because it does not open with a word, or it is a property line or a command
line. -/
theorem readLine_cases (line : TokenLine) (pipeline : Pipeline) :
    (line.property? = none ∧ opensCommand line = false ∧
      readLine pipeline line = ⟨pipeline, .error .nameNotWord⟩) ∨
    (∃ property, line.property? = some property ∧ opensCommand line = false ∧
      readLine pipeline line = readProperty pipeline property line.rest) ∨
    ∃ name, line.property? = none ∧ opensCommand line = true ∧
      readLine pipeline line = ⟨pipeline, (readOperation pipeline name line.rest).map some⟩ := by
  unfold property? opensCommand readLine
  cases line.first.word? with
  | none => exact Or.inl ⟨rfl, rfl, rfl⟩
  | some name =>
    simp only [Option.bind_some]
    cases Property.ofName? name with
    | none => exact Or.inr (Or.inr ⟨name, rfl, rfl, rfl⟩)
    | some property => exact Or.inr (Or.inl ⟨property, rfl, rfl, rfl⟩)

/-- A line that names a property is read as a property line. -/
theorem readLine_of_property {line : TokenLine} {property : Property}
    (named : line.property? = some property) (pipeline : Pipeline) :
    readLine pipeline line = readProperty pipeline property line.rest := by
  rcases readLine_cases line pipeline with ⟨other, _⟩ | ⟨found, same, _, read⟩ | ⟨_, other, _⟩
  · rw [named] at other
    cases other
  · obtain rfl := Option.some.inj (same.symm.trans named)
    exact read
  · rw [named] at other
    cases other

/-- A line that gives a value to a property is accepted, and replaces the property. -/
theorem readLine_of_setting {line : TokenLine} {property : Property} {value : property.Value}
    (named : line.property? = some property) (given : line.setting? property = some value)
    (pipeline : Pipeline) : readLine pipeline line = ⟨pipeline.set property value, .ok none⟩ := by
  rw [readLine_of_property named, readProperty]
  unfold setting? at given
  split at given
  · rename_i read
    obtain rfl := Option.some.inj given
    rw [read]
    rfl
  · cases given

/-- A line that names a property and is accepted gives a value to it. -/
theorem sets_of_readLine {line : TokenLine} {pipeline : Pipeline} {operation : Option Operation}
    (named : line.property?.isSome)
    (accepted : (readLine pipeline line).operation = .ok operation) : line.Sets := by
  obtain ⟨property, found⟩ := Option.isSome_iff_exists.mp named
  refine ⟨property, found, ?_⟩
  rw [readLine_of_property found, readProperty] at accepted
  unfold setting?
  cases read : propertyValue property line.rest with
  | error cause =>
    rw [read] at accepted
    cases accepted
  | ok result =>
    obtain ⟨value, rest⟩ := result
    rw [read] at accepted
    obtain ⟨_, finished, _⟩ := map_eq_ok.mp accepted
    cases rest with
    | nil => rfl
    | cons token others => cases finished

/-- Lines that are accepted are accepted one by one. -/
theorem exists_readLine_of_mem {lines : List TokenLine} {pipeline : Pipeline}
    (accepted : (readLines pipeline lines).failure = none) {line : TokenLine}
    (listed : line ∈ lines) :
    ∃ before operation, (readLine before line).operation = .ok operation := by
  induction lines generalizing pipeline with
  | nil => cases listed
  | cons first rest ih =>
    obtain ⟨operation, result⟩ := exists_operation_of_readLines accepted
    rcases List.mem_cons.mp listed with rfl | later
    · exact ⟨pipeline, operation, result⟩
    · rw [readLines_cons_of_ok result] at accepted
      exact ih accepted later

/-- Lines that give values to properties are accepted without a command, and every property has the
value that the last line gives that names it. -/
theorem readLines_of_sets {lines : List TokenLine} (sets : ∀ line ∈ lines, line.Sets)
    (pipeline : Pipeline) :
    ∃ final, readLines pipeline lines = ⟨[], final, none⟩ ∧
      ∀ property, settled? pipeline lines property = some (final.get property) := by
  -- The first line moves into the pipeline state that the other lines start from.
  induction lines generalizing pipeline with
  | nil => exact ⟨pipeline, rfl, fun _ => rfl⟩
  | cons line rest ih =>
    obtain ⟨⟨property, named, some_⟩, others⟩ := List.forall_mem_cons.mp sets
    obtain ⟨value, given⟩ := Option.isSome_iff_exists.mp some_
    obtain ⟨final, read, settled⟩ := ih others (pipeline.set property value)
    refine ⟨final, ?_, fun other => ?_⟩
    · have own := readLine_of_setting named given pipeline
      rw [readLines_cons_of_ok (congrArg LineResult.operation own), own, read]
      rfl
    · rw [settled?_cons named given]
      exact settled other

/-- Lines that settle the same values leave the same pipeline state. -/
theorem readLines_congr {lines others : List TokenLine} {pipeline : Pipeline}
    (sets : ∀ line ∈ lines, line.Sets) (others_set : ∀ line ∈ others, line.Sets)
    (same : ∀ property, settled? pipeline others property = settled? pipeline lines property) :
    readLines pipeline others = readLines pipeline lines := by
  obtain ⟨final, read, settled⟩ := readLines_of_sets sets pipeline
  obtain ⟨last, other_read, other_settled⟩ := readLines_of_sets others_set pipeline
  have coordinates : last.get = final.get := funext fun property => by
    have equal := same property
    rw [settled, other_settled] at equal
    exact Option.some.inj equal
  have equal := Pipeline.bijective_get.injective coordinates
  rw [read, other_read, equal]

/-- Property lines that are the same without their numbers are read in the same way. -/
theorem readLines_of_map_unplaced {lines others : List TokenLine}
    (same : others.map unplaced = lines.map unplaced) (sets : ∀ line ∈ lines, line.Sets)
    (pipeline : Pipeline) : readLines pipeline others = readLines pipeline lines := by
  have others_set : ∀ line ∈ others, line.Sets := sets_of_subset (same ▸ List.Subset.refl _) sets
  refine readLines_congr sets others_set fun property => settled?_congr ?_ pipeline
  have kept := congrArg (List.filter (names property)) same
  rwa [List.filter_map, List.filter_map] at kept

/-- Property lines of an accepted body give values to their properties. -/
theorem sets_of_parse {text : String} {firstLine : Nat} {test : Test}
    (accepted : parse text firstLine = .ok test) {line : TokenLine}
    (listed : line ∈ ofText text firstLine) (named : line.property?.isSome) : line.Sets := by
  have clean := (parse_eq_ok_iff.mp accepted).1
  obtain ⟨_, _, read⟩ := exists_readLine_of_mem clean listed
  exact sets_of_readLine named read

/-- Forty-three names stand for forty-three properties, which together are the pipeline state and
can be replaced one by one. After property lines, a property has the value that the last line gives
that names it, or the default if none does, and lines that name different properties can be
exchanged. -/
theorem parse_settings :
    (Property.table.entries.size = 43 ∧ (Property.table.entries.toList.map Property.name).Nodup ∧
      (∀ property, property ∈ Property.table.entries) ∧
      (∀ text property, Property.ofName? text = some property ↔ property.name = text)) ∧
    (Function.Bijective Pipeline.get ∧
      ∀ pipeline property value,
        (Pipeline.set pipeline property value).get =
          Function.update pipeline.get property value) ∧
    ∀ text firstLine test, (∀ line ∈ ofText text firstLine, line.property?.isSome) →
      parse text firstLine = .ok test →
        (∀ property, settled? Pipeline.default (ofText text firstLine) property =
          some (test.pipeline.get property)) ∧
        ∀ other otherLine, Reordered (ofText text firstLine) (ofText other otherLine) →
          parse other otherLine = .ok test := by
  refine ⟨⟨rfl, Property.table.nodup_names, Property.mem_table,
      fun _ _ => Property.ofName?_eq_some_iff⟩,
    ⟨Pipeline.bijective_get, Pipeline.get_set_eq_update⟩,
    fun text firstLine test named accepted => ?_⟩
  have sets : ∀ line ∈ ofText text firstLine, line.Sets :=
    fun line listed => sets_of_parse accepted listed (named line listed)
  obtain ⟨final, read, settled⟩ := readLines_of_sets sets Pipeline.default
  have whole := (parse_eq_ok_iff.mp accepted).2
  rw [Test.read, read] at whole
  refine ⟨fun property => whole ▸ settled property, fun other otherLine reordered => ?_⟩
  have others_set : ∀ line ∈ ofText other otherLine, line.Sets :=
    sets_of_subset reordered.perm.subset sets
  have equal := readLines_congr sets others_set fun property =>
    settled?_congr (reordered.order property) Pipeline.default
  rw [parse_eq_ok_iff, Test.read, equal, read]
  exact ⟨rfl, whole⟩

/-- A property that is set twice, with a line that can be moved to the front. -/
theorem parse_settings_exchanged :
    let text := "blendEnable true\nfrontFace VK_FRONT_FACE_CLOCKWISE\nblendEnable false\n"
    let other := "frontFace VK_FRONT_FACE_CLOCKWISE\nblendEnable true # on\nblendEnable \\\n false"
    let test : Test :=
      ⟨[], { Pipeline.default with frontFace := .clockwise, blendEnable := false }⟩
    ((∀ line ∈ ofText text 1, line.property?.isSome) ∧ parse text 1 = .ok test ∧
      Reordered (ofText text 1) (ofText other 7)) ∧
    settled? Pipeline.default (ofText text 1) (.toggle .blend) = some false ∧
      parse other 7 = .ok test := by
  intro text other test
  have named : ∀ line ∈ ofText text 1, line.property?.isSome := by decide +kernel
  have accepted : parse text 1 = .ok test := by decide +kernel
  have perm : ((ofText other 7).map unplaced).Perm ((ofText text 1).map unplaced) := by
    decide +kernel
  have order : ∀ property ∈ Property.table.entries.toList,
      ((ofText other 7).filter (names property)).map unplaced =
        ((ofText text 1).filter (names property)).map unplaced := by decide +kernel
  have reordered : Reordered (ofText text 1) (ofText other 7) :=
    ⟨perm, fun property => order property (Array.mem_toList_iff.mpr property.mem_table)⟩
  obtain ⟨settled, exchanged⟩ := parse_settings.2.2 text 1 test named accepted
  exact ⟨⟨named, accepted, reordered⟩, settled (.toggle .blend), exchanged other 7 reordered⟩

end Test

end GpuScript
