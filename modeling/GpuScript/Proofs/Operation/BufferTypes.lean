import GpuScript.Proofs.Operation.Numbers
import GpuScript.Proofs.Value.Storage

/-!
# Types of buffer values

The values of every buffer command that is accepted make up whole data of a type that is found by
its name, and all of them are stored as the type asks for (`Test.typed_of_parse`). A type that is
found has at least one component.
-/

namespace GpuScript

namespace DatumType

/-- Every type of shaders has a component. -/
theorem elementCount_shaderTypes : ∀ type ∈ shaderTypes, 1 ≤ type.elementCount := by
  decide +kernel

/-- The type of a format has a component. -/
theorem elementCount_of_ofFormat? {format : Format} {type : DatumType}
    (found : ofFormat? format = some type) : 1 ≤ type.elementCount := by
  unfold ofFormat? at found
  split at found
  · rw [← Option.some.inj found]
    exact Nat.le_refl 1
  · obtain ⟨part, uniform, rfl⟩ := Option.map_eq_some_iff.mp found
    -- A format without parts has no part that stands for all of them.
    have parts : format.parts ≠ [] := by
      intro empty
      rw [Format.uniformPart?, empty] at uniform
      cases uniform
    have count : 0 < format.parts.length := List.length_pos_iff.mpr parts
    show 1 ≤ format.parts.length * 1
    omega

/-- Every type that is found by a name has a component. -/
theorem elementCount_of_ofName? {name : String} {type : DatumType}
    (found : ofName? name = some type) : 1 ≤ type.elementCount := by
  unfold ofName? at found
  split at found
  · rename_i own
    have listed := SortedTable.mem_of_find? own
    rw [← Option.some.inj found]
    exact elementCount_shaderTypes _ listed
  · obtain ⟨format, _, made⟩ := Option.bind_eq_some_iff.mp found
    exact elementCount_of_ofFormat? made

/-- A value that is stored as the components of a type are is so for their kind and their number
of bits. -/
theorem storedAs_of_stores {type : DatumType} {value : Value} (stored : type.Stores value) :
    value.StoredAs type.base type.bits := by
  cases value with
  | signed width bits =>
    obtain ⟨kind, found⟩ := stored
    rw [kind]
    exact Value.storedAs_signed found bits
  | unsigned width bits =>
    obtain ⟨kind, found⟩ := stored
    rw [kind]
    exact Value.storedAs_unsigned found bits
  | float precision number =>
    obtain ⟨kind, found⟩ := stored
    rw [kind]
    exact Value.storedAs_float found number

end DatumType

/-- Buffer data is well formed: whole data of a type that is found by its name, each value stored
as the type asks for. -/
structure BufferData.WellTyped (data : BufferData) : Prop where
  /-- The type is found by its name. -/
  found : DatumType.ofName? data.datumType.name = some data.datumType
  /-- There is a value. -/
  nonempty : data.values ≠ []
  /-- The values make up whole data. -/
  whole : data.datumType.rows * data.datumType.columns ∣ data.values.length
  /-- The values are stored as the type asks for. -/
  typed : ∀ value ∈ data.values, value.StoredAs data.datumType.base data.datumType.bits

/-- Data that can be written is well formed. -/
theorem BufferData.Writable.wellTyped {data : BufferData} (writable : data.Writable) :
    data.WellTyped where
  found := writable.found
  nonempty := writable.nonempty
  whole := Nat.dvd_of_mod_eq_zero writable.whole
  typed := fun value listed => DatumType.storedAs_of_stores (writable.typed value listed)

namespace Test

/-- Every type that is found by a name has a component, so that whole data are always told from
others; and the data of every buffer command of a body that is accepted are well formed. -/
theorem typed_of_parse {text : String} {firstLine : Nat} {test : Test}
    (accepted : parse text firstLine = .ok test) :
    (∀ name type, DatumType.ofName? name = some type → 1 ≤ type.rows * type.columns) ∧
      ∀ command ∈ test.commands, ∀ kind data,
        command.operation.data? = some (kind, data) → data.WellTyped := by
  constructor
  · intro name type found
    exact DatumType.elementCount_of_ofName? found
  · intro command listed kind data found
    have writable := writable_of_mem_commands accepted listed
    exact (writable.data found).wellTyped

/-- A body with values of a matrix, of a format whose parts are alike and of a packed format. -/
def mixedTypes : String :=
  "uniform ubo 3 mat2 0 1 2 3 .5\nprobe ssbo R8G8_UNORM 1 16 == 0x80 -1\n" ++
    "ssbo 2 subdata A8B8G8R8_UINT_PACK32 4 7\n"

/-- The data of the three commands are well formed. -/
theorem typed_of_parse_mixedTypes :
    ∃ test, parse mixedTypes 1 = .ok test ∧
      (test.commands.map fun command => command.operation.values.map Value.bits) =
        [[32, 32, 32, 32], [8, 8], [32]] ∧
      ∀ command ∈ test.commands, ∀ kind data,
        command.operation.data? = some (kind, data) → data.WellTyped := by
  have whole : (read mixedTypes 1).failure = none ∧
      ((read mixedTypes 1).commands.map fun command => command.operation.values.map Value.bits) =
        [[32, 32, 32, 32], [8, 8], [32]] := by
    decide +kernel
  have accepted := parse_eq_ok_iff.mpr ⟨whole.1, rfl⟩
  exact ⟨_, accepted, whole.2, (typed_of_parse accepted).2⟩

end Test

end GpuScript
