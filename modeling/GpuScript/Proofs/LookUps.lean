import GpuScript.Command.Operand
import GpuScript.Feature
import GpuScript.Proofs.SortedTable
import GpuScript.Proofs.Text.ByteOrder

/-!
# Look-ups by name

Formats, types of buffer data, properties of the pipeline, topologies and device features are found
by their names in sorted tables. The names of each table increase strictly when they are compared
byte by byte, as halving the table needs it, and so every look-up gives for every name what reading
its table from the front gives (`lookUps_eq_scans`).
-/

namespace GpuScript

/-- The bytes of each name in a table come earlier than those of every later name. -/
def SortedTable.IsByteOrdered {α : Type} (table : SortedTable α) : Prop :=
  (table.entries.toList.map table.key).Pairwise fun first second =>
    Text.encode first.toList < Text.encode second.toList

/-- The names of every sorted table are in the order of their bytes. -/
theorem SortedTable.isByteOrdered {α : Type} (table : SortedTable α) : table.IsByteOrdered :=
  (pairwise_of_increasing table.sorted).imp Text.lt_iff_encode_lt.mp

/-- The type with a name, found by looking at every type of shaders and then at every format from
the front. -/
def DatumType.scan? (name : String) : Option DatumType :=
  (shaderTable.scan? name).or ((Format.table.scan? name).bind ofFormat?)

/-- A type is found by its name as by looking at the types of shaders and then at the formats. -/
theorem DatumType.ofName?_eq_scan? (name : String) : ofName? name = scan? name := by
  rw [ofName?, scan?, Format.ofName?, SortedTable.find?_eq_scan?, SortedTable.find?_eq_scan?]
  cases shaderTable.scan? name with
  | some datumType => rfl
  | none => rfl

/-- Every table is in the order of the bytes of its names, and every look-up gives what reading the
table from the front gives. A buffer command whose type has a name that is found in neither table,
or the name of a format whose parts differ, is refused with the message for this name. -/
theorem lookUps_eq_scans :
    (Format.table.IsByteOrdered ∧ DatumType.shaderTable.IsByteOrdered ∧
      Property.table.IsByteOrdered ∧ Topology.drawTable.IsByteOrdered ∧
      Feature.table.IsByteOrdered) ∧
    ∀ name : String,
      Format.ofName? name = Format.table.scan? name ∧
      DatumType.ofName? name = DatumType.scan? name ∧
      (∀ (command : Command.DataCommand) (line : Nat) (rest : List Token),
        Command.datumType command (⟨.word, name, line⟩ :: rest) =
          match DatumType.scan? name with
          | some datumType => .ok (datumType, rest)
          | none => .error (.unknownType name)) ∧
      (Command.Error.unknownType name).message = DatumType.invalidMessage name ∧
      Property.ofName? name = Property.table.scan? name ∧
      Topology.ofDrawName? name = (Topology.drawTable.scan? name).map Prod.snd ∧
      Feature.ofName? name = Feature.table.scan? name := by
  constructor
  · exact ⟨Format.table.isByteOrdered, DatumType.shaderTable.isByteOrdered,
      Property.table.isByteOrdered, Topology.drawTable.isByteOrdered, Feature.table.isByteOrdered⟩
  · intro name
    have types := DatumType.ofName?_eq_scan? name
    refine ⟨Format.table.find?_eq_scan? name, types, ?_, rfl, Property.table.find?_eq_scan? name,
      ?_, Feature.table.find?_eq_scan? name⟩
    · intro command line rest
      rw [← types]
      rfl
    · rw [Topology.ofDrawName?, SortedTable.find?_eq_scan?]

/-- Digits are compared one by one, so that 16 stands before 2; a format whose parts differ is found
but is no type. -/
example :
    Feature.ofName? "sparseResidency16Samples" = some .sparseResidency16Samples ∧
      (Format.ofName? "D24_UNORM_S8_UINT").isSome ∧
      DatumType.ofName? "D24_UNORM_S8_UINT" = none := by
  decide +kernel

end GpuScript
