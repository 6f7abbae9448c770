import GpuScript.Proofs.Operation.RoundTrip

/-!
# The numbers of an operation

Apart from unsigned words, an operation has numbers of three kinds: operands, which are singles,
the values of its buffer data and the numbers of its tolerances. It reads back if each of these
does (`Operation.isOk_reread`), and survives if each of these does (`Operation.survives_iff`).
-/

namespace GpuScript

open Command

namespace Operation

/-- The singles that are operands of an operation. -/
def operands : Operation → List Single
  | clearColor r g b a => [r, g, b, a]
  | clearDepth value => [value]
  | drawRect _ _ x y width height _ => [x, y, width, height]
  | probe framebuffer => coordinates framebuffer.region ++ channels framebuffer.color
  | _ => []

/-- The buffer data of an operation, with the command that its values are errors of. -/
def data? : Operation → Option (DataCommand × BufferData)
  | probeBuffer storage => some (.probeBuffer, storage.data)
  | buffer (.storage _ data) => some (.storage, data)
  | buffer (.uniform _ data) => some (.uniform, data)
  | buffer (.pushConstants data) => some (.uniform, data)
  | _ => none

/-- The values of the buffer data of an operation. -/
def values (operation : Operation) : List Value :=
  match operation.data? with
  | some (_, data) => data.values
  | none => []

/-- The tolerances that an operation sets. -/
def tolerances : Operation → List Tolerance
  | tolerance tolerances => tolerances
  | _ => []

end Operation

/-- A region survives if its coordinates do. -/
theorem Region.survives_iff (region : Region) :
    region.Survives ↔ ∀ number ∈ coordinates region, number.Survives := by
  cases region <;> simp [Region.Survives, coordinates]

/-- A colour survives if its components do. -/
theorem ProbeColor.survives_iff (color : ProbeColor) :
    color.Survives ↔ ∀ number ∈ channels color, number.Survives := by
  cases color <;> simp [ProbeColor.Survives, channels]

/-- A region reads back if its coordinates do. -/
theorem Region.isOk_reread {region : Region}
    (each : ∀ number ∈ coordinates region, number.reread.isOk = true) :
    region.reread.isOk = true := by
  cases region with
  | window => rfl
  | pixel x y => simpa [Region.reread, coordinates] using each
  | rect x y width height => simpa [Region.reread, coordinates] using each

/-- A colour reads back if its components do. -/
theorem ProbeColor.isOk_reread {color : ProbeColor}
    (each : ∀ number ∈ channels color, number.reread.isOk = true) :
    color.reread.isOk = true := by
  cases color with
  | rgb r g b => simpa [ProbeColor.reread, channels] using each
  | rgba r g b a => simpa [ProbeColor.reread, channels] using each

/-- Buffer data reads back if its values do. -/
theorem BufferData.isOk_reread {command : DataCommand} {data : BufferData}
    (each : ∀ value ∈ data.values, (value.reread command data.datumType).isOk = true) :
    (data.reread command).isOk = true := by
  rw [BufferData.reread, isOk_map]
  exact isOk_mapM each

namespace Operation

/-- The data of an operation that can be written can be written. -/
theorem Writable.data {operation : Operation} (writable : operation.Writable)
    {command : DataCommand} {data : BufferData} (found : operation.data? = some (command, data)) :
    data.Writable := by
  unfold data? at found
  split at found
  · obtain ⟨_, rfl⟩ := Prod.mk.inj (Option.some.inj found)
    exact writable
  · obtain ⟨_, rfl⟩ := Prod.mk.inj (Option.some.inj found)
    exact writable
  · obtain ⟨_, rfl⟩ := Prod.mk.inj (Option.some.inj found)
    exact writable
  · obtain ⟨_, rfl⟩ := Prod.mk.inj (Option.some.inj found)
    exact writable
  · cases found

/-- A value of an operation is one of its data. -/
theorem exists_data?_of_mem_values {operation : Operation} {value : Value}
    (listed : value ∈ operation.values) :
    ∃ command data, operation.data? = some (command, data) ∧ value ∈ data.values := by
  unfold values at listed
  split at listed
  · rename_i command data found
    exact ⟨command, data, found, listed⟩
  · cases listed

/-- An operation survives if its operands, its data and its tolerances do. -/
theorem survives_iff (operation : Operation) :
    operation.Survives ↔ (∀ number ∈ operation.operands, number.Survives) ∧
      (∀ command data, operation.data? = some (command, data) → data.Survives) ∧
      ∀ tolerance ∈ operation.tolerances, tolerance.Survives := by
  cases operation with
  | buffer update =>
    cases update <;> simp [Survives, BufferUpdate.Survives, operands, data?, tolerances]
  | probe framebuffer =>
    simp [Survives, operands, data?, tolerances, Region.survives_iff, ProbeColor.survives_iff,
      or_imp, forall_and]
  | _ => simp [Survives, operands, data?, tolerances]

/-- An operation reads back if its operands, its data and its tolerances do. -/
theorem isOk_reread {operation : Operation}
    (numbers : ∀ number ∈ operation.operands, number.reread.isOk = true)
    (values : ∀ command data, operation.data? = some (command, data) →
      (data.reread command).isOk = true)
    (distances : ∀ tolerance ∈ operation.tolerances, tolerance.reread.isOk = true) :
    operation.reread.isOk = true := by
  cases operation with
  | probe framebuffer =>
    obtain ⟨place, color⟩ := List.forall_mem_append.mp numbers
    simp [reread, Probe.reread, Region.isOk_reread place, ProbeColor.isOk_reread color]
  | probeBuffer storage => simpa [reread] using values .probeBuffer storage.data rfl
  | buffer update =>
    cases update with
    | storageSize binding size => rfl
    | storage binding data => simpa [reread, BufferUpdate.reread] using values .storage data rfl
    | uniform binding data => simpa [reread, BufferUpdate.reread] using values .uniform data rfl
    | pushConstants data => simpa [reread, BufferUpdate.reread] using values .uniform data rfl
  | tolerance tolerances =>
    rw [reread, isOk_map]
    exact isOk_mapM distances
  | clearColor r g b a => simpa [reread, operands] using numbers
  | clearDepth value => simpa [reread, operands] using numbers
  | drawRect ortho patch x y width height pipeline => simpa [reread, operands] using numbers
  | _ => rfl

/-- An operation with data reads back as the same operation with what the data reads back as. -/
theorem exists_reread_of_data? {operation : Operation} {command : DataCommand} {data : BufferData}
    (found : operation.data? = some (command, data)) :
    ∃ make : BufferData → Operation, make data = operation ∧
      operation.reread = (data.reread command).map make := by
  unfold data? at found
  split at found
  · rename_i storage
    obtain ⟨rfl, rfl⟩ := Prod.mk.inj (Option.some.inj found)
    exact ⟨fun data => probeBuffer ⟨storage.binding, storage.comparator, data⟩, rfl, rfl⟩
  · rename_i binding data
    obtain ⟨rfl, rfl⟩ := Prod.mk.inj (Option.some.inj found)
    exact ⟨fun data => buffer (.storage binding data), rfl, map_map _ _ _⟩
  · rename_i binding data
    obtain ⟨rfl, rfl⟩ := Prod.mk.inj (Option.some.inj found)
    exact ⟨fun data => buffer (.uniform binding data), rfl, map_map _ _ _⟩
  · rename_i data
    obtain ⟨rfl, rfl⟩ := Prod.mk.inj (Option.some.inj found)
    exact ⟨fun data => buffer (.pushConstants data), rfl, map_map _ _ _⟩
  · cases found

end Operation

end GpuScript
