import GpuScript.Proofs.Operation.Survival

/-!
# What an operation reads back as

Each number of an operation is written as one word, and reads back as what that word stands for. An
operation reads back as the operation with these numbers (`Operation.reread`), or not at all if one
of the words is refused. It reads back as an equal operation if and only if every number survives
(`Operation.readsEqual_reread_iff`).
-/

namespace GpuScript

open Command

/-- A result is a value, and it is equal to a given one. -/
def ReadsEqual {α : Type} [BEq α] (result : Except Error α) (value : α) : Prop :=
  ∃ again, result = .ok again ∧ (again == value) = true

section Results

variable {α β : Type} [BEq α] [BEq β]

/-- Two results are equal to two values if each is. -/
theorem readsEqual_both_iff {first : Except Error α} {second : Except Error β} {one : α} {two : β} :
    ReadsEqual (both first second) (one, two) ↔ ReadsEqual first one ∧ ReadsEqual second two := by
  cases first with
  | error cause => simp [ReadsEqual, both, bind, Except.bind]
  | ok value =>
    cases second with
    | error cause => simp [ReadsEqual, both, Except.map]
    | ok other =>
      have pair : ((value, other) == (one, two)) = (value == one && other == two) := rfl
      simp [ReadsEqual, both, Except.map, pair]

/-- A result from which something is made keeps to be equal if the making tells values apart. -/
theorem readsEqual_map_iff {result : Except Error α} {make : α → β} {value : α} {made : β}
    (same : ∀ again, (make again == made) = (again == value)) :
    ReadsEqual (result.map make) made ↔ ReadsEqual result value := by
  cases result with
  | error cause => simp [ReadsEqual, Except.map]
  | ok again => simp [ReadsEqual, Except.map, same]

/-- The results of a list are equal to it if each is equal to its element. -/
theorem readsEqual_mapM_iff {read : α → Except Error α} {values : List α} :
    ReadsEqual (values.mapM read) values ↔ ∀ value ∈ values, ReadsEqual (read value) value := by
  induction values with
  | nil => exact iff_of_true ⟨[], rfl, rfl⟩ (by simp)
  | cons first rest ih =>
    have pairs : (first :: rest).mapM read =
        (both (read first) (rest.mapM read)).map fun (value, values) => value :: values := by
      rw [List.mapM_cons]
      cases read first with
      | error cause => rfl
      | ok value => cases rest.mapM read <;> rfl
    have same : ∀ again : α × List α, (again.1 :: again.2 == first :: rest) =
        (again == (first, rest)) := fun _ => rfl
    rw [pairs, readsEqual_map_iff same, readsEqual_both_iff, ih, List.forall_mem_cons]

/-- What was found is equal to a value, or the cause why nothing was found is reported. -/
theorem readsEqual_orError_iff {cause : Error} {found : Option α} {value : α} :
    ReadsEqual (orError cause found) value ↔ FindsEqual found value := by
  cases found <;> simp [ReadsEqual, FindsEqual, orError]

end Results

/-- A number reads back as what its text stands for. -/
def Binary.reread (number : Single) : Except Error Single :=
  orError .invalidNumber (singleOf? (wordToken number.text))

/-- A tolerance reads back as what the text of its number stands for, which has to be decimal. -/
def Tolerance.reread (tolerance : Tolerance) : Except Error Tolerance :=
  (orError .invalidTolerance (wordToken tolerance.value.text).kind.decimalDouble?).map
    fun value => ⟨value, tolerance.isPercent⟩

/-- A value reads back as what its text stands for as a component of a type. -/
def Value.reread (command : DataCommand) (type : DatumType) (value : Value) :
    Except Error Value :=
  orError (.invalidValue command value.text) (type.value? (wordToken value.text))

/-- Buffer data reads back value by value. -/
def BufferData.reread (command : DataCommand) (data : BufferData) : Except Error BufferData :=
  (data.values.mapM (Value.reread command data.datumType)).map
    fun values => ⟨data.datumType, data.offset, values⟩

/-- A region reads back number by number. -/
def Region.reread : Region → Except Error Region
  | window => .ok window
  | pixel x y => (both x.reread y.reread).map fun (x, y) => pixel x y
  | rect x y width height =>
    (both x.reread (both y.reread (both width.reread height.reread))).map
      fun (x, y, width, height) => rect x y width height

/-- A colour reads back number by number. -/
def ProbeColor.reread : ProbeColor → Except Error ProbeColor
  | rgb r g b => (both r.reread (both g.reread b.reread)).map fun (r, g, b) => rgb r g b
  | rgba r g b a =>
    (both r.reread (both g.reread (both b.reread a.reread))).map fun (r, g, b, a) => rgba r g b a

/-- A probe reads back with its region and then its colour. -/
def Probe.reread (probe : Probe) : Except Error Probe :=
  (both probe.region.reread probe.color.reread).map
    fun (region, color) => ⟨probe.relative, region, color⟩

/-- A change of a buffer reads back with its data. -/
def BufferUpdate.reread : BufferUpdate → Except Error BufferUpdate
  | storageSize binding size => .ok (storageSize binding size)
  | storage binding data => (data.reread .storage).map (storage binding)
  | uniform binding data => (data.reread .uniform).map (uniform binding)
  | pushConstants data => (data.reread .uniform).map pushConstants

/-- The operation with the given pipeline state, if it carries one. -/
def Operation.withPipeline (pipeline : Pipeline) : Operation → Operation
  | drawRect ortho patch x y width height _ => drawRect ortho patch x y width height pipeline
  | drawArrays indexed instances topology firstVertex vertexCount _ =>
    drawArrays indexed instances topology firstVertex vertexCount pipeline
  | compute x y z _ => compute x y z pipeline
  | other => other

/-- An operation reads back with what its numbers read back as, and with the pipeline state of a
section that sets none. -/
def Operation.reread : Operation → Except Error Operation
  | clearColor r g b a =>
    (both r.reread (both g.reread (both b.reread a.reread))).map
      fun (r, g, b, a) => clearColor r g b a
  | clearDepth value => value.reread.map clearDepth
  | drawRect ortho patch x y width height _ =>
    (both x.reread (both y.reread (both width.reread height.reread))).map
      fun (x, y, width, height) => drawRect ortho patch x y width height Pipeline.default
  | probe framebuffer => framebuffer.reread.map probe
  | probeBuffer storage =>
    (storage.data.reread .probeBuffer).map
      fun data => probeBuffer ⟨storage.binding, storage.comparator, data⟩
  | buffer update => update.reread.map buffer
  | tolerance tolerances => (tolerances.mapM Tolerance.reread).map tolerance
  | other => .ok (other.withPipeline Pipeline.default)

/-- A number reads back as an equal one if it survives. -/
theorem Binary.readsEqual_reread_iff (number : Single) :
    ReadsEqual number.reread number ↔ number.Survives := by
  rw [Binary.Survives, firstToken, number.isWord_text.peek]
  exact readsEqual_orError_iff

/-- A tolerance reads back as an equal one if it survives. -/
theorem Tolerance.readsEqual_reread_iff (tolerance : Tolerance) :
    ReadsEqual tolerance.reread tolerance ↔ tolerance.Survives := by
  have same : ∀ again : Double, ((⟨again, tolerance.isPercent⟩ : Tolerance) == tolerance) =
      (again == tolerance.value) := by
    intro again
    change (again == tolerance.value && tolerance.isPercent == tolerance.isPercent) = _
    rw [beq_self_eq_true, Bool.and_true]
  rw [Tolerance.Survives, firstToken, tolerance.value.isWord_text.peek, Tolerance.reread,
    readsEqual_map_iff same]
  exact readsEqual_orError_iff

/-- Buffer data survives if each of its values reads back as an equal one. -/
theorem BufferData.survives_iff (command : DataCommand) (data : BufferData) :
    data.Survives ↔
      ∀ value ∈ data.values, ReadsEqual (value.reread command data.datumType) value := by
  refine forall₂_congr fun value _ => ?_
  rw [firstToken, value.isWord_text.peek]
  exact readsEqual_orError_iff.symm

/-- Buffer data reads back as equal data if it survives. -/
theorem BufferData.readsEqual_reread_iff (command : DataCommand) (data : BufferData) :
    ReadsEqual (data.reread command) data ↔ data.Survives := by
  have same : ∀ again : List Value,
      ((⟨data.datumType, data.offset, again⟩ : BufferData) == data) = (again == data.values) := by
    intro again
    change (data.datumType == data.datumType && (data.offset == data.offset &&
      again == data.values)) = _
    rw [beq_self_eq_true, beq_self_eq_true, Bool.true_and, Bool.true_and]
  rw [BufferData.reread, readsEqual_map_iff same, readsEqual_mapM_iff, data.survives_iff command]

/-- A region reads back as an equal one if its coordinates survive. -/
theorem Region.readsEqual_reread_iff (region : Region) :
    ReadsEqual region.reread region ↔ region.Survives := by
  cases region with
  | window => exact iff_of_true ⟨window, rfl, rfl⟩ trivial
  | pixel x y =>
    have same : ∀ again : Single × Single, (pixel again.1 again.2 == pixel x y) =
        (again == (x, y)) := fun _ => rfl
    simp only [Region.reread, readsEqual_map_iff same, readsEqual_both_iff,
      Binary.readsEqual_reread_iff, Region.Survives]
  | rect x y width height =>
    have same : ∀ again : Single × Single × Single × Single,
        (rect again.1 again.2.1 again.2.2.1 again.2.2.2 == rect x y width height) =
          (again == (x, y, width, height)) := fun _ => rfl
    simp only [Region.reread, readsEqual_map_iff same, readsEqual_both_iff,
      Binary.readsEqual_reread_iff, Region.Survives]

/-- A colour reads back as an equal one if its components survive. -/
theorem ProbeColor.readsEqual_reread_iff (color : ProbeColor) :
    ReadsEqual color.reread color ↔ color.Survives := by
  cases color with
  | rgb r g b =>
    have same : ∀ again : Single × Single × Single,
        (rgb again.1 again.2.1 again.2.2 == rgb r g b) = (again == (r, g, b)) := fun _ => rfl
    simp only [ProbeColor.reread, readsEqual_map_iff same, readsEqual_both_iff,
      Binary.readsEqual_reread_iff, ProbeColor.Survives]
  | rgba r g b a =>
    have same : ∀ again : Single × Single × Single × Single,
        (rgba again.1 again.2.1 again.2.2.1 again.2.2.2 == rgba r g b a) =
          (again == (r, g, b, a)) := fun _ => rfl
    simp only [ProbeColor.reread, readsEqual_map_iff same, readsEqual_both_iff,
      Binary.readsEqual_reread_iff, ProbeColor.Survives]

/-- A probe reads back as an equal one if its region and its colour survive. -/
theorem Probe.readsEqual_reread_iff (probe : Probe) :
    ReadsEqual probe.reread probe ↔ probe.region.Survives ∧ probe.color.Survives := by
  have same : ∀ again : Region × ProbeColor,
      ((⟨probe.relative, again.1, again.2⟩ : Probe) == probe) =
        (again == (probe.region, probe.color)) := by
    intro again
    change (probe.relative == probe.relative && (again.1 == probe.region &&
      again.2 == probe.color)) = _
    rw [beq_self_eq_true, Bool.true_and]
    rfl
  simp only [Probe.reread, readsEqual_map_iff same, readsEqual_both_iff,
    Region.readsEqual_reread_iff, ProbeColor.readsEqual_reread_iff]

/-- A change of a buffer reads back as an equal one if its values survive. -/
theorem BufferUpdate.readsEqual_reread_iff (update : BufferUpdate) :
    ReadsEqual update.reread update ↔ update.Survives := by
  have place {make : Binding → BufferData → BufferUpdate} {binding : Binding} {data : BufferData}
      (shape : ∀ again, (make binding again == make binding data) =
        (binding == binding && again == data)) :
      ∀ again, (make binding again == make binding data) = (again == data) := by
    intro again
    rw [shape, beq_self_eq_true, Bool.true_and]
  cases update with
  | storageSize binding size =>
    refine iff_of_true ⟨storageSize binding size, rfl, ?_⟩ trivial
    change (binding == binding && size == size) = true
    rw [beq_self_eq_true, beq_self_eq_true, Bool.and_self]
  | storage binding data =>
    rw [BufferUpdate.reread, readsEqual_map_iff (place fun _ => rfl)]
    exact data.readsEqual_reread_iff .storage
  | uniform binding data =>
    rw [BufferUpdate.reread, readsEqual_map_iff (place fun _ => rfl)]
    exact data.readsEqual_reread_iff .uniform
  | pushConstants data =>
    have same : ∀ again, (pushConstants again == pushConstants data) = (again == data) :=
      fun _ => rfl
    rw [BufferUpdate.reread, readsEqual_map_iff same]
    exact data.readsEqual_reread_iff .uniform

/-- An operation reads back as an equal one, with the pipeline state of the reader, if and only if
every number of it survives. -/
theorem Operation.readsEqual_reread_iff (operation : Operation) :
    ReadsEqual operation.reread (operation.withPipeline Pipeline.default) ↔
      operation.Survives := by
  have whole {other : Operation} (same : (other == other) = true) :
      ReadsEqual (.ok other) other := ⟨other, rfl, same⟩
  cases operation with
  | clear => exact iff_of_true (whole rfl) trivial
  | clearColor r g b a =>
    have same : ∀ again : Single × Single × Single × Single,
        (clearColor again.1 again.2.1 again.2.2.1 again.2.2.2 == clearColor r g b a) =
          (again == (r, g, b, a)) := fun _ => rfl
    simp only [Operation.reread, Operation.withPipeline, readsEqual_map_iff same,
      readsEqual_both_iff, Binary.readsEqual_reread_iff, Operation.Survives]
  | clearDepth value =>
    have same : ∀ again, (clearDepth again == clearDepth value) = (again == value) :=
      fun _ => rfl
    simp only [Operation.reread, Operation.withPipeline, readsEqual_map_iff same,
      Binary.readsEqual_reread_iff, Operation.Survives]
  | clearStencil value => exact iff_of_true (whole (beq_self_eq_true value)) trivial
  | drawRect ortho patch x y width height pipeline =>
    have same : ∀ again : Single × Single × Single × Single,
        (drawRect ortho patch again.1 again.2.1 again.2.2.1 again.2.2.2 Pipeline.default ==
          drawRect ortho patch x y width height Pipeline.default) =
            (again == (x, y, width, height)) := by
      intro again
      change (ortho == ortho && (patch == patch && (again.1 == x && (again.2.1 == y &&
        (again.2.2.1 == width && (again.2.2.2 == height &&
          Pipeline.default == Pipeline.default)))))) = _
      have state : (Pipeline.default == Pipeline.default) = true := rfl
      rw [beq_self_eq_true, beq_self_eq_true, state, Bool.true_and, Bool.true_and, Bool.and_true]
      rfl
    simp only [Operation.reread, Operation.withPipeline, readsEqual_map_iff same,
      readsEqual_both_iff, Binary.readsEqual_reread_iff, Operation.Survives]
  | drawArrays indexed instances topology firstVertex vertexCount pipeline =>
    refine iff_of_true (whole ?_) trivial
    change (indexed == indexed && (instances == instances && (topology == topology &&
      (firstVertex == firstVertex && (vertexCount == vertexCount &&
        Pipeline.default == Pipeline.default))))) = true
    simp only [beq_self_eq_true, Bool.true_and]
    rfl
  | compute x y z pipeline =>
    refine iff_of_true (whole ?_) trivial
    change (x == x && (y == y && (z == z && Pipeline.default == Pipeline.default))) = true
    simp only [beq_self_eq_true, Bool.true_and]
    rfl
  | entryPoint stage name =>
    refine iff_of_true (whole ?_) trivial
    change (stage == stage && name == name) = true
    simp only [beq_self_eq_true, Bool.and_self]
  | patchVertices count => exact iff_of_true (whole (beq_self_eq_true count)) trivial
  | probe framebuffer =>
    have same : ∀ again, (probe again == probe framebuffer) = (again == framebuffer) :=
      fun _ => rfl
    simp only [Operation.reread, Operation.withPipeline, readsEqual_map_iff same,
      Probe.readsEqual_reread_iff, Operation.Survives]
  | probeBuffer storage =>
    have same : ∀ again, (probeBuffer ⟨storage.binding, storage.comparator, again⟩ ==
        probeBuffer storage) = (again == storage.data) := by
      intro again
      change (storage.binding == storage.binding && (storage.comparator == storage.comparator &&
        again == storage.data)) = _
      rw [beq_self_eq_true, beq_self_eq_true, Bool.true_and, Bool.true_and]
    simp only [Operation.reread, Operation.withPipeline, readsEqual_map_iff same,
      BufferData.readsEqual_reread_iff, Operation.Survives]
  | buffer update =>
    have same : ∀ again, (buffer again == buffer update) = (again == update) := fun _ => rfl
    simp only [Operation.reread, Operation.withPipeline, readsEqual_map_iff same,
      BufferUpdate.readsEqual_reread_iff, Operation.Survives]
  | tolerance tolerances =>
    have same : ∀ again, (tolerance again == tolerance tolerances) = (again == tolerances) :=
      fun _ => rfl
    simp only [Operation.reread, Operation.withPipeline, readsEqual_map_iff same,
      readsEqual_mapM_iff, Tolerance.readsEqual_reread_iff, Operation.Survives]

end GpuScript
