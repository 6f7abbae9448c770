import GpuScript.Command.Form
import GpuScript.Json.Script
import GpuScript.Proofs.Result

/-!
# Commands carry the pipeline state in which they are read

The only pipeline state that an operation can carry is the one that its command was read with
(`Command.carries_readOperation`). Every reader of a command is a sequence of steps with an
operation at its end, so it is enough to look at the ends.
-/

namespace GpuScript.Command

/-- An operation that is read carries no pipeline state but the given one. -/
def Carries (pipeline : Pipeline) (result : Except Error Operation) : Prop :=
  ∀ operation, result = .ok operation →
    ∀ snapshot, operation.pipeline? = some snapshot → snapshot = pipeline

section Steps

variable {pipeline : Pipeline} {α : Type}

/-- A line that is refused carries no pipeline state. -/
theorem Carries.error (cause : Error) : Carries pipeline (.error cause) :=
  fun _ accepted => by cases accepted

/-- An operation without a pipeline state. -/
theorem Carries.of_none {operation : Operation} (without : operation.pipeline? = none) :
    Carries pipeline (.ok operation) := by
  rintro _ ⟨⟩ snapshot found
  rw [without] at found
  cases found

/-- An operation with the given pipeline state. -/
theorem Carries.of_some {operation : Operation} (own : operation.pipeline? = some pipeline) :
    Carries pipeline (.ok operation) := by
  rintro _ ⟨⟩ snapshot found
  exact Option.some.inj (found.symm.trans own)

/-- What a sequence of steps carries is what its last step carries. -/
theorem Carries.bind {result : Except Error α} {onward : α → Except Error Operation}
    (last : ∀ value, Carries pipeline (onward value)) : Carries pipeline (result >>= onward) := by
  intro operation accepted
  obtain ⟨value, _, next⟩ := bind_eq_ok.mp accepted
  exact last value operation next

end Steps

variable (pipeline : Pipeline) (tokens : List Token)

/-- A clear carries no pipeline state. -/
theorem carries_clear : Carries pipeline (clear tokens) := by
  unfold clear
  split
  · exact .of_none rfl
  · rename_i token rest
    split
    · exact .bind fun _ => .bind fun _ => .of_none rfl
    · exact .bind fun _ => .bind fun _ => .of_none rfl
    · unfold clearStencil
      split
      · exact .error _
      · exact .bind fun _ => .bind fun _ => .of_none rfl
    · exact .error _

/-- A draw carries the pipeline state. -/
theorem carries_draw : Carries pipeline (draw pipeline tokens) := by
  unfold draw
  split
  · exact .error _
  · split
    · exact .bind fun _ => .bind fun _ => .of_some rfl
    · exact .bind fun _ => .bind fun _ => .bind fun _ => .bind fun _ => .bind fun _ => .of_some rfl
    · exact .error _

/-- An entry point carries no pipeline state. -/
theorem carries_entryPoint (stage : Stage) : Carries pipeline (entryPoint stage tokens) := by
  unfold entryPoint
  split
  · exact .error _
  · exact .error _
  · split
    · exact .error _
    · exact .bind fun _ => .of_none rfl

/-- An entry point of a tessellation stage carries no pipeline state. -/
theorem carries_tessellation : Carries pipeline (tessellation tokens) := by
  unfold tessellation
  split
  · exact .error _
  · split
    · exact carries_entryPoint pipeline _ _
    · exact carries_entryPoint pipeline _ _
    · exact .error _

/-- A compute command carries the pipeline state. -/
theorem carries_compute : Carries pipeline (compute pipeline tokens) := by
  unfold compute
  split
  · exact carries_entryPoint pipeline _ _
  · exact .error _
  · exact .bind fun _ => .bind fun _ => .bind fun _ => .bind fun _ => .of_some rfl

/-- The size of a patch carries no pipeline state. -/
theorem carries_patch : Carries pipeline (patch tokens) := by
  unfold patch
  split
  · exact .error _
  · split
    · exact .error _
    · exact .bind fun _ => .bind fun _ => .of_none rfl

/-- A probe of the framebuffer carries no pipeline state. -/
theorem carries_probeFramebuffer (relative : Bool) :
    Carries pipeline (probeFramebuffer relative tokens) :=
  .bind fun _ => .bind fun _ => .bind fun _ => .bind fun _ => .bind fun _ => .of_none rfl

/-- A probe carries no pipeline state. -/
theorem carries_probe : Carries pipeline (probe tokens) := by
  unfold probe
  split
  · exact .bind fun _ => .bind fun _ => .bind fun _ => .bind fun _ => .bind fun _ => .of_none rfl
  · exact carries_probeFramebuffer pipeline _ false

/-- A relative probe carries no pipeline state. -/
theorem carries_relative : Carries pipeline (relative tokens) := by
  unfold relative
  split
  · exact carries_probeFramebuffer pipeline _ true
  · exact .error _

/-- A storage buffer command carries no pipeline state. -/
theorem carries_storage : Carries pipeline (storage tokens) := by
  unfold storage
  split
  · exact .error _
  · exact .bind fun _ => .bind fun _ => .of_none rfl

/-- A uniform command carries no pipeline state. -/
theorem carries_uniform : Carries pipeline (uniform tokens) := by
  unfold uniform
  split
  · exact .bind fun _ => .bind fun _ => .of_none rfl
  · exact .bind fun _ => .of_none rfl

/-- A tolerance carries no pipeline state. -/
theorem carries_tolerance : Carries pipeline (tolerance tokens) := by
  refine .bind fun tolerances => ?_
  split
  · exact .error _
  · exact .of_none rfl
  · exact .of_none rfl
  · exact .error _

/-- A command carries no pipeline state but the one that it is read with. -/
theorem carries_readOperation (name : String) :
    Carries pipeline (readOperation pipeline name tokens) := by
  unfold readOperation
  split
  · exact carries_clear pipeline tokens
  · exact carries_draw pipeline tokens
  · exact carries_compute pipeline tokens
  · exact carries_patch pipeline tokens
  · exact carries_probe pipeline tokens
  · exact carries_relative pipeline tokens
  · exact carries_storage pipeline tokens
  · exact carries_uniform pipeline tokens
  · exact carries_tolerance pipeline tokens
  · exact carries_tessellation pipeline tokens
  · exact carries_entryPoint pipeline tokens .vertex
  · exact carries_entryPoint pipeline tokens .geometry
  · exact carries_entryPoint pipeline tokens .fragment
  · exact .error _

end GpuScript.Command
