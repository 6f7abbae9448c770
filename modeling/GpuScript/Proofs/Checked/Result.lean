import GpuScript.Proofs.Result

/-!
# Results that ask for parts

A reading that takes parts out of texts, entries out of tables and quotients of numbers fails as a
whole if one of them is none. Where all of them are there the reading is a result (`given`), and
readings of which each is the result of a reader follow one another as the readers do
(`given_bind`).
-/

namespace GpuScript.Checked

variable {ε δ α β : Type}

/-- A result, or nothing if something was asked for that is none. -/
abbrev Reading (ε α : Type) : Type :=
  ExceptT ε Option α

/-- The reading that has a result. -/
def given (result : Except ε α) : Reading ε α :=
  ExceptT.mk (some result)

/-- The reading that asks for something. -/
def ask (asked : Option α) : Reading ε α :=
  ExceptT.mk (asked.map .ok)

/-- The reading with its error changed. -/
def onError (change : ε → δ) (reading : Reading ε α) : Reading δ α :=
  ExceptT.mk (reading.run.map (Except.mapError change))

/-- What is there is given. -/
@[simp]
theorem ask_some (value : α) : ask (some value) = (given (.ok value) : Reading ε α) :=
  rfl

/-- A given value goes on to the next step. -/
@[simp]
theorem given_ok_bind (value : α) (next : α → Reading ε β) :
    (given (.ok value) >>= next) = next value :=
  rfl

/-- The error of a given result is changed. -/
@[simp]
theorem onError_given (change : ε → δ) (result : Except ε α) :
    onError change (given result) = given (result.mapError change) :=
  rfl

/-- Steps that are given follow one another as the steps of the reader do. -/
theorem given_bind (result : Except ε α) {next : α → Reading ε β} {step : α → Except ε β}
    (same : ∀ value, result = .ok value → next value = given (step value)) :
    (given result >>= next) = given (result >>= step) := by
  cases result with
  | error error => rfl
  | ok value => exact same value rfl

/-- A given value is changed. -/
theorem given_bind_ok (result : Except ε α) (change : α → β) :
    (given result >>= fun value => given (.ok (change value))) = given (result.map change) := by
  cases result <;> rfl

/-- A list is read as its elements are. -/
theorem mapM_given {read : α → Reading ε β} {plain : α → Except ε β} {elements : List α}
    (same : ∀ element ∈ elements, read element = given (plain element)) :
    elements.mapM read = given (elements.mapM plain) := by
  induction elements with
  | nil => rfl
  | cons first rest ih =>
    obtain ⟨own, others⟩ := List.forall_mem_cons.mp same
    rw [List.mapM_cons, List.mapM_cons, own, ih others]
    refine given_bind _ fun value _ => given_bind _ fun values _ => rfl

end GpuScript.Checked
