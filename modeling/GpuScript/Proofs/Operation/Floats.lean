import GpuScript.Proofs.Decimal.DoubleRounding
import GpuScript.Proofs.Operation.Integers

/-!
# Floating-point numbers read back

A command whose numbers are finite, and whose integers are readable, reads back as a single command.
Doubles read back as equal numbers. A single is written for its own format and read by way of a
double, so the command is equal to the one that was written exactly if none of its singles meets a
double half-way between two singles (`Test.parse_text_of_finite`).
-/

namespace GpuScript

open Command

/-- The singles among values. -/
def Value.single? : Value → Option Single
  | float .single number => some number
  | _ => none

/-- The doubles among values. -/
def Value.double? : Value → Option Double
  | float .double number => some number
  | _ => none

namespace Operation

/-- Every single of an operation: its operands and those among its values. -/
def singles (operation : Operation) : List Single :=
  operation.operands ++ operation.values.filterMap Value.single?

/-- Every double of an operation: those among its values and those of its tolerances. -/
def doubles (operation : Operation) : List Double :=
  operation.values.filterMap Value.double? ++ operation.tolerances.map Tolerance.value

end Operation

/-- A decimal number stands for a number of any notation. -/
theorem TokenKind.toDouble?_of_decimalDouble? {kind : TokenKind} {value : Double}
    (decimal : kind.decimalDouble? = some value) : kind.toDouble? = some value := by
  cases kind <;> first | exact decimal | cases decimal

/-- A finite single reads back, and as an equal one unless it is met half-way. -/
theorem Binary.reread_of_isFinite {number : Single} (clean : number.isFinite = true) :
    number.reread.isOk = true ∧ (number.Survives ↔ ¬ number.Halfway) := by
  obtain ⟨wide, read, same⟩ := exists_decimalDouble?_single clean
  have token : singleOf? (wordToken number.text) = some wide.toSingle := by
    rw [singleOf?, wordToken, TokenKind.toDouble?_of_decimalDouble? read]
    rfl
  have again : number.reread = .ok wide.toSingle := by
    rw [reread, token]
    rfl
  rw [← readsEqual_reread_iff, again, ← same]
  exact ⟨rfl, by simp [ReadsEqual]⟩

/-- A tolerance that is finite reads back as an equal one. -/
theorem Tolerance.reread_of_isFinite {tolerance : Tolerance}
    (clean : tolerance.value.isFinite = true) :
    tolerance.reread.isOk = true ∧ tolerance.Survives := by
  obtain ⟨again, read, same⟩ := Binary.exists_decimalDouble?_double clean
  have token : (wordToken tolerance.value.text).kind.decimalDouble? = some again := read
  constructor
  · rw [reread, token]
    rfl
  · rw [Survives, firstToken, tolerance.value.isWord_text.peek, token]
    exact ⟨again, rfl, same⟩

/-- A value equals itself if it is an integer. -/
theorem Value.beq_self_of_isInteger {value : Value} (integer : value.isInteger = true) :
    (value == value) = true := by
  cases value with
  | signed width bits =>
    change (width == width && bits.toInt == bits.toInt) = true
    rw [beq_self_eq_true, beq_self_eq_true, Bool.and_self]
  | unsigned width bits =>
    change (width == width && bits.toNat == bits.toNat) = true
    rw [beq_self_eq_true, beq_self_eq_true, Bool.and_self]
  | float precision number => cases integer

/-- A component of a floating-point type is read from its token as a double that is converted. -/
theorem Value.reread_float (command : DataCommand) {type : DatumType} {precision : Precision}
    {number : Binary precision} (stored : type.Stores (.float precision number)) {wide : Double}
    (read : (TokenKind.ofWord number.text.toList).decimalDouble? = some wide) :
    (Value.float precision number).reread command type =
      .ok (.float precision (wide.convert precision)) := by
  obtain ⟨base, size⟩ := stored
  have kind : (wordToken number.text).kind.decimalDouble? = some wide := read
  have found : type.value? (wordToken (Value.float precision number).text) =
      some (.float precision (wide.convert precision)) := by
    rw [DatumType.value?, base]
    simp only [ofToken?, text, kind, size]
  rw [reread, found]
  rfl

/-- A value reads back if it is readable and finite, and as an equal one unless it is a single that
is met half-way. -/
theorem Value.reread_of_isFinite (command : DataCommand) {type : DatumType} {value : Value}
    (stored : type.Stores value) (readable : value.isReadable = true)
    (single : ∀ number, value.single? = some number → number.isFinite = true)
    (double : ∀ number, value.double? = some number → number.isFinite = true) :
    (value.reread command type).isOk = true ∧ (ReadsEqual (value.reread command type) value ↔
      ∀ number, value.single? = some number → ¬ number.Halfway) := by
  have whole (integer : type.base ≠ .float) (own : value.isInteger = true)
      (none : value.single? = none) :
      (value.reread command type).isOk = true ∧ (ReadsEqual (value.reread command type) value ↔
        ∀ number, value.single? = some number → ¬ number.Halfway) := by
    rw [value.reread_of_stores command stored integer, if_pos readable, none]
    exact ⟨rfl, iff_of_true ⟨value, rfl, beq_self_of_isInteger own⟩ (by simp)⟩
  cases value with
  | signed width bits => exact whole (by rw [stored.1]; decide) rfl rfl
  | unsigned width bits => exact whole (by rw [stored.1]; decide) rfl rfl
  | float precision number =>
    cases precision with
    | single =>
      obtain ⟨wide, read, same⟩ := Binary.exists_decimalDouble?_single (single number rfl)
      rw [reread_float command stored read]
      refine ⟨rfl, ?_⟩
      simp only [single?, Option.some.injEq, forall_eq']
      rw [← same]
      exact ⟨fun ⟨_, found, equal⟩ => by obtain rfl := Except.ok.inj found; exact equal,
        fun equal => ⟨_, rfl, equal⟩⟩
    | double =>
      obtain ⟨again, read, same⟩ := Binary.exists_decimalDouble?_double (double number rfl)
      rw [reread_float command stored read, again.convert_self]
      exact ⟨rfl, iff_of_true ⟨_, rfl, same⟩ (by simp [single?])⟩

namespace Operation

/-- An operation that can be written, with readable integers and finite numbers, reads back. -/
theorem reread_of_isFinite {operation : Operation} (writable : operation.Writable)
    (readable : ∀ value ∈ operation.values, value.isReadable = true)
    (single : ∀ number ∈ operation.singles, number.isFinite = true)
    (double : ∀ number ∈ operation.doubles, number.isFinite = true) :
    operation.reread.isOk = true ∧
      (operation.Survives ↔ ∀ number ∈ operation.singles, ¬ number.Halfway) := by
  obtain ⟨operands, values⟩ := List.forall_mem_append.mp single
  obtain ⟨wide, distances⟩ := List.forall_mem_append.mp double
  have data : ∀ command data, operation.data? = some (command, data) →
      ∀ value ∈ data.values, (value.reread command data.datumType).isOk = true ∧
        (ReadsEqual (value.reread command data.datumType) value ↔
          ∀ number, value.single? = some number → ¬ number.Halfway) := by
    intro command data found value listed
    have among : operation.values = data.values := by rw [Operation.values, found]
    have own : value ∈ operation.values := among ▸ listed
    refine Value.reread_of_isFinite command ((writable.data found).typed value listed)
      (readable value own) (fun number inside => ?_) (fun number inside => ?_)
    · exact values number (List.mem_filterMap.mpr ⟨value, own, inside⟩)
    · exact wide number (List.mem_filterMap.mpr ⟨value, own, inside⟩)
  have tolerances : ∀ tolerance ∈ operation.tolerances,
      tolerance.reread.isOk = true ∧ tolerance.Survives := fun tolerance listed =>
    tolerance.reread_of_isFinite (distances _ (List.mem_map_of_mem listed))
  constructor
  · refine isOk_reread (fun number listed => ?_) (fun command own found => ?_)
      (fun tolerance listed => ?_)
    · exact (Binary.reread_of_isFinite (operands number listed)).1
    · exact BufferData.isOk_reread fun value listed => (data command own found value listed).1
    · exact (tolerances tolerance listed).1
  · have first : (∀ number ∈ operation.operands, number.Survives) ↔
        ∀ number ∈ operation.operands, ¬ number.Halfway :=
      forall₂_congr fun number listed => (Binary.reread_of_isFinite (operands number listed)).2
    have second : (∀ command own, operation.data? = some (command, own) → own.Survives) ↔
        ∀ number ∈ operation.values.filterMap Value.single?, ¬ number.Halfway := by
      constructor
      · intro each number listed
        obtain ⟨value, inside, among⟩ := List.mem_filterMap.mp listed
        obtain ⟨command, own, found, same⟩ := exists_data?_of_mem_values inside
        have equal := (own.survives_iff command).mp (each command own found) value same
        exact (data command own found value same).2.mp equal number among
      · intro apart command own found
        rw [own.survives_iff command]
        intro value listed
        refine (data command own found value listed).2.mpr fun number among => ?_
        have inside : value ∈ operation.values := by rwa [Operation.values, found]
        exact apart number (List.mem_filterMap.mpr ⟨value, inside, among⟩)
    have third : ∀ tolerance ∈ operation.tolerances, tolerance.Survives :=
      fun tolerance listed => (tolerances tolerance listed).2
    rw [survives_iff, first, second, singles, List.forall_mem_append]
    exact and_congr_right fun _ => and_iff_left third

end Operation

namespace Test

/-- The text of a command that is accepted, with readable integers and finite numbers, reads back as
a single command. It is equal to the one that was written if and only if no single of it is met
half-way. -/
theorem parse_text_of_finite {text : String} {firstLine : Nat} {test : Test} {command : Command}
    (accepted : parse text firstLine = .ok test) (listed : command ∈ test.commands)
    (readable : ∀ value ∈ command.operation.values, value.isReadable = true)
    (single : ∀ number ∈ command.operation.singles, number.isFinite = true)
    (double : ∀ number ∈ command.operation.doubles, number.isFinite = true) :
    ∃ again, parse command.operation.text 1 = .ok ⟨[⟨1, again⟩], Pipeline.default⟩ ∧
      ((again == command.operation.withPipeline Pipeline.default) = true ↔
        ∀ number ∈ command.operation.singles, ¬ number.Halfway) := by
  have writable := writable_of_mem_commands accepted listed
  obtain ⟨read, survives⟩ := Operation.reread_of_isFinite writable readable single double
  rw [← survives, ← Operation.readsEqual_reread_iff, parse_text writable]
  cases result : command.operation.reread with
  | error cause =>
    rw [result] at read
    cases read
  | ok again => exact ⟨again, rfl, by simp [ReadsEqual]⟩

/-- A body with a depth that reads back and one that is met half-way. -/
def clearDepths : String :=
  "clear depth 0.1\nclear depth 7.0385307e-26\n"

/-- The first depth of the body reads back as an equal number, the second one as its neighbour. -/
theorem parse_text_of_clearDepths :
    let plain : Single := .finite false ⟨1036831949, by decide⟩
    let halfway : Single := .finite false ⟨363742205, by decide⟩
    parse clearDepths 1 =
        .ok ⟨[⟨1, .clearDepth plain⟩, ⟨2, .clearDepth halfway⟩], Pipeline.default⟩ ∧
      (∃ again, parse (Operation.clearDepth plain).text 1 =
          .ok ⟨[⟨1, again⟩], Pipeline.default⟩ ∧ (again == .clearDepth plain) = true) ∧
      ∃ again, parse (Operation.clearDepth halfway).text 1 =
          .ok ⟨[⟨1, again⟩], Pipeline.default⟩ ∧ (again == .clearDepth halfway) = false := by
  intro plain halfway
  have whole : (read clearDepths 1).failure = none ∧
      (read clearDepths 1).commands =
        [⟨1, .clearDepth plain⟩, ⟨2, .clearDepth halfway⟩] ∧
      (read clearDepths 1).pipeline = Pipeline.default := by
    decide +kernel
  obtain ⟨clean, commands, state⟩ := whole
  have accepted : parse clearDepths 1 =
      .ok ⟨[⟨1, .clearDepth plain⟩, ⟨2, .clearDepth halfway⟩], Pipeline.default⟩ := by
    rw [parse_eq_ok_iff]
    exact ⟨clean, by rw [commands, state]⟩
  refine ⟨accepted, ?_, ?_⟩
  · obtain ⟨again, read, same⟩ := parse_text_of_finite accepted
      (by simp : (⟨1, .clearDepth plain⟩ : Command) ∈ _) (by decide) (by decide) (by decide)
    have survives : plain.Survives := by decide +kernel
    have apart := (Binary.reread_of_isFinite (rfl : plain.isFinite = true)).2.mp survives
    exact ⟨again, read, same.mpr (List.forall_mem_singleton.mpr apart)⟩
  · obtain ⟨again, read, same⟩ := parse_text_of_finite accepted
      (by simp : (⟨2, .clearDepth halfway⟩ : Command) ∈ _) (by decide) (by decide) (by decide)
    have differs : ¬ halfway.Survives := by decide +kernel
    have meets : ¬ ¬ halfway.Halfway := fun apart =>
      differs ((Binary.reread_of_isFinite (rfl : halfway.isFinite = true)).2.mpr apart)
    refine ⟨again, read, Bool.eq_false_iff.mpr fun equal => ?_⟩
    exact meets (same.mp equal halfway (List.mem_singleton_self halfway))

end Test

end GpuScript
