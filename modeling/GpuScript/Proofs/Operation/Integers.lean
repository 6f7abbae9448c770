import GpuScript.Proofs.Operation.Numbers

/-!
# Integers read back

Integer data is written in decimal, and decimal integers are read as signed words of 64 bits. So a
command with integer data reads back as itself, with every value, unless a value is an unsigned word
of 64 bits with its highest bit set: then its text is no integer to the reader, and the command is
refused for the first such value (`Test.parse_text_of_integers`).
-/

namespace GpuScript

open Text Command

/-- A value is no unsigned word of 64 bits with its highest bit set. -/
def Value.isReadable : Value → Bool
  | unsigned .w64 bits => !bits.msb
  | _ => true

/-- An unsigned integer is readable if a signed word of 64 bits is equal to it. -/
theorem Value.isReadable_unsigned {width : Width} (bits : BitVec width.bits) :
    (unsigned width bits).isReadable = true ↔ bits.toNat < 2 ^ 63 := by
  have below := bits.isLt
  cases width with
  | w64 =>
    have highest : bits.msb = decide (2 ^ 63 ≤ bits.toNat) := BitVec.msb_eq_decide bits
    change (!bits.msb) = true ↔ _
    rw [highest, Bool.not_eq_true', decide_eq_false_iff_not]
    omega
  | w8 => exact iff_of_true rfl (below.trans (by decide))
  | w16 => exact iff_of_true rfl (below.trans (by decide))
  | w32 => exact iff_of_true rfl (below.trans (by decide))

/-- A signed integer of any width fits 64 bits. -/
theorem fits_toInt {width : Width} (bits : BitVec width.bits) : TokenKind.Fits bits.toInt := by
  have low := BitVec.le_toInt bits
  have high := @BitVec.toInt_lt width.bits bits
  have widest : (2 : Int) ^ (width.bits - 1) ≤ 2 ^ 63 := by cases width <;> decide
  rw [TokenKind.fits_iff]
  omega

/-- An integer reads back as itself if it is readable, and is refused if it is not. -/
theorem Value.reread_of_stores (command : DataCommand) {type : DatumType} {value : Value}
    (stored : type.Stores value) (integer : type.base ≠ .float) :
    value.reread command type =
      if value.isReadable then .ok value else .error (.invalidValue command value.text) := by
  cases value with
  | float precision number => exact absurd stored.1 integer
  | signed width bits =>
    obtain ⟨base, size⟩ := stored
    have kind : (wordToken (integerText bits.toInt)).kind.integerValue? = some bits.toInt :=
      (TokenKind.integerValue?_integerText bits.toInt).1 (fits_toInt bits)
    have found : type.value? (wordToken (signed width bits).text) = some (signed width bits) := by
      rw [DatumType.value?, base]
      simp only [ofToken?, text, kind, size, BitVec.ofInt_toInt]
    rw [reread, found]
    rfl
  | unsigned width bits =>
    obtain ⟨base, size⟩ := stored
    by_cases small : bits.toNat < 2 ^ 63
    · have range : TokenKind.Fits (bits.toNat : Int) := by
        rw [TokenKind.fits_iff]
        omega
      have kind : (wordToken (integerText bits.toNat)).kind.integerValue? =
          some (bits.toNat : Int) :=
        (TokenKind.integerValue?_integerText bits.toNat).1 range
      have found : type.value? (wordToken (unsigned width bits).text) =
          some (unsigned width bits) := by
        rw [DatumType.value?, base]
        simp only [ofToken?, text, kind, size, BitVec.ofInt_natCast, BitVec.ofNat_toNat,
          BitVec.setWidth_eq]
      rw [reread, found, if_pos ((isReadable_unsigned bits).mpr small)]
      rfl
    · have range : ¬ TokenKind.Fits (bits.toNat : Int) := by
        rw [TokenKind.fits_iff]
        omega
      have kind : (wordToken (integerText bits.toNat)).kind.integerValue? = none :=
        (TokenKind.integerValue?_integerText bits.toNat).2 range
      have found : type.value? (wordToken (unsigned width bits).text) = none := by
        rw [DatumType.value?, base]
        simp only [ofToken?, text, kind]
      rw [reread, found, if_neg (mt (isReadable_unsigned bits).mp small)]
      rfl

/-- Integer data reads back as itself if all values are readable, and is refused for the first one
that is not. -/
theorem BufferData.reread_of_integers (command : DataCommand) {data : BufferData}
    (writable : data.Writable) (integer : data.datumType.base ≠ .float) :
    data.reread command = match data.values.find? fun value => !value.isReadable with
      | none => .ok data
      | some value => .error (.invalidValue command value.text) := by
  have each : ∀ value ∈ data.values, value.reread command data.datumType =
      if value.isReadable then .ok value else .error (.invalidValue command value.text) :=
    fun value listed => value.reread_of_stores command (writable.typed value listed) integer
  rw [reread, mapM_eq_of_check each]
  cases data.values.find? fun value => !value.isReadable <;> rfl

namespace Test

/-- The text of a command with integer data that is accepted reads back as that command alone if
every value is readable, and is refused for the first value that is not. -/
theorem parse_text_of_integers {text : String} {firstLine : Nat} {test : Test} {command : Command}
    (accepted : parse text firstLine = .ok test) (listed : command ∈ test.commands)
    {kind : DataCommand} {data : BufferData}
    (found : command.operation.data? = some (kind, data)) (integer : data.datumType.base ≠ .float) :
    ((∀ value ∈ data.values, value.isReadable = true) →
      parse command.operation.text 1 = .ok ⟨[⟨1, command.operation⟩], Pipeline.default⟩) ∧
    ∀ value, data.values.find? (fun value => !value.isReadable) = some value →
      parse command.operation.text 1 = .error ⟨1, .invalidValue kind value.text⟩ := by
  have writable := writable_of_mem_commands accepted listed
  have again := data.reread_of_integers kind (writable.data found) integer
  obtain ⟨make, same, read⟩ := Operation.exists_reread_of_data? found
  rw [parse_text writable, read]
  constructor
  · intro readable
    have none : data.values.find? (fun value => !value.isReadable) = none := by
      rw [List.find?_eq_none]
      intro value listed
      simp [readable value listed]
    rw [again, none, ← same]
    rfl
  · intro value first
    rw [again, first]
    rfl

/-- The extremes of the signed words of 64 bits. -/
def signedExtremes : BufferData where
  datumType := ⟨"i64vec2", .signed, 64, 1, 2⟩
  offset := 8
  values := [.signed .w64 (BitVec.intMin 64), .signed .w64 (BitVec.intMax 64)]

/-- The extremes of the unsigned words of 64 bits. -/
def unsignedExtremes : BufferData where
  datumType := ⟨"u64vec2", .unsigned, 64, 1, 2⟩
  offset := 0
  values := [.unsigned .w64 0, .unsigned .w64 (BitVec.allOnes 64)]

/-- A body with the extremes of both kinds of words. -/
def extremeWords : String :=
  "uniform i64vec2 8 0x8000000000000000 9223372036854775807\n" ++
    "ssbo 1:2 subdata u64vec2 0 0 -1\n"

/-- The signed words of the body read back, and the greatest unsigned one is refused. -/
theorem parse_text_of_extremeWords :
    let signed : Operation := .buffer (.pushConstants signedExtremes)
    let unsigned : Operation := .buffer (.storage ⟨1, 2⟩ unsignedExtremes)
    parse extremeWords 1 = .ok ⟨[⟨1, signed⟩, ⟨2, unsigned⟩], Pipeline.default⟩ ∧
      parse signed.text 1 = .ok ⟨[⟨1, signed⟩], Pipeline.default⟩ ∧
      parse unsigned.text 1 = .error ⟨1, .invalidValue .storage "18446744073709551615"⟩ := by
  intro signed unsigned
  have whole : (read extremeWords 1).failure = none ∧
      (read extremeWords 1).commands = [⟨1, signed⟩, ⟨2, unsigned⟩] ∧
      (read extremeWords 1).pipeline = Pipeline.default := by
    decide +kernel
  obtain ⟨clean, commands, state⟩ := whole
  have accepted : parse extremeWords 1 =
      .ok ⟨[⟨1, signed⟩, ⟨2, unsigned⟩], Pipeline.default⟩ := by
    rw [parse_eq_ok_iff]
    exact ⟨clean, by rw [commands, state]⟩
  refine ⟨accepted, ?_, ?_⟩
  · have readable : ∀ value ∈ signedExtremes.values, value.isReadable = true := by decide
    exact (parse_text_of_integers accepted (by simp : (⟨1, signed⟩ : Command) ∈ _)
      (rfl : signed.data? = some (.uniform, signedExtremes)) (by decide)).1 readable
  · have first : unsignedExtremes.values.find? (fun value => !value.isReadable) =
        some (.unsigned .w64 (BitVec.allOnes 64)) := by decide
    have refused := (parse_text_of_integers accepted (by simp : (⟨2, unsigned⟩ : Command) ∈ _)
      (rfl : unsigned.data? = some (.storage, unsignedExtremes)) (by decide)).2 _ first
    have text : (Value.unsigned .w64 (BitVec.allOnes 64)).text = "18446744073709551615" := by
      decide +kernel
    rw [text] at refused
    exact refused

end Test

end GpuScript
