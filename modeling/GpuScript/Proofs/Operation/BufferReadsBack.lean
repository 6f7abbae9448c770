import GpuScript.Proofs.Operation.ReadsBack
import GpuScript.Proofs.Operation.Writable

/-!
# Buffer data read back

The type of buffer data is found by the name that is written, and the values are read one by one as
components of that type. Data that can be written is therefore read as what its values read back as,
in the commands that change a buffer and in the probe of a storage buffer.
-/

namespace GpuScript

open Command

namespace Command

/-- The tokens of values. -/
def valueTokens (values : List Value) : List Token :=
  (values.map Value.text).map wordToken

/-- A type reads back. -/
theorem datumType_wordToken {type : DatumType} (command : DataCommand) (name : IsName type.name)
    (found : DatumType.ofName? type.name = some type) (rest : List Token) :
    datumType command (wordToken type.name :: rest) = .ok (type, rest) := by
  simp only [datumType, name.word?, found]

/-- Components read back one by one. -/
theorem componentValues_valueTokens (command : DataCommand) (type : DatumType)
    (values : List Value) :
    componentValues command type (valueTokens values) =
      values.mapM (Value.reread command type) := by
  induction values with
  | nil => rfl
  | cons value values ih =>
    change componentValues command type (wordToken value.text :: valueTokens values) = _
    rw [componentValues, List.mapM_cons, ih, Value.reread]
    cases type.value? (wordToken value.text) with
    | none => rfl
    | some again => cases values.mapM (Value.reread command type) <;> rfl

/-- The values of data that can be written read back one by one. -/
theorem values_valueTokens (command : DataCommand) {data : BufferData}
    (writable : data.Writable) :
    values command data.datumType (valueTokens data.values) =
      data.values.mapM (Value.reread command data.datumType) := by
  rw [values, componentValues_valueTokens]
  cases read : data.values.mapM (Value.reread command data.datumType) with
  | error cause => rfl
  | ok again =>
    have count := length_of_mapM_eq_ok read
    have some : again ≠ [] := by
      rw [← List.length_pos_iff, count, List.length_pos_iff]
      exact writable.nonempty
    refine if_neg ?_
    rw [List.isEmpty_iff, count, writable.whole]
    simp [some]

/-- Buffer data that can be written reads back. -/
theorem bufferData_words (command : DataCommand) (cause : Error) {data : BufferData}
    (writable : data.Writable) :
    bufferData command cause (data.words.map wordToken) = data.reread command := by
  change bufferData command cause (wordToken data.datumType.name ::
    wordToken (wordText data.offset) :: valueTokens data.values) = _
  rw [bufferData, datumType_wordToken command writable.name writable.found, ok_bind]
  simp only [word_wordToken, values_valueTokens command writable, ok_bind, BufferData.reread]
  cases data.values.mapM (Value.reread command data.datumType) <;> rfl

/-- `ssbo` with a size reads back. -/
theorem reread_storageSize (place : Binding) (size : UInt32) :
    readOperation Pipeline.default "ssbo" [wordToken place.text, wordToken (wordText size)] =
      (Operation.buffer (.storageSize place size)).reread := by
  simp only [readOperation, storage, binding_wordToken, ok_bind, storageUpdate]
  rw [if_pos]
  · simp only [word_wordToken, ok_bind, finish]
    rfl
  · exact isSome_toDouble?_ofWord_wordText size

/-- `ssbo` with values reads back. -/
theorem reread_storage (place : Binding) {data : BufferData} (writable : data.Writable) :
    readOperation Pipeline.default "ssbo"
      (wordToken place.text :: wordToken "subdata" :: data.words.map wordToken) =
        (Operation.buffer (.storage place data)).reread := by
  simp only [readOperation, storage, binding_wordToken, ok_bind, storageUpdate]
  rw [if_neg (by decide), if_pos (by decide),
    bufferData_words .storage .invalidStorageOffset writable]
  simp only [Operation.reread, BufferUpdate.reread]
  cases data.reread .storage <;> rfl

/-- `uniform ubo` reads back. -/
theorem reread_uniform (place : Binding) {data : BufferData} (writable : data.Writable) :
    readOperation Pipeline.default "uniform"
      (wordToken "ubo" :: wordToken place.text :: data.words.map wordToken) =
        (Operation.buffer (.uniform place data)).reread := by
  simp only [readOperation, uniform, optionalWord_of_isName (by decide : IsName "ubo"),
    binding_wordToken, bufferData_words .uniform .invalidUniformOffset writable, ok_bind,
    Operation.reread, BufferUpdate.reread]
  cases data.reread .uniform <;> rfl

/-- No type is named like the word for a uniform buffer. -/
theorem name_ne_ubo {type : DatumType} (found : DatumType.ofName? type.name = some type) :
    type.name ≠ "ubo" := by
  intro same
  have none : DatumType.ofName? "ubo" = none := by decide +kernel
  rw [same, none] at found
  cases found

/-- `uniform` for the push constants reads back. -/
theorem reread_pushConstants {data : BufferData} (writable : data.Writable) :
    readOperation Pipeline.default "uniform" (data.words.map wordToken) =
      (Operation.buffer (.pushConstants data)).reread := by
  have absent : optionalWord "ubo" (data.words.map wordToken) =
      (false, data.words.map wordToken) :=
    optionalWord_of_ne writable.name (name_ne_ubo writable.found) _
  change uniform (data.words.map wordToken) = _
  rw [uniform, absent]
  simp only [bufferData_words .uniform .invalidUniformOffset writable, Operation.reread,
    BufferUpdate.reread]
  cases data.reread .uniform <;> rfl

/-- The symbol of a comparator is a word. -/
theorem isName_symbol (comparator : Comparator) : IsName comparator.symbol := by
  cases comparator <;> decide

/-- The comparator with the symbol of a comparator is that comparator. -/
theorem ofSymbol?_symbol (comparator : Comparator) :
    Comparator.ofSymbol? comparator.symbol = some comparator := by
  cases comparator <;> decide

/-- A comparator reads back. -/
theorem comparator_wordToken (value : Comparator) (rest : List Token) :
    comparator (wordToken value.symbol :: rest) = .ok (value, rest) := by
  simp only [comparator, (isName_symbol value).word?, Option.bind_some, ofSymbol?_symbol]

/-- The offset of a probe reads back. -/
theorem probeOffset_wordToken (offset : UInt32) (rest : List Token) :
    probeOffset (wordToken (wordText offset) :: rest) = .ok (offset, rest) := by
  simp only [probeOffset, word_wordToken]
  exact if_pos (isSome_toDouble?_ofWord_wordText offset)

/-- `probe ssbo` reads back. -/
theorem reread_probeBuffer {probe : BufferProbe} (writable : probe.data.Writable) :
    readOperation Pipeline.default "probe" (wordToken "ssbo" ::
      wordToken probe.data.datumType.name :: wordToken probe.binding.text ::
        wordToken (wordText probe.data.offset) :: wordToken probe.comparator.symbol ::
          valueTokens probe.data.values) = (Operation.probeBuffer probe).reread := by
  simp only [readOperation, Command.probe, optionalWord_of_isName (by decide : IsName "ssbo"),
    probeBuffer, datumType_wordToken .probeBuffer writable.name writable.found, binding_wordToken,
    probeOffset_wordToken, comparator_wordToken, values_valueTokens .probeBuffer writable, ok_bind,
    Operation.reread, BufferData.reread]
  cases probe.data.values.mapM (Value.reread .probeBuffer probe.data.datumType) <;> rfl

end Command

end GpuScript
