import GpuScript.Node
import GpuScript.Proofs.Checked.Result
import GpuScript.Proofs.Checked.Table
import GpuScript.Proofs.Checked.Token

/-!
# Commands at indices

A command looks up its property, its topology or its type in a table, takes the coordinates and the
colour of a probe from slots, and divides the number of its values by the number of components of
their type. A type that is found by a name has a component, so the divisor is not zero
(`values?_eq`), and a test section is read without anything that is none (`readTest?_eq`).
-/

namespace GpuScript.Checked

open Command Test

/-- The remainder of a number; nothing if the divisor is zero. -/
def remainder? (value divisor : Nat) : Option Nat :=
  if divisor = 0 then none else some (value % divisor)

/-- The rest of the line as values of a type. -/
def values? (command : DataCommand) (type : DatumType) (tokens : List Token) :
    Reading Command.Error (List Value) := do
  let values ← given (componentValues command type tokens)
  if values.isEmpty then
    given (.error (.incorrectValueCount command))
  else
    let left ← ask (remainder? values.length type.elementCount)
    if left ≠ 0 then given (.error (.incorrectValueCount command)) else given (.ok values)

/-- A type of buffer data. -/
def datumType? (command : DataCommand) : List Token → Reading Command.Error (DatumType × List Token)
  | [] => given (.error (.missingType command))
  | token :: rest =>
    match token.word? with
    | none => given (.error (.unknownType token.text))
    | some name => do
      let found ← ask (typeOfName? name)
      match found with
      | some type => given (.ok (type, rest))
      | none => given (.error (.unknownType name))

/-- A type, an offset and values. -/
def bufferData? (command : DataCommand) (cause : Command.Error) (tokens : List Token) :
    Reading Command.Error BufferData := do
  let (type, tokens) ← datumType? command tokens
  let (offset, tokens) ← given (word cause tokens)
  let values ← values? command type tokens
  given (.ok ⟨type, offset, values⟩)

/-- What a storage buffer command does with its buffer. -/
def storageUpdate? (binding : Binding) : List Token → Reading Command.Error BufferUpdate
  | [] => given (storageUpdate binding [])
  | token :: rest =>
    if token.kind.toDouble?.isSome then
      given (storageUpdate binding (token :: rest))
    else if token.isWord "subdata" then do
      let data ← bufferData? .storage .invalidStorageOffset rest
      given (.ok (.storage binding data))
    else
      given (.error .invalidStorageOperand)

/-- `ssbo`, a binding and what is done with the buffer. -/
def storage? : List Token → Reading Command.Error Operation
  | [] => given (.error .missingStorageOperands)
  | tokens => do
    let (binding, tokens) ← given (binding .storage tokens)
    let update ← storageUpdate? binding tokens
    given (.ok (.buffer update))

/-- `uniform` and values, for the push constants or for the buffer named after `ubo`. -/
def uniform? (tokens : List Token) : Reading Command.Error Operation :=
  match Command.optionalWord "ubo" tokens with
  | (true, tokens) => do
    let (binding, tokens) ← given (binding .uniform tokens)
    let data ← bufferData? .uniform .invalidUniformOffset tokens
    given (.ok (.buffer (.uniform binding data)))
  | (false, tokens) => do
    let data ← bufferData? .uniform .invalidUniformOffset tokens
    given (.ok (.buffer (.pushConstants data)))

/-- A topology by one of the names that draws use. -/
def drawTopology? : List Token → Reading Command.Error (Topology × List Token)
  | [] => given (.error .missingTopology)
  | token :: rest =>
    match token.word? with
    | none => given (.error .missingTopology)
    | some name => do
      let found ← ask (lookUp? Topology.drawTable name)
      match found with
      | some entry => given (.ok (entry.2, rest))
      | none => given (.error (.unknownTopology name))

/-- `draw arrays`, the two optional words, a topology and the counts. -/
def drawArrays? (pipeline : Pipeline) (tokens : List Token) : Reading Command.Error Operation := do
  let (indexed, tokens) := Command.optionalWord "indexed" tokens
  let (instanced, tokens) := Command.optionalWord "instanced" tokens
  let (topology, tokens) ← drawTopology? tokens
  let (firstVertex, tokens) ← given (word .invalidFirstVertex tokens)
  let (vertexCount, tokens) ← given (word .invalidVertexCount tokens)
  let (instances, tokens) ← given (instanceCount instanced tokens)
  let () ← given (finish (.extraOperand .drawArrays) tokens)
  given (.ok (.drawArrays indexed instances topology firstVertex vertexCount pipeline))

/-- `draw` and what is drawn. -/
def draw? (pipeline : Pipeline) : List Token → Reading Command.Error Operation
  | [] => given (.error .invalidDraw)
  | token :: rest =>
    match token.word? with
    | some "rect" => given (drawRect pipeline rest)
    | some "arrays" => drawArrays? pipeline rest
    | _ => given (.error .invalidDraw)

/-- The number of coordinates of a probe, and of components of its colour. -/
def probeSlots : Nat := 4

/-- The coordinates of a probe, put in their slots: a pixel fills the first two. -/
def probeRegion? (extent : Extent) (tokens : List Token) :
    Reading Command.Error (Region × List Token) :=
  match extent with
  | .pixel => do
    let () ← ask (slots? probeSlots 0 2)
    given (probeRegion .pixel tokens)
  | extent => given (probeRegion extent tokens)

/-- The colour of a probe, put in its slots. -/
def probeColor? (withAlpha : Bool) (tokens : List Token) :
    Reading Command.Error (ProbeColor × List Token) := do
  let () ← ask (slots? probeSlots 0 (if withAlpha then 4 else 3))
  given (probeColor withAlpha tokens)

/-- A probe of the framebuffer, after `probe`. -/
def probeFramebuffer? (relative : Bool) (tokens : List Token) :
    Reading Command.Error Operation := do
  let (extent, format, tokens) ← given (probeExtent tokens)
  let withAlpha ← given (probeFormat format)
  let (region, tokens) ← probeRegion? extent tokens
  let (color, tokens) ← probeColor? withAlpha tokens
  let () ← given (finish (.extraOperand .probe) tokens)
  given (.ok (.probe ⟨relative, region, color⟩))

/-- A probe of a storage buffer, after `probe ssbo`. -/
def probeBuffer? (tokens : List Token) : Reading Command.Error Operation := do
  let (type, tokens) ← datumType? .probeBuffer tokens
  let (binding, tokens) ← given (binding .probeBuffer tokens)
  let (offset, tokens) ← given (probeOffset tokens)
  let (comparator, tokens) ← given (comparator tokens)
  let values ← values? .probeBuffer type tokens
  given (.ok (.probeBuffer ⟨binding, comparator, ⟨type, offset, values⟩⟩))

/-- `probe` and what is probed. -/
def probe? (tokens : List Token) : Reading Command.Error Operation :=
  match Command.optionalWord "ssbo" tokens with
  | (true, tokens) => probeBuffer? tokens
  | (false, tokens) => probeFramebuffer? false tokens

/-- `relative probe` and the framebuffer probe that is relative. -/
def relative? (tokens : List Token) : Reading Command.Error Operation :=
  match Command.optionalWord "probe" tokens with
  | (true, tokens) => probeFramebuffer? true tokens
  | (false, _) => given (.error .relativeWithoutProbe)

/-- The operation of the command with a name. -/
def readOperation? (pipeline : Pipeline) (name : String) (tokens : List Token) :
    Reading Command.Error Operation :=
  match name with
  | "draw" => draw? pipeline tokens
  | "probe" => probe? tokens
  | "relative" => relative? tokens
  | "ssbo" => storage? tokens
  | "uniform" => uniform? tokens
  | name => given (readOperation pipeline name tokens)

/-- Reads a line of a test section. -/
def readLine? (pipeline : Pipeline) (line : TokenLine) : Option LineResult :=
  match line.first.word? with
  | none => some ⟨pipeline, .error .nameNotWord⟩
  | some name => do
    let found ← lookUp? Property.table name
    match found with
    | some property => some (readProperty pipeline property line.rest)
    | none => do
      let operation ← (readOperation? pipeline name line.rest).run
      some ⟨pipeline, operation.map some⟩

/-- The record about a command, which shows the colour of a probe from its slots. -/
def commandRecord? (command : Command) : Option LogRecord := do
  let () ← match command.operation with
    | .probe ⟨_, _, .rgb _ _ _⟩ => slots? probeSlots 0 3
    | .probe ⟨_, _, .rgba _ _ _ _⟩ => slots? probeSlots 0 4
    | _ => some ()
  some (Node.commandRecord command)

/-- Reads lines from a pipeline state on, with a record about each command. -/
def readTestLines? (pipeline : Pipeline) : List TokenLine → Option (TestReading × List LogRecord)
  | [] => some (⟨[], pipeline, none⟩, [])
  | line :: rest => do
    let result ← readLine? pipeline line
    match result.operation with
    | .error cause => some (⟨[], result.pipeline, some ⟨line.line, cause⟩⟩, [])
    | .ok none => readTestLines? result.pipeline rest
    | .ok (some operation) => do
      let record ← commandRecord? ⟨line.line, operation⟩
      let (reading, records) ← readTestLines? result.pipeline rest
      some ({ reading with commands := ⟨line.line, operation⟩ :: reading.commands },
        record :: records)

/-- Reads the body of a test section whose first line has the given number. -/
def readTest? (text : String) (firstLine : Nat) : Option (TestReading × List LogRecord) := do
  let lines ← tokenLines? text firstLine
  readTestLines? Pipeline.default lines

/-- The divisor is not zero for a type that has a component. -/
theorem values?_eq (command : DataCommand) {type : DatumType} (filled : 1 ≤ type.elementCount)
    (tokens : List Token) :
    values? command type tokens = given (values command type tokens) := by
  have positive : type.elementCount ≠ 0 := by omega
  rw [values?, Command.values]
  cases componentValues command type tokens with
  | error cause => rfl
  | ok values =>
    rw [given_ok_bind, remainder?, if_neg positive, ask_some, given_ok_bind]
    by_cases empty : values.isEmpty = true
    · rw [if_pos empty]
      dsimp only
      rw [if_pos (Or.inl empty)]
    · rw [if_neg empty]
      dsimp only
      by_cases whole : values.length % type.elementCount = 0
      · rw [if_neg (not_not_intro whole), if_neg (by simp [empty, whole])]
      · rw [if_pos whole, if_pos (Or.inr whole)]

/-- A type is found without an index that is none. -/
theorem datumType?_eq (command : DataCommand) (tokens : List Token) :
    datumType? command tokens = given (datumType command tokens) := by
  cases tokens with
  | nil => rfl
  | cons token rest =>
    rw [datumType?, datumType]
    cases token.word? with
    | none => rfl
    | some name =>
      dsimp only
      rw [typeOfName?_eq, ask_some, given_ok_bind]
      cases DatumType.ofName? name <;> rfl

/-- A type that is read has a component. -/
theorem elementCount_of_datumType {command : DataCommand} {tokens rest : List Token}
    {type : DatumType} (found : datumType command tokens = .ok (type, rest)) :
    1 ≤ type.elementCount := by
  cases tokens with
  | nil => cases found
  | cons token others =>
    rw [datumType] at found
    split at found
    · cases found
    · split at found
      · rename_i own
        obtain ⟨rfl, -⟩ := Prod.mk.inj (Except.ok.inj found)
        exact DatumType.elementCount_of_ofName? own
      · cases found

/-- Values with their type and offset are read without anything that is none. -/
theorem bufferData?_eq (command : DataCommand) (cause : Command.Error) (tokens : List Token) :
    bufferData? command cause tokens = given (bufferData command cause tokens) := by
  rw [bufferData?, datumType?_eq, bufferData]
  refine given_bind _ ?_
  rintro ⟨type, tokens⟩ found
  refine given_bind _ ?_
  rintro ⟨offset, tokens⟩ -
  dsimp only
  rw [values?_eq command (elementCount_of_datumType found)]
  exact given_bind _ fun values _ => rfl

/-- What is done with a storage buffer is read without anything that is none. -/
theorem storageUpdate?_eq (binding : Binding) (tokens : List Token) :
    storageUpdate? binding tokens = given (storageUpdate binding tokens) := by
  cases tokens with
  | nil => rfl
  | cons token rest =>
    rw [storageUpdate?, bufferData?_eq, given_bind_ok]
    by_cases number : token.kind.toDouble?.isSome = true
    · rw [if_pos number]
    · rw [if_neg number, storageUpdate, if_neg number]
      split <;> rfl

/-- A storage buffer command is read without anything that is none. -/
theorem storage?_eq (tokens : List Token) : storage? tokens = given (storage tokens) := by
  cases tokens with
  | nil => rfl
  | cons token rest =>
    refine given_bind _ ?_
    rintro ⟨binding, tokens⟩ -
    dsimp only
    rw [storageUpdate?_eq]
    exact given_bind _ fun update _ => rfl

/-- A uniform command is read without anything that is none. -/
theorem uniform?_eq (tokens : List Token) : uniform? tokens = given (uniform tokens) := by
  rw [uniform?, uniform]
  rcases Command.optionalWord "ubo" tokens with ⟨_ | _, tokens⟩
  · dsimp only
    rw [bufferData?_eq]
    exact given_bind _ fun data _ => rfl
  · refine given_bind _ ?_
    rintro ⟨binding, tokens⟩ -
    dsimp only
    rw [bufferData?_eq]
    exact given_bind _ fun data _ => rfl

/-- A topology is found without an index that is none. -/
theorem drawTopology?_eq (tokens : List Token) :
    drawTopology? tokens = given (drawTopology tokens) := by
  cases tokens with
  | nil => rfl
  | cons token rest =>
    rw [drawTopology?, drawTopology]
    cases token.word? with
    | none => rfl
    | some name =>
      dsimp only
      rw [lookUp?_eq, ask_some, given_ok_bind, Topology.ofDrawName?]
      cases Topology.drawTable.find? name <;> rfl

/-- A draw of arrays is read without anything that is none. -/
theorem drawArrays?_eq (pipeline : Pipeline) (tokens : List Token) :
    drawArrays? pipeline tokens = given (drawArrays pipeline tokens) := by
  rw [drawArrays?, drawArrays]
  dsimp only
  rw [drawTopology?_eq]
  refine given_bind _ ?_
  rintro ⟨topology, tokens⟩ -
  refine given_bind _ ?_
  rintro ⟨firstVertex, tokens⟩ -
  refine given_bind _ ?_
  rintro ⟨vertexCount, tokens⟩ -
  refine given_bind _ ?_
  rintro ⟨instances, tokens⟩ -
  exact given_bind _ fun _ _ => rfl

/-- A draw is read without anything that is none. -/
theorem draw?_eq (pipeline : Pipeline) (tokens : List Token) :
    draw? pipeline tokens = given (draw pipeline tokens) := by
  cases tokens with
  | nil => rfl
  | cons token rest =>
    rw [draw?, draw, drawArrays?_eq]
    by_cases rect : token.word? = some "rect"
    · simp only [rect]
    · by_cases arrays : token.word? = some "arrays"
      · simp only [arrays]
      · split <;> simp_all

/-- The coordinates of a pixel are the first two of four slots. -/
theorem probeRegion?_eq (extent : Extent) (tokens : List Token) :
    probeRegion? extent tokens = given (probeRegion extent tokens) := by
  cases extent <;> rfl

/-- The components of a colour are the first three or all of four slots. -/
theorem probeColor?_eq (withAlpha : Bool) (tokens : List Token) :
    probeColor? withAlpha tokens = given (probeColor withAlpha tokens) := by
  cases withAlpha <;> rfl

/-- A probe of the framebuffer is read without anything that is none. -/
theorem probeFramebuffer?_eq (relative : Bool) (tokens : List Token) :
    probeFramebuffer? relative tokens = given (probeFramebuffer relative tokens) := by
  rw [probeFramebuffer?, probeFramebuffer]
  refine given_bind _ ?_
  rintro ⟨extent, format, tokens⟩ -
  refine given_bind _ fun withAlpha _ => ?_
  rw [probeRegion?_eq]
  refine given_bind _ ?_
  rintro ⟨region, tokens⟩ -
  dsimp only
  rw [probeColor?_eq]
  refine given_bind _ ?_
  rintro ⟨color, tokens⟩ -
  exact given_bind _ fun _ _ => rfl

/-- A probe of a storage buffer is read without anything that is none. -/
theorem probeBuffer?_eq (tokens : List Token) :
    probeBuffer? tokens = given (probeBuffer tokens) := by
  rw [probeBuffer?, datumType?_eq, probeBuffer]
  refine given_bind _ ?_
  rintro ⟨type, tokens⟩ found
  refine given_bind _ ?_
  rintro ⟨binding, tokens⟩ -
  refine given_bind _ ?_
  rintro ⟨offset, tokens⟩ -
  refine given_bind _ ?_
  rintro ⟨comparator, tokens⟩ -
  dsimp only
  rw [values?_eq .probeBuffer (elementCount_of_datumType found)]
  exact given_bind _ fun values _ => rfl

/-- A probe is read without anything that is none. -/
theorem probe?_eq (tokens : List Token) : probe? tokens = given (probe tokens) := by
  rw [probe?, probe]
  rcases Command.optionalWord "ssbo" tokens with ⟨_ | _, tokens⟩
  · exact probeFramebuffer?_eq false tokens
  · exact probeBuffer?_eq tokens

/-- A relative probe is read without anything that is none. -/
theorem relative?_eq (tokens : List Token) : relative? tokens = given (relative tokens) := by
  rw [relative?, relative]
  rcases Command.optionalWord "probe" tokens with ⟨_ | _, tokens⟩
  · rfl
  · exact probeFramebuffer?_eq true tokens

/-- The operation of a command is read without anything that is none. -/
theorem readOperation?_eq (pipeline : Pipeline) (name : String) (tokens : List Token) :
    readOperation? pipeline name tokens = given (readOperation pipeline name tokens) := by
  unfold readOperation?
  split
  · exact draw?_eq pipeline tokens
  · exact probe?_eq tokens
  · exact relative?_eq tokens
  · exact storage?_eq tokens
  · exact uniform?_eq tokens
  · rfl

/-- A line of a test section is read without anything that is none. -/
theorem readLine?_eq (pipeline : Pipeline) (line : TokenLine) :
    readLine? pipeline line = some (readLine pipeline line) := by
  rw [readLine?, readLine]
  cases line.first.word? with
  | none => rfl
  | some name =>
    dsimp only
    rw [lookUp?_eq, readOperation?_eq, Property.ofName?]
    cases Property.table.find? name <;> rfl

/-- A command is shown without a slot that is none. -/
theorem commandRecord?_eq (command : Command) :
    commandRecord? command = some (Node.commandRecord command) := by
  rw [commandRecord?]
  split <;> rfl

/-- Lines of a test section are read, and their commands shown, without anything that is none. -/
theorem readTestLines?_eq (pipeline : Pipeline) (lines : List TokenLine) :
    readTestLines? pipeline lines =
      some (readLines pipeline lines,
        (readLines pipeline lines).commands.map Node.commandRecord) := by
  induction lines generalizing pipeline with
  | nil => rfl
  | cons line rest ih =>
    rw [readTestLines?, readLine?_eq, readLines]
    dsimp only [Option.bind_eq_bind, Option.bind_some]
    rcases (readLine pipeline line).operation with cause | _ | operation
    · rfl
    · exact ih _
    · dsimp only
      rw [commandRecord?_eq, ih]
      rfl

/-- The body of a test section is read without anything that is none. -/
theorem readTest?_eq (text : String) (firstLine : Nat) :
    readTest? text firstLine =
      some (read text firstLine, (read text firstLine).commands.map Node.commandRecord) := by
  rw [readTest?, tokenLines?_eq]
  exact readTestLines?_eq Pipeline.default (TokenLine.ofText text firstLine)

end GpuScript.Checked
