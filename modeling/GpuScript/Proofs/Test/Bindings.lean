import GpuScript.Proofs.Operation.Operands
import GpuScript.Proofs.Result
import GpuScript.Proofs.Token.Unsigned
import GpuScript.Test

/-!
# Bindings with a descriptor set and without one

A binding alone is one of the first descriptor set, and a set can be named in front of it, with a
colon between the two. Both are read from one token, and all that its line does with the token is to
take the binding from it (`Test.exists_takesBinding`).

The number alone is any integer of a token. Behind a colon it is an unsigned decimal literal: what
can be written alone in hexadecimal, or as zero with a minus sign, cannot be written with a set
(`Test.readLine_of_set`).
-/

namespace GpuScript

open Text Command

/-- The token of a word on a line. -/
def Token.ofWord (word : String) (line : Nat) : Token :=
  ⟨.ofWord word.toList, word, line⟩

/-- A number is not written with a colon. -/
theorem TokenKind.ofWord_of_mem_colon {word : List Char} (colon : ':' ∈ word) :
    ofWord word = .word := by
  have decimal : ¬ IsDecimalLiteral word := by
    intro literal
    exact absurd (literal.characters ':' colon) (by decide)
  rcases ofWord_of_not_isDecimalLiteral decimal with kind | ⟨value, kind⟩
  · exact kind
  · obtain ⟨mark, digits, marks, rfl, denotes⟩ := ofWord_eq_hex_iff.mp kind
    have inner : ':' ∈ digits := by
      rcases marks with rfl | rfl <;> simpa using colon
    obtain ⟨digit, own⟩ := denotes.exists_isDigitOf inner
    exact absurd rfl own.ne_mark.2

/-- The binding in another descriptor set. -/
def Binding.withSet (set : UInt32) (binding : Binding) : Binding :=
  { binding with set := set }

namespace BufferUpdate

/-- The binding of the buffer that is changed; push constants have none. -/
def binding? : BufferUpdate → Option Binding
  | storageSize binding _ | storage binding _ | uniform binding _ => some binding
  | pushConstants _ => none

/-- The change for a buffer in another descriptor set. -/
def withSet (set : UInt32) : BufferUpdate → BufferUpdate
  | storageSize binding size => storageSize (binding.withSet set) size
  | storage binding data => storage (binding.withSet set) data
  | uniform binding data => uniform (binding.withSet set) data
  | pushConstants data => pushConstants data

end BufferUpdate

namespace Operation

/-- The binding of the buffer that an operation is about. -/
def binding? : Operation → Option Binding
  | probeBuffer look => some look.binding
  | buffer update => update.binding?
  | _ => none

/-- The operation for a buffer in another descriptor set. -/
def withSet (set : UInt32) : Operation → Operation
  | probeBuffer look => probeBuffer { look with binding := look.binding.withSet set }
  | buffer update => buffer (update.withSet set)
  | other => other

/-- An operation stays as it is in its own descriptor set. -/
theorem withSet_of_binding? {operation : Operation} {binding : Binding}
    (own : operation.binding? = some binding) : operation.withSet binding.set = operation := by
  cases operation with
  | buffer update =>
    cases update with
    | pushConstants => cases own
    | _ =>
      obtain rfl := Option.some.inj own
      rfl
  | probeBuffer look =>
    obtain rfl := Option.some.inj own
    rfl
  | _ => cases own

end Operation

namespace Command

variable {set word : String} {number : UInt32}

/-- A number with a set and a colon in front of it is one word. -/
theorem isWord_of_set {index : Nat}
    (plain : IsHexLiteral word.toList index ∨ IsIntegerLiteral word.toList index)
    (decimal : IsUnsignedLiteral 10 set.toList number.toNat) : IsWord (set ++ ":" ++ word) := by
  have clean : IsWord word := plain.elim IsHexLiteral.isWord IsIntegerLiteral.isWord
  refine clean.append ?_
  rw [String.toList_append]
  exact List.forall_mem_append.mpr ⟨decimal.isWord.plain, isPlain_iff.mp (by decide)⟩

/-- A word with a set and a colon in front of a number is read as a binding if the number is an
unsigned decimal literal. -/
theorem bindingOf?_of_set (decimal : IsUnsignedLiteral 10 set.toList number.toNat) (line : Nat) :
    bindingOf? (.ofWord (set ++ ":" ++ word) line) =
      (word32? word.toList).map fun index => ⟨number, index⟩ := by
  have text : (Token.ofWord (set ++ ":" ++ word) line).text.toList =
      set.toList ++ ':' :: word.toList := by
    simp [Token.ofWord]
  have kind : (Token.ofWord (set ++ ":" ++ word) line).kind = .word := by
    refine TokenKind.ofWord_of_mem_colon ?_
    rw [show (set ++ ":" ++ word).toList = set.toList ++ ':' :: word.toList from text]
    exact List.mem_append_right _ List.mem_cons_self
  have plain : ∀ character ∈ set.toList, decide (character ≠ ':') = true :=
    fun character listed => decide_eq_true (decimal.ne_colon listed)
  rw [bindingOf?, kind]
  simp only [text]
  rw [List.dropWhile_append_of_pos plain, List.takeWhile_append_of_pos plain]
  simp only [ne_eq, not_true_eq_false, decide_false, List.dropWhile_cons_of_neg,
    List.takeWhile_cons_of_neg, List.append_nil, Bool.false_eq_true, not_false_eq_true,
    word32?_eq_some_iff.mpr decimal]
  cases word32? word.toList <;> rfl

/-- A number alone is read as a binding of the first descriptor set. -/
theorem bindingOf?_of_literal {index : UInt32}
    (plain : IsHexLiteral word.toList index.toNat ∨ IsIntegerLiteral word.toList index.toNat)
    (line : Nat) : bindingOf? (.ofWord word line) = some ⟨0, index⟩ := by
  have read := TokenKind.word32?_ofWord_eq_some_iff.mpr plain
  rw [bindingOf?, Token.ofWord]
  split
  · rename_i kind
    simp only at kind
    rw [kind] at read
    cases read
  · rw [read]
    rfl

/-- A change of a storage buffer has the given binding. -/
theorem binding?_of_storageUpdate {place : Binding} {tokens : List Token} {update : BufferUpdate}
    (accepted : storageUpdate place tokens = .ok update) : update.binding? = some place := by
  unfold storageUpdate at accepted
  split at accepted
  · cases accepted
  · split at accepted
    · obtain ⟨_, -, accepted⟩ := bind_eq_ok.mp accepted
      obtain ⟨_, -, ⟨⟩⟩ := bind_eq_ok.mp accepted
      rfl
    · split at accepted
      · obtain ⟨_, -, rfl⟩ := map_eq_ok.mp accepted
        rfl
      · cases accepted

/-- The descriptor set has no effect on how a change of a storage buffer is read. -/
theorem storageUpdate_withSet (set : UInt32) (place : Binding) (tokens : List Token) :
    storageUpdate (place.withSet set) tokens =
      (storageUpdate place tokens).map (BufferUpdate.withSet set) := by
  unfold storageUpdate
  split
  · rfl
  · rename_i token rest
    split
    · cases word .invalidStorageSize (token :: rest) with
      | error cause => rfl
      | ok read =>
        obtain ⟨size, rest⟩ := read
        cases rest <;> rfl
    · split
      · cases bufferData .storage .invalidStorageOffset rest <;> rfl
      · rfl

/-- A line is read from the binding of one of its tokens: what `onward` gives for it. The descriptor
set comes back in the operation and has no other effect, and only the token can be blamed if nothing
is accepted without a binding. -/
structure TakesBinding (command : BindingCommand) (read : Token → Except Error Operation)
    (onward : Option Binding → Except Error Operation) : Prop where
  /-- The token is looked at for its binding only. -/
  read_eq : ∀ token, read token = onward (bindingOf? token)
  /-- Another descriptor set changes that of the operation. -/
  onward_withSet : ∀ set place,
    onward (some (place.withSet set)) = (onward (some place)).map (Operation.withSet set)
  /-- The operation has the binding. -/
  binding?_eq : ∀ {place operation}, onward (some place) = .ok operation →
    operation.binding? = some place
  /-- Where some binding is accepted, the lack of one is refused. -/
  onward_none : ∀ {place operation}, onward (some place) = .ok operation →
    onward none = .error (.invalidBinding command)

variable {command : BindingCommand} {rest : List Token}

/-- A line that goes on behind a binding takes it from its token, if the binding does nothing but
come back in the operation. -/
theorem exists_takesBinding_of_bind {read : Token → Except Error Operation}
    {onward : Binding × List Token → Except Error Operation}
    (read_eq : ∀ token, read token = Except.bind (binding command (token :: rest)) onward)
    (withSet : ∀ set place,
      onward (place.withSet set, rest) = (onward (place, rest)).map (Operation.withSet set))
    (own : ∀ {place operation}, onward (place, rest) = .ok operation →
      operation.binding? = some place) : ∃ onward, TakesBinding command read onward := by
  refine ⟨fun place? => place?.elim (.error (.invalidBinding command)) fun place =>
    onward (place, rest), ⟨fun token => ?_, withSet, own, fun _ => rfl⟩⟩
  rw [read_eq, binding]
  cases bindingOf? token <;> rfl

/-- A storage buffer command takes its binding from its first operand. -/
theorem exists_takesBinding_storage (rest : List Token) :
    ∃ onward, TakesBinding .storage (fun token => storage (token :: rest)) onward := by
  refine exists_takesBinding_of_bind (fun token => storage.eq_2 (token :: rest) (by simp)) ?_ ?_
  · intro set place
    dsimp only
    rw [storageUpdate_withSet]
    cases storageUpdate place rest <;> rfl
  · intro place operation accepted
    obtain ⟨update, read, ⟨⟩⟩ := bind_eq_ok.mp accepted
    exact binding?_of_storageUpdate read

/-- A uniform buffer command takes its binding from its operand behind `ubo`. -/
theorem exists_takesBinding_uniform {second : Token} (followed : second.word? = some "ubo")
    (rest : List Token) :
    ∃ onward, TakesBinding .uniform (fun token => uniform (second :: token :: rest)) onward := by
  have skipped (token : Token) :
      optionalWord "ubo" (second :: token :: rest) = (true, token :: rest) :=
    if_pos (Token.isWord_iff.mpr followed)
  refine exists_takesBinding_of_bind (fun token => by rw [uniform, skipped]; rfl) ?_ ?_
  · intro set place
    dsimp only
    cases bufferData .uniform .invalidUniformOffset rest <;> rfl
  · intro place operation accepted
    obtain ⟨data, -, ⟨⟩⟩ := bind_eq_ok.mp accepted
    rfl

/-- A type is read from its token alone. -/
theorem datumType_cons (command : DataCommand) (token : Token) :
    (∃ cause, ∀ rest, datumType command (token :: rest) = .error cause) ∨
      ∃ type, ∀ rest, datumType command (token :: rest) = .ok (type, rest) := by
  simp only [datumType]
  cases token.word? with
  | none => exact .inl ⟨_, fun _ => rfl⟩
  | some name =>
    cases found : DatumType.ofName? name with
    | none => exact .inl ⟨.unknownType name, fun _ => by simp only [found]⟩
    | some type => exact .inr ⟨type, fun _ => by simp only [found]⟩

/-- A probe of a storage buffer takes its binding from its operand behind the type. -/
theorem exists_takesBinding_probeBuffer {second : Token} (followed : second.word? = some "ssbo")
    (typeToken : Token) (rest : List Token) :
    ∃ onward, TakesBinding .probeBuffer (fun token => probe (second :: typeToken :: token :: rest))
      onward := by
  have skipped (token : Token) : probe (second :: typeToken :: token :: rest) =
      probeBuffer (typeToken :: token :: rest) := by
    have found : optionalWord "ssbo" (second :: typeToken :: token :: rest) =
        (true, typeToken :: token :: rest) := if_pos (Token.isWord_iff.mpr followed)
    rw [probe, found]
  rcases datumType_cons .probeBuffer typeToken with ⟨cause, refused⟩ | ⟨type, named⟩
  · refine ⟨fun _ => .error cause, ⟨fun token => ?_, fun _ _ => rfl, nofun, nofun⟩⟩
    rw [skipped, probeBuffer, refused]
    rfl
  · refine exists_takesBinding_of_bind
      (fun token => by rw [skipped, probeBuffer, named]; rfl) ?_ ?_
    · intro set place
      dsimp only
      cases probeOffset rest with
      | error cause => rfl
      | ok read =>
        dsimp only [ok_bind]
        cases comparator read.2 with
        | error cause => rfl
        | ok compared =>
          dsimp only [ok_bind]
          cases values .probeBuffer type compared.2 <;> rfl
    · intro place operation accepted
      obtain ⟨_, -, accepted⟩ := bind_eq_ok.mp accepted
      obtain ⟨_, -, accepted⟩ := bind_eq_ok.mp accepted
      obtain ⟨_, -, ⟨⟩⟩ := bind_eq_ok.mp accepted
      rfl

end Command

/-- A line has a binding behind its first token and the given tokens: it is about a storage buffer,
about a uniform buffer, or about a probe of a storage buffer for a type. -/
inductive TokenLine.OpensBinding : BindingCommand → Token → List Token → Prop
  | storage {first : Token} (named : first.word? = some "ssbo") : OpensBinding .storage first []
  | uniform {first second : Token} (named : first.word? = some "uniform")
    (followed : second.word? = some "ubo") : OpensBinding .uniform first [second]
  | probeBuffer {first second : Token} (named : first.word? = some "probe")
    (followed : second.word? = some "ssbo") (type : Token) :
    OpensBinding .probeBuffer first [second, type]

namespace Test

variable {command : BindingCommand} {first : Token} {front : List Token}

/-- A line with a binding takes it from the token of the binding. -/
theorem exists_takesBinding (opens : TokenLine.OpensBinding command first front)
    (rest : List Token) (pipeline : Pipeline) :
    ∃ read onward, TakesBinding command read onward ∧
      ∀ token, (readLine pipeline ⟨first, front ++ token :: rest⟩).operation =
        (read token).map some := by
  cases opens with
  | storage named =>
    have other : Property.ofName? "ssbo" = none := by decide +kernel
    obtain ⟨onward, takes⟩ := exists_takesBinding_storage rest
    exact ⟨_, onward, takes, fun token => by simp only [readLine, named, other]; rfl⟩
  | uniform named followed =>
    have other : Property.ofName? "uniform" = none := by decide +kernel
    obtain ⟨onward, takes⟩ := exists_takesBinding_uniform followed rest
    exact ⟨_, onward, takes, fun token => by simp only [readLine, named, other]; rfl⟩
  | probeBuffer named followed type =>
    have other : Property.ofName? "probe" = none := by decide +kernel
    obtain ⟨onward, takes⟩ := exists_takesBinding_probeBuffer followed type rest
    exact ⟨_, onward, takes, fun token => by simp only [readLine, named, other]; rfl⟩

/-- The operation that a line with a binding gives, by the word for the binding. -/
def bindingResult (pipeline : Pipeline) (first : Token) (front rest : List Token) (line : Nat)
    (word : String) : Except Error (Option Operation) :=
  (readLine pipeline ⟨first, front ++ .ofWord word line :: rest⟩).operation

/-- A number alone is a binding of the first descriptor set. A set in front of it, with a colon
between the two, changes nothing but the descriptor set of the operation if the number is an
unsigned decimal literal, and makes the line be refused for its binding if it is not. -/
theorem readLine_of_set {set word : String} {number index : UInt32}
    (plain : IsHexLiteral word.toList index.toNat ∨ IsIntegerLiteral word.toList index.toNat)
    (decimal : IsUnsignedLiteral 10 set.toList number.toNat)
    (opens : TokenLine.OpensBinding command first front) (rest : List Token) (pipeline : Pipeline)
    (line : Nat) :
    let result := bindingResult pipeline first front rest line
    IsWord (set ++ ":" ++ word) ∧
    (∀ operation, result word = .ok operation →
      ∃ own, operation = some own ∧ own.binding? = some ⟨0, index⟩ ∧ own.withSet 0 = own) ∧
    (IsUnsignedLiteral 10 word.toList index.toNat →
      result (set ++ ":" ++ word) = (result word).map (Option.map (Operation.withSet number))) ∧
    (¬ IsUnsignedLiteral 10 word.toList index.toNat → ∀ operation, result word = .ok operation →
      result (set ++ ":" ++ word) = .error (.invalidBinding command)) := by
  obtain ⟨read, onward, takes, whole⟩ := exists_takesBinding opens rest pipeline
  have result (text : String) : bindingResult pipeline first front rest line text =
      (onward (bindingOf? (.ofWord text line))).map some := by
    rw [bindingResult, whole, takes.read_eq]
  have alone := bindingOf?_of_literal plain line
  have behind : bindingOf? (.ofWord (set ++ ":" ++ word) line) =
      (word32? word.toList).map fun index => ⟨number, index⟩ := bindingOf?_of_set decimal line
  simp only [result, alone, behind]
  refine ⟨isWord_of_set plain decimal, ?_, fun literal => ?_, fun other => ?_⟩
  · rintro operation found
    obtain ⟨own, accepted, rfl⟩ := map_eq_ok.mp found
    have place := takes.binding?_eq accepted
    exact ⟨own, rfl, place, own.withSet_of_binding? place⟩
  · have changed : onward (some ⟨number, index⟩) =
        (onward (some ⟨0, index⟩)).map (Operation.withSet number) :=
      takes.onward_withSet number ⟨0, index⟩
    rw [word32?_eq_some_iff.mpr literal, Option.map_some, changed, map_map, map_map]
    rfl
  · intro operation found
    obtain ⟨own, accepted, rfl⟩ := map_eq_ok.mp found
    have none_ : word32? word.toList = none := by
      refine Option.eq_none_iff_forall_ne_some.mpr fun value read => other ?_
      exact .of_literal plain (word32?_eq_some_iff.mp read)
    rw [none_, Option.map_none, takes.onward_none accepted]
    rfl

/-- The text of a storage buffer command with a size. -/
def sizedText (binding : String) : String :=
  "ssbo " ++ binding ++ " 40\n"

/-- A decimal binding can be written with a set, and the same binding in hexadecimal cannot. -/
theorem readLine_of_set_sizedText :
    (TokenLine.ofText (sizedText "0x10") 1).map (fun line => (readLine .default line).operation) =
      [.ok (some (.buffer (.storageSize ⟨0, 16⟩ 40)))] ∧
    (TokenLine.ofText (sizedText "0:0x10") 1).map (fun line => (readLine .default line).operation) =
      [.error (.invalidBinding .storage)] ∧
    (TokenLine.ofText (sizedText "007:+16") 1).map
      (fun line => (readLine .default line).operation) =
      [.ok (some (.buffer (.storageSize ⟨7, 16⟩ 40)))] := by
  let first : Token := ⟨.word, "ssbo", 1⟩
  let rest : List Token := [⟨.integer 40, "40", 1⟩]
  have cut : ∀ word ∈ ["0x10", "0:0x10", "007:+16"],
      TokenLine.ofText (sizedText word) 1 = [⟨first, [] ++ .ofWord word 1 :: rest⟩] := by
    decide +kernel
  have opens : TokenLine.OpensBinding .storage first [] := .storage rfl
  have hexadecimal : IsHexLiteral "0x10".toList (16 : UInt32).toNat :=
    TokenKind.ofWord_eq_hex_iff.mp (by decide : TokenKind.ofWord "0x10".toList = .hex 16)
  have spelled : ¬ IsUnsignedLiteral 10 "0x10".toList (16 : UInt32).toNat := by
    rw [← word32?_eq_some_iff]
    decide
  have zero : IsUnsignedLiteral 10 "0".toList (0 : UInt32).toNat :=
    word32?_eq_some_iff.mp (by decide)
  have seven : IsUnsignedLiteral 10 "007".toList (7 : UInt32).toNat :=
    word32?_eq_some_iff.mp (by decide)
  have sixteen : IsUnsignedLiteral 10 "+16".toList (16 : UInt32).toNat :=
    word32?_eq_some_iff.mp (by decide)
  have alone : bindingResult .default first [] rest 1 "0x10" =
      .ok (some (.buffer (.storageSize ⟨0, 16⟩ 40))) := by decide +kernel
  have plus : bindingResult .default first [] rest 1 "+16" =
      .ok (some (.buffer (.storageSize ⟨0, 16⟩ 40))) := by decide +kernel
  obtain ⟨-, -, -, refused⟩ := readLine_of_set (.inl hexadecimal) zero opens rest .default 1
  obtain ⟨-, -, changed, -⟩ :=
    readLine_of_set (.inr sixteen.isIntegerLiteral) seven opens rest .default 1
  have behind := refused spelled _ alone
  have other := changed sixteen
  rw [plus] at other
  rw [cut "0x10" (by decide), cut "0:0x10" (by decide), cut "007:+16" (by decide)]
  exact ⟨congrArg ([·]) alone, congrArg ([·]) behind, congrArg ([·]) other⟩

end Test

end GpuScript
