import GpuScript.Command.Form
import GpuScript.Proofs.Result
import GpuScript.Proofs.SortedTable
import GpuScript.Proofs.Token.Words

/-!
# Operations that can be written

What every operation that was read from a line has, and what its text needs in order to be read
again (`Command.writable_of_readOperation`): names are words that are no numbers, types have the
names by which they are found, and lists have a number of elements that is accepted.
-/

namespace GpuScript

/-- A text that is read as a word and not as a number. -/
structure IsName (text : String) : Prop extends IsWord text where
  /-- The word is no number. -/
  kind : TokenKind.ofWord text.toList = .word

/-- A token of a text: if it is a word, its text is one. -/
def Token.Genuine (token : Token) : Prop :=
  ∀ name, token.word? = some name → IsName name

/-- The tokens of a text are genuine. -/
theorem Token.genuine_of_mem_tokens {cursor : Cursor} {token : Token}
    (listed : token ∈ cursor.tokens) : token.Genuine := by
  intro name word
  obtain ⟨kind, rfl⟩ := Token.word?_eq_some_iff.mp word
  obtain ⟨clean, same⟩ := Cursor.isWord_of_mem_tokens listed kind
  exact ⟨clean, same⟩

/-- The components of a type are stored like a value. -/
def DatumType.Stores (type : DatumType) : Value → Prop
  | .signed width _ => type.base = .signed ∧ Width.ofBits? type.bits = some width
  | .unsigned width _ => type.base = .unsigned ∧ Width.ofBits? type.bits = some width
  | .float precision _ => type.base = .float ∧ Precision.ofBits? type.bits = some precision

/-- Values that can be written: whole data of a type that is found by its name. -/
structure BufferData.Writable (data : BufferData) : Prop where
  /-- The name of the type is a word. -/
  name : IsName data.datumType.name
  /-- The type is found by its name. -/
  found : DatumType.ofName? data.datumType.name = some data.datumType
  /-- There is a value. -/
  nonempty : data.values ≠ []
  /-- The values make up whole data. -/
  whole : data.values.length % data.datumType.elementCount = 0
  /-- The values are stored as the type asks for. -/
  typed : ∀ value ∈ data.values, data.datumType.Stores value

/-- A change of a buffer can be written. -/
def BufferUpdate.Writable : BufferUpdate → Prop
  | storageSize _ _ => True
  | storage _ data => data.Writable
  | uniform _ data => data.Writable
  | pushConstants data => data.Writable

/-- An operation can be written. -/
def Operation.Writable : Operation → Prop
  | entryPoint _ name => IsName name
  | probeBuffer storage => storage.data.Writable
  | buffer update => update.Writable
  | tolerance tolerances => tolerances.length = 1 ∨ tolerances.length = 4
  | _ => True

namespace DatumType

/-- The type of a format has the name of the format. -/
theorem name_of_ofFormat? {format : Format} {datumType : DatumType}
    (found : ofFormat? format = some datumType) : datumType.name = format.name := by
  unfold ofFormat? at found
  split at found
  · obtain rfl := Option.some.inj found
    rfl
  · obtain ⟨part, _, rfl⟩ := Option.map_eq_some_iff.mp found
    rfl

/-- A type that is found has the name by which it is found. -/
theorem name_of_ofName? {name : String} {datumType : DatumType}
    (found : ofName? name = some datumType) : datumType.name = name := by
  unfold ofName? at found
  split at found
  · rename_i own
    obtain rfl := Option.some.inj found
    exact SortedTable.key_of_find? own
  · obtain ⟨format, named, made⟩ := Option.bind_eq_some_iff.mp found
    rw [name_of_ofFormat? made]
    exact SortedTable.key_of_find? named

/-- A value that a token stands for is stored as the type asks for. -/
theorem stores_of_value? {type : DatumType} {token : Token} {value : Value}
    (found : type.value? token = some value) : type.Stores value := by
  unfold value? Value.ofToken? at found
  split at found
  · rename_i base
    split at found
    · rename_i number precision _ bits
      obtain rfl := Option.some.inj found
      exact ⟨base, bits⟩
    · cases found
  · rename_i base
    split at found
    · rename_i number width _ bits
      obtain rfl := Option.some.inj found
      exact ⟨base, bits⟩
    · cases found
  · rename_i base
    split at found
    · rename_i number width _ bits
      obtain rfl := Option.some.inj found
      exact ⟨base, bits⟩
    · cases found

end DatumType

namespace Command

variable {tokens rest : List Token}

/-- The tokens after an optional word are among those before it. -/
theorem optionalWord_suffix (word : String) (tokens : List Token) :
    (optionalWord word tokens).2 <:+ tokens := by
  unfold optionalWord
  split
  · exact List.suffix_refl _
  · split
    · exact List.suffix_cons _ _
    · exact List.suffix_refl _

/-- The tokens after a binding are among those before it. -/
theorem binding_suffix {command : BindingCommand} {value : Binding}
    (accepted : binding command tokens = .ok (value, rest)) : rest <:+ tokens := by
  unfold binding at accepted
  split at accepted
  · cases accepted
  · split at accepted
    · obtain ⟨_, rfl⟩ := Prod.mk.inj (Except.ok.inj accepted)
      exact List.suffix_cons _ _
    · cases accepted

/-- A type is read from a word that names it. -/
theorem datumType_eq_ok {command : DataCommand} {type : DatumType}
    (genuine : ∀ token ∈ tokens, token.Genuine)
    (accepted : datumType command tokens = .ok (type, rest)) :
    IsName type.name ∧ DatumType.ofName? type.name = some type := by
  unfold datumType at accepted
  split at accepted
  · cases accepted
  · rename_i token rest
    split at accepted
    · cases accepted
    · rename_i name word
      split at accepted
      · rename_i value found
        obtain ⟨rfl, _⟩ := Prod.mk.inj (Except.ok.inj accepted)
        rw [DatumType.name_of_ofName? found]
        exact ⟨genuine token List.mem_cons_self name word, found⟩
      · cases accepted

/-- Components that are accepted are stored as their type asks for. -/
theorem stores_of_componentValues {command : DataCommand} {type : DatumType} {found : List Value}
    (accepted : componentValues command type tokens = .ok found) :
    ∀ value ∈ found, type.Stores value := by
  induction tokens generalizing found with
  | nil =>
    obtain rfl := Except.ok.inj accepted
    simp
  | cons token rest ih =>
    rw [componentValues] at accepted
    split at accepted
    · rename_i value own
      obtain ⟨others, later, rfl⟩ := map_eq_ok.mp accepted
      exact List.forall_mem_cons.mpr ⟨DatumType.stores_of_value? own, ih later⟩
    · cases accepted

/-- Values that are accepted are whole data, stored as their type asks for. -/
theorem values_eq_ok {command : DataCommand} {type : DatumType} {found : List Value}
    (accepted : values command type tokens = .ok found) :
    found ≠ [] ∧ found.length % type.elementCount = 0 ∧ ∀ value ∈ found, type.Stores value := by
  unfold values at accepted
  split at accepted
  · cases accepted
  · rename_i components
    split at accepted
    · cases accepted
    · rename_i complete
      obtain rfl := Except.ok.inj accepted
      rw [not_or, List.isEmpty_iff, not_not] at complete
      exact ⟨complete.1, complete.2, stores_of_componentValues components⟩

/-- Buffer data that is read can be written. -/
theorem bufferData_writable {command : DataCommand} {cause : Error} {data : BufferData}
    (genuine : ∀ token ∈ tokens, token.Genuine)
    (accepted : bufferData command cause tokens = .ok data) : data.Writable := by
  obtain ⟨⟨type, others⟩, first, accepted⟩ := bind_eq_ok.mp accepted
  obtain ⟨⟨offset, others⟩, _, accepted⟩ := bind_eq_ok.mp accepted
  obtain ⟨found, last, accepted⟩ := bind_eq_ok.mp accepted
  obtain rfl := Except.ok.inj accepted
  obtain ⟨name, named⟩ := datumType_eq_ok genuine first
  obtain ⟨nonempty, whole, typed⟩ := values_eq_ok last
  exact ⟨name, named, nonempty, whole, typed⟩

/-- The operation of a line that was read to its end. -/
theorem eq_of_finish {cause : Error} {made operation : Operation}
    (accepted : (finish cause tokens >>= fun _ => .ok made) = .ok operation) :
    made = operation := by
  obtain ⟨_, _, accepted⟩ := bind_eq_ok.mp accepted
  exact Except.ok.inj accepted

/-- What `clear` does can be written. -/
theorem clear_writable {operation : Operation} (accepted : clear tokens = .ok operation) :
    operation.Writable := by
  unfold clear at accepted
  split at accepted
  · obtain rfl := Except.ok.inj accepted
    trivial
  · split at accepted
    · obtain ⟨_, _, accepted⟩ := bind_eq_ok.mp accepted
      obtain rfl := eq_of_finish accepted
      trivial
    · obtain ⟨_, _, accepted⟩ := bind_eq_ok.mp accepted
      obtain rfl := eq_of_finish accepted
      trivial
    · unfold clearStencil at accepted
      split at accepted
      · cases accepted
      · obtain ⟨_, _, accepted⟩ := bind_eq_ok.mp accepted
        obtain rfl := eq_of_finish accepted
        trivial
    · cases accepted

/-- What is drawn can be written. -/
theorem draw_writable {pipeline : Pipeline} {operation : Operation}
    (accepted : draw pipeline tokens = .ok operation) : operation.Writable := by
  unfold draw at accepted
  split at accepted
  · cases accepted
  · split at accepted
    · obtain ⟨_, _, accepted⟩ := bind_eq_ok.mp accepted
      obtain rfl := eq_of_finish accepted
      trivial
    · obtain ⟨_, _, accepted⟩ := bind_eq_ok.mp accepted
      obtain ⟨_, _, accepted⟩ := bind_eq_ok.mp accepted
      obtain ⟨_, _, accepted⟩ := bind_eq_ok.mp accepted
      obtain ⟨_, _, accepted⟩ := bind_eq_ok.mp accepted
      obtain rfl := eq_of_finish accepted
      trivial
    · cases accepted

/-- The name of an entry point is a word. -/
theorem entryPoint_writable {stage : Stage} {operation : Operation}
    (genuine : ∀ token ∈ tokens, token.Genuine)
    (accepted : entryPoint stage tokens = .ok operation) : operation.Writable := by
  have part := optionalWord_suffix "entrypoint" tokens
  unfold entryPoint at accepted
  split at accepted
  · cases accepted
  · cases accepted
  · rename_i token after same
    rw [same] at part
    split at accepted
    · cases accepted
    · rename_i name word
      obtain rfl := eq_of_finish accepted
      exact genuine token (part.mem List.mem_cons_self) name word

/-- The name of an entry point of a tessellation stage is a word. -/
theorem tessellation_writable {operation : Operation}
    (genuine : ∀ token ∈ tokens, token.Genuine)
    (accepted : tessellation tokens = .ok operation) : operation.Writable := by
  unfold tessellation at accepted
  split at accepted
  · cases accepted
  · have among := (List.forall_mem_cons.mp genuine).2
    split at accepted
    · exact entryPoint_writable among accepted
    · exact entryPoint_writable among accepted
    · cases accepted

/-- What `compute` does can be written. -/
theorem compute_writable {pipeline : Pipeline} {operation : Operation}
    (genuine : ∀ token ∈ tokens, token.Genuine)
    (accepted : compute pipeline tokens = .ok operation) : operation.Writable := by
  unfold compute at accepted
  split at accepted
  · exact entryPoint_writable genuine accepted
  · cases accepted
  · obtain ⟨_, _, accepted⟩ := bind_eq_ok.mp accepted
    obtain ⟨_, _, accepted⟩ := bind_eq_ok.mp accepted
    obtain ⟨_, _, accepted⟩ := bind_eq_ok.mp accepted
    obtain rfl := eq_of_finish accepted
    trivial

/-- A number of vertices of a patch can be written. -/
theorem patch_writable {operation : Operation} (accepted : patch tokens = .ok operation) :
    operation.Writable := by
  unfold patch at accepted
  split at accepted
  · cases accepted
  · split at accepted
    · cases accepted
    · obtain ⟨_, _, accepted⟩ := bind_eq_ok.mp accepted
      obtain rfl := eq_of_finish accepted
      trivial

/-- A probe of the framebuffer can be written. -/
theorem probeFramebuffer_writable {relative : Bool} {operation : Operation}
    (accepted : probeFramebuffer relative tokens = .ok operation) : operation.Writable := by
  obtain ⟨_, _, accepted⟩ := bind_eq_ok.mp accepted
  obtain ⟨_, _, accepted⟩ := bind_eq_ok.mp accepted
  obtain ⟨_, _, accepted⟩ := bind_eq_ok.mp accepted
  obtain ⟨_, _, accepted⟩ := bind_eq_ok.mp accepted
  obtain rfl := eq_of_finish accepted
  trivial

/-- A probe of a storage buffer can be written. -/
theorem probeBuffer_writable {operation : Operation}
    (genuine : ∀ token ∈ tokens, token.Genuine)
    (accepted : probeBuffer tokens = .ok operation) : operation.Writable := by
  obtain ⟨⟨type, _⟩, first, accepted⟩ := bind_eq_ok.mp accepted
  obtain ⟨_, _, accepted⟩ := bind_eq_ok.mp accepted
  obtain ⟨_, _, accepted⟩ := bind_eq_ok.mp accepted
  obtain ⟨_, _, accepted⟩ := bind_eq_ok.mp accepted
  obtain ⟨found, last, accepted⟩ := bind_eq_ok.mp accepted
  obtain rfl := Except.ok.inj accepted
  obtain ⟨name, named⟩ := datumType_eq_ok genuine first
  obtain ⟨nonempty, whole, typed⟩ := values_eq_ok last
  exact ⟨name, named, nonempty, whole, typed⟩

/-- What is probed can be written. -/
theorem probe_writable {operation : Operation} (genuine : ∀ token ∈ tokens, token.Genuine)
    (accepted : probe tokens = .ok operation) : operation.Writable := by
  have part := optionalWord_suffix "ssbo" tokens
  unfold probe at accepted
  split at accepted
  · rename_i after same
    rw [same] at part
    exact probeBuffer_writable (fun token listed => genuine token (part.mem listed)) accepted
  · exact probeFramebuffer_writable accepted

/-- A relative probe can be written. -/
theorem relative_writable {operation : Operation} (accepted : relative tokens = .ok operation) :
    operation.Writable := by
  unfold relative at accepted
  split at accepted
  · exact probeFramebuffer_writable accepted
  · cases accepted

/-- A change of a storage buffer can be written. -/
theorem storage_writable {operation : Operation} (genuine : ∀ token ∈ tokens, token.Genuine)
    (accepted : storage tokens = .ok operation) : operation.Writable := by
  unfold storage at accepted
  split at accepted
  · cases accepted
  · obtain ⟨⟨place, after⟩, first, accepted⟩ := bind_eq_ok.mp accepted
    obtain ⟨update, second, accepted⟩ := bind_eq_ok.mp accepted
    obtain rfl := Except.ok.inj accepted
    have part := binding_suffix first
    unfold storageUpdate at second
    split at second
    · cases second
    · rename_i token others
      split at second
      · obtain ⟨_, _, second⟩ := bind_eq_ok.mp second
        obtain ⟨_, _, second⟩ := bind_eq_ok.mp second
        obtain rfl := Except.ok.inj second
        trivial
      · split at second
        · obtain ⟨data, read, rfl⟩ := map_eq_ok.mp second
          exact bufferData_writable (fun token listed =>
            genuine token (part.mem (List.mem_cons_of_mem _ listed))) read
        · cases second

/-- Values for a uniform buffer or the push constants can be written. -/
theorem uniform_writable {operation : Operation} (genuine : ∀ token ∈ tokens, token.Genuine)
    (accepted : uniform tokens = .ok operation) : operation.Writable := by
  have part := optionalWord_suffix "ubo" tokens
  unfold uniform at accepted
  split at accepted
  · rename_i after same
    rw [same] at part
    obtain ⟨⟨place, others⟩, first, accepted⟩ := bind_eq_ok.mp accepted
    obtain ⟨data, second, accepted⟩ := bind_eq_ok.mp accepted
    obtain rfl := Except.ok.inj accepted
    have left := (binding_suffix first).trans part
    exact bufferData_writable (fun token listed => genuine token (left.mem listed)) second
  · rename_i after same
    rw [same] at part
    obtain ⟨data, second, accepted⟩ := bind_eq_ok.mp accepted
    obtain rfl := Except.ok.inj accepted
    exact bufferData_writable (fun token listed => genuine token (part.mem listed)) second

/-- One tolerance or four are set. -/
theorem tolerance_writable {operation : Operation}
    (accepted : tolerance tokens = .ok operation) : operation.Writable := by
  obtain ⟨tolerances, _, accepted⟩ := bind_eq_ok.mp accepted
  split at accepted
  · cases accepted
  · rename_i one
    obtain rfl := Except.ok.inj accepted
    exact Or.inl one
  · rename_i four
    obtain rfl := Except.ok.inj accepted
    exact Or.inr four
  · cases accepted

/-- An operation that is read from the tokens of a text can be written. -/
theorem writable_of_readOperation {pipeline : Pipeline} {name : String} {operation : Operation}
    (genuine : ∀ token ∈ tokens, token.Genuine)
    (accepted : readOperation pipeline name tokens = .ok operation) : operation.Writable := by
  unfold readOperation at accepted
  split at accepted
  · exact clear_writable accepted
  · exact draw_writable accepted
  · exact compute_writable genuine accepted
  · exact patch_writable accepted
  · exact probe_writable genuine accepted
  · exact relative_writable accepted
  · exact storage_writable genuine accepted
  · exact uniform_writable genuine accepted
  · exact tolerance_writable accepted
  · exact tessellation_writable genuine accepted
  · exact entryPoint_writable genuine accepted
  · exact entryPoint_writable genuine accepted
  · exact entryPoint_writable genuine accepted
  · cases accepted

end Command

end GpuScript
