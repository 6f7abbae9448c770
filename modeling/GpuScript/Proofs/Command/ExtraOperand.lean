import GpuScript.Proofs.Command.ProbeGrammar
import GpuScript.Command.Setting

/-!
# Operands behind the last one

A reader of an operand takes tokens from the front of a line and does not look at those behind them
(`IsLocal`). A command with a fixed number of operands is a sequence of such readers and the end of
the line. What is accepted as one is therefore read in the same way up to its last operand when more
tokens follow, and is refused there (`Ends`).

Two commands have a reader that looks ahead at their end. An instanced draw may leave the number of
instances out, and then takes what follows for it. A tuple of a probe without brackets must not have
a closing bracket behind it.
-/

namespace GpuScript

open Command

/-- The form of an operation that is written with a fixed number of operands. -/
def Operation.form? : Operation → Option Form
  | clearColor _ _ _ _ => some .clearColor
  | clearDepth _ => some .clearDepth
  | clearStencil _ => some .clearStencil
  | drawRect _ _ _ _ _ _ _ => some .drawRect
  | drawArrays _ _ _ _ _ _ => some .drawArrays
  | compute _ _ _ _ => some .compute
  | entryPoint _ _ => some .entryPoint
  | patchVertices _ => some .patchVertices
  | probe _ => some .probe
  | buffer (.storageSize _ _) => some .bufferSize
  | clear | probeBuffer _ | tolerance _ | buffer (.storage _ _) | buffer (.uniform _ _)
  | buffer (.pushConstants _) => none

namespace Command

section Local

variable {α β : Type} {read : List Token → Except Error (α × List Token)}

/-- A reader gives the same operand whatever stands behind the tokens that it takes. -/
def IsLocal (read : List Token → Except Error (α × List Token)) : Prop :=
  ∀ tokens value rest, read tokens = .ok (value, rest) →
    ∀ behind, read (tokens ++ behind) = .ok (value, rest ++ behind)

/-- A reader that takes numbers only is local. -/
theorem Takes.isLocal {list : α → List Single} (takes : Takes read list) : IsLocal read := by
  intro tokens value rest accepted behind
  obtain ⟨numerals, narrowed, rfl⟩ := (takes _ _ _).mp accepted
  exact (takes _ _ _).mpr ⟨numerals, narrowed, List.append_assoc _ _ _⟩

/-- A reader that takes nothing is local, whether it has a value to give or not. -/
theorem isLocal_found (found : Option α) (cause : Error) :
    IsLocal fun tokens => match found with
      | some value => .ok (value, tokens)
      | none => .error cause := by
  intro tokens value rest accepted behind
  cases found with
  | none => cases accepted
  | some own =>
    cases accepted
    rfl

/-- Local readers one behind another are local. -/
theorem IsLocal.bind {onward : α × List Token → Except Error (β × List Token)}
    (first : IsLocal read) (last : ∀ value, IsLocal fun rest => onward (value, rest)) :
    IsLocal fun tokens => read tokens >>= onward := by
  intro tokens value rest accepted behind
  obtain ⟨⟨own, between⟩, taken, accepted⟩ := bind_eq_ok.mp accepted
  exact bind_eq_ok.mpr ⟨_, first _ _ _ taken behind, last own _ _ _ accepted behind⟩

end Local

/-- An unsigned word is read from a token. -/
theorem word_eq_ok {cause : Error} {tokens rest : List Token} {value : UInt32} :
    word cause tokens = .ok (value, rest) ↔
      ∃ token, token.kind.word32? = some value ∧ tokens = token :: rest := by
  cases tokens with
  | nil => simp [word]
  | cons token others =>
    rw [word]
    cases found : token.kind.word32? <;> simp [found]

/-- A topology of a draw is read from a word. -/
theorem drawTopology_eq_ok {tokens rest : List Token} {topology : Topology} :
    drawTopology tokens = .ok (topology, rest) ↔
      ∃ token, token.word?.bind Topology.ofDrawName? = some topology ∧ tokens = token :: rest := by
  cases tokens with
  | nil => simp [drawTopology]
  | cons token others =>
    rw [drawTopology]
    cases named : token.word? with
    | none => simp [named]
    | some name =>
      cases found : Topology.ofDrawName? name <;> simp [named, found]

/-- A binding is read from a token. -/
theorem binding_eq_ok {command : BindingCommand} {tokens rest : List Token} {value : Binding} :
    binding command tokens = .ok (value, rest) ↔
      ∃ token, bindingOf? token = some value ∧ tokens = token :: rest := by
  cases tokens with
  | nil => simp [binding]
  | cons token others =>
    rw [binding]
    cases found : bindingOf? token <;> simp [found]

/-- A word of a property is read from a word. -/
theorem propertyWord_eq_ok {missing invalid : Error} {tokens rest : List Token} {text : String} :
    propertyWord missing invalid tokens = .ok (text, rest) ↔
      ∃ token, token.word? = some text ∧ tokens = token :: rest := by
  cases tokens with
  | nil => simp [propertyWord]
  | cons token others =>
    rw [propertyWord]
    cases named : token.word? <;> simp [named]

/-- A reader that takes one token which stands for a value is local. -/
theorem IsLocal.of_token {α : Type} {read : List Token → Except Error (α × List Token)}
    {valueOf? : Token → Option α}
    (token : ∀ {tokens value rest}, read tokens = .ok (value, rest) ↔
      ∃ token, valueOf? token = some value ∧ tokens = token :: rest) : IsLocal read := by
  intro tokens value rest accepted behind
  obtain ⟨own, found, rfl⟩ := token.mp accepted
  exact token.mpr ⟨own, found, rfl⟩

/-- A choice of an enumeration is local. -/
theorem isLocal_choiceValue (α : Type) [Named α] (property : Property) :
    IsLocal (choiceValue α property) :=
  (IsLocal.of_token propertyWord_eq_ok).bind fun name => isLocal_found (Named.ofName? name) _

/-- A choice of a parameter is local. -/
theorem isLocal_choiceParameter (α : Type) [Named α] (property : Property) :
    IsLocal (choiceParameter α property) :=
  (IsLocal.of_token propertyWord_eq_ok).bind fun name => isLocal_found (Named.ofName? name) _

/-- A switch is local. -/
theorem isLocal_toggleValue (property : Property) : IsLocal (toggleValue property) := by
  refine (IsLocal.of_token propertyWord_eq_ok).bind fun text => ?_
  dsimp only
  cases toggleOf? text with
  | none => exact isLocal_found none .invalidToggle
  | some value => exact isLocal_found (some value) .invalidToggle

/-- The value of a property is local unless it is a list of names. -/
theorem isLocal_propertyValue {property : Property}
    (single : property ≠ .cullMode ∧ property ≠ .colorWriteMask) :
    IsLocal (propertyValue property) := by
  cases property with
  | topology | polygonMode | frontFace | logicOp => exact isLocal_choiceValue _ _
  | cullMode => exact absurd rfl single.1
  | colorWriteMask => exact absurd rfl single.2
  | blendFactor | blendOp | depthCompareOp | stencilCompareOp | stencilOp =>
    exact isLocal_choiceParameter _ _
  | stencilWord face which =>
    rintro (_ | ⟨token, tokens⟩) value rest accepted behind
    · cases accepted
    · exact IsLocal.of_token word_eq_ok (token :: tokens) _ _ accepted behind
  | scalar scalar =>
    rintro (_ | ⟨token, tokens⟩) value rest accepted behind
    · cases accepted
    · exact takes_number.isLocal (token :: tokens) _ _ accepted behind
  | toggle => exact isLocal_toggleValue _

/-! ### Commands with a fixed number of operands -/

/-- What a reader accepts as an operation with a form is refused with the given tokens behind it,
for the form. -/
def Ends (behind : List Token) (read : List Token → Except Error Operation) : Prop :=
  ∀ tokens operation form, read tokens = .ok operation → operation.form? = some form →
    read (tokens ++ behind) = .error (.extraOperand form)

section Ends

variable {extra : Token} {more : List Token}

/-- A reader without operands of its own is refused at the end of the line. -/
theorem Ends.finish {operation : Operation} {form : Form} (own : operation.form? = some form) :
    Ends (extra :: more) fun tokens =>
      Command.finish (.extraOperand form) tokens >>= fun _ => .ok operation := by
  intro tokens _ other accepted found
  obtain ⟨_, ended, ⟨⟩⟩ := bind_eq_ok.mp accepted
  obtain rfl := finish_eq_ok.mp ended
  obtain rfl := Option.some.inj (own.symm.trans found)
  rfl

/-- A local reader stands in front of a reader that ends its line. -/
theorem Ends.bind {α : Type} {behind : List Token}
    {read : List Token → Except Error (α × List Token)}
    {onward : α × List Token → Except Error Operation} (first : IsLocal read)
    (last : ∀ value, Ends behind fun rest => onward (value, rest)) :
    Ends behind fun tokens => read tokens >>= onward := by
  intro tokens operation form accepted found
  obtain ⟨⟨own, between⟩, taken, accepted⟩ := bind_eq_ok.mp accepted
  exact bind_eq_error.mpr (.inr ⟨_, first _ _ _ taken behind, last own _ _ _ accepted found⟩)

/-- There are tokens where an optional word was looked for, if there are some behind it. -/
theorem ne_nil_of_optionalWord {text : String} {tokens rest : List Token} {found : Bool}
    (front : optionalWord text tokens = (found, rest)) (later : rest ≠ []) : tokens ≠ [] := by
  rintro rfl
  cases front
  exact later rfl

/-- What stands behind an optional word stands at the end of the tokens. -/
theorem suffix_of_optionalWord {text : String} {tokens rest : List Token} {found : Bool}
    (front : optionalWord text tokens = (found, rest)) : rest <:+ tokens := by
  cases tokens with
  | nil =>
    cases front
    exact List.suffix_rfl
  | cons token others =>
    rw [optionalWord] at front
    split at front
    · cases front
      exact List.suffix_cons _ _
    · cases front
      exact List.suffix_rfl

/-- An optional word is looked for in the same way whatever follows, if there are tokens behind
it. -/
theorem optionalWord_append {text : String} {tokens rest : List Token} {found : Bool}
    (front : optionalWord text tokens = (found, rest)) (later : rest ≠ []) (behind : List Token) :
    optionalWord text (tokens ++ behind) = (found, rest ++ behind) := by
  cases tokens with
  | nil => exact absurd rfl (ne_nil_of_optionalWord front later)
  | cons token others =>
    rw [List.cons_append]
    rw [optionalWord] at front ⊢
    split at front
    · rename_i word
      cases front
      exact if_pos word
    · rename_i other
      cases front
      exact if_neg other

/-- An optional word that was found was there. -/
theorem optionalWord_eq_true {text : String} {tokens rest : List Token} :
    optionalWord text tokens = (true, rest) ↔
      ∃ token, token.word? = some text ∧ tokens = token :: rest := by
  cases tokens with
  | nil => simp [optionalWord]
  | cons token others =>
    rw [optionalWord, ← Bool.cond_eq_ite]
    cases word : token.isWord text <;> simp [← Token.isWord_iff, word]

/-- `clear` with what is to be set ends its line. -/
theorem ends_clear : Ends (extra :: more) clear := by
  rintro (_ | ⟨token, tokens⟩) operation form accepted found
  · cases accepted
    cases found
  · rw [List.cons_append]
    rw [clear] at accepted ⊢
    split at accepted
    · exact Ends.bind takes_quadruple.isLocal (fun _ => .finish rfl) _ _ _ accepted found
    · exact Ends.bind takes_number.isLocal (fun _ => .finish rfl) _ _ _ accepted found
    · cases tokens with
      | nil => cases accepted
      | cons token tokens =>
        exact Ends.bind (.of_token word_eq_ok) (fun _ => .finish rfl) (token :: tokens) _ _
          accepted found
    · cases accepted

/-- `draw rect` ends its line. -/
theorem ends_drawRect (pipeline : Pipeline) : Ends (extra :: more) (drawRect pipeline) := by
  intro tokens operation form accepted found
  rw [drawRect] at accepted ⊢
  rcases front : optionalWord "ortho" tokens with ⟨ortho, between⟩
  rcases next : optionalWord "patch" between with ⟨patch, rest⟩
  simp only [front, next] at accepted
  have present : rest ≠ [] := by
    rintro rfl
    cases accepted
  simp only [optionalWord_append front (ne_nil_of_optionalWord next present),
    optionalWord_append next present]
  refine Ends.bind takes_quadruple.isLocal (fun value => ?_) _ _ _ accepted found
  dsimp only
  exact .finish rfl

/-- The fourth token from the end is `instanced`: a topology, a first vertex and a vertex count
follow, and the number of instances is left out. -/
def OmitsInstances (tokens : List Token) : Prop :=
  tokens.reverse[3]?.bind Token.word? = some "instanced"

instance (tokens : List Token) : Decidable (OmitsInstances tokens) :=
  inferInstanceAs (Decidable (_ = _))

/-- Tokens that omit the number of instances do so with another token in front. -/
theorem OmitsInstances.cons {tokens : List Token} (omits : OmitsInstances tokens) (token : Token) :
    OmitsInstances (token :: tokens) := by
  obtain ⟨instanced, fourth, named⟩ := Option.bind_eq_some_iff.mp omits
  have inside := (List.getElem?_eq_some_iff.mp fourth).1
  rw [OmitsInstances, List.reverse_cons, List.getElem?_append_left inside]
  exact omits

/-- A number of instances is read in the same way whatever follows, unless it is left out. -/
theorem instanceCount_append {instanced : Bool} {tokens rest : List Token} {count : Option UInt32}
    (accepted : instanceCount instanced tokens = .ok (count, rest))
    (explicit : instanced = true → tokens ≠ []) (behind : List Token) :
    instanceCount instanced (tokens ++ behind) = .ok (count, rest ++ behind) := by
  cases instanced with
  | false =>
    cases accepted
    rfl
  | true =>
    cases tokens with
    | nil => exact absurd rfl (explicit rfl)
    | cons token tokens =>
      obtain ⟨⟨value, between⟩, taken, same⟩ := map_eq_ok.mp accepted
      cases same
      have again := IsLocal.of_token word_eq_ok (token :: tokens) _ _ taken behind
      exact map_eq_ok.mpr ⟨_, again, rfl⟩

/-- `draw arrays` ends its line, unless the number of instances of an instanced draw is left out. -/
theorem drawArrays_append {pipeline : Pipeline} {tokens : List Token} {operation : Operation}
    {form : Form} (accepted : drawArrays pipeline tokens = .ok operation)
    (found : operation.form? = some form) (counted : form = .drawArrays → ¬ OmitsInstances tokens) :
    drawArrays pipeline (tokens ++ extra :: more) = .error (.extraOperand form) := by
  rw [drawArrays] at accepted ⊢
  rcases front : optionalWord "indexed" tokens with ⟨indexed, between⟩
  rcases next : optionalWord "instanced" between with ⟨instanced, rest⟩
  simp only [front, next] at accepted
  have present : rest ≠ [] := by
    rintro rfl
    cases accepted
  simp only [optionalWord_append front (ne_nil_of_optionalWord next present),
    optionalWord_append next present]
  obtain ⟨⟨topology, afterTopology⟩, drawn, accepted⟩ := bind_eq_ok.mp accepted
  obtain ⟨⟨first, afterFirst⟩, started, accepted⟩ := bind_eq_ok.mp accepted
  obtain ⟨⟨count, afterCount⟩, ended, accepted⟩ := bind_eq_ok.mp accepted
  obtain ⟨⟨instances, last⟩, repeated, accepted⟩ := bind_eq_ok.mp accepted
  obtain ⟨_, finished, ⟨⟩⟩ := bind_eq_ok.mp accepted
  obtain rfl := Option.some.inj found
  obtain rfl := finish_eq_ok.mp finished
  have explicit : instanced = true → afterCount ≠ [] := by
    rintro rfl rfl
    obtain ⟨before, rfl⟩ := suffix_of_optionalWord front
    obtain ⟨token, named, rfl⟩ := optionalWord_eq_true.mp next
    obtain ⟨_, -, rfl⟩ := drawTopology_eq_ok.mp drawn
    obtain ⟨_, -, rfl⟩ := word_eq_ok.mp started
    obtain ⟨_, -, rfl⟩ := word_eq_ok.mp ended
    refine counted rfl ?_
    simpa [OmitsInstances] using named
  have again := instanceCount_append repeated explicit (extra :: more)
  refine bind_eq_error.mpr (.inr ⟨_, IsLocal.of_token drawTopology_eq_ok _ _ _ drawn _, ?_⟩)
  refine bind_eq_error.mpr (.inr ⟨_, IsLocal.of_token word_eq_ok _ _ _ started _, ?_⟩)
  refine bind_eq_error.mpr (.inr ⟨_, IsLocal.of_token word_eq_ok _ _ _ ended _, ?_⟩)
  exact bind_eq_error.mpr (.inr ⟨_, again, rfl⟩)

/-- An entry point ends its line. -/
theorem ends_entryPoint (stage : Stage) : Ends (extra :: more) (entryPoint stage) := by
  intro tokens operation form accepted found
  rw [entryPoint] at accepted ⊢
  split at accepted
  · cases accepted
  · cases accepted
  · rename_i token rest front
    rw [optionalWord_append front (List.cons_ne_nil _ _), List.cons_append]
    dsimp only
    split at accepted
    · cases accepted
    · exact Ends.finish rfl _ _ _ accepted found

/-- An entry point of a tessellation stage ends its line. -/
theorem ends_tessellation : Ends (extra :: more) tessellation := by
  rintro (_ | ⟨token, tokens⟩) operation form accepted found
  · cases accepted
  · rw [List.cons_append]
    rw [tessellation] at accepted ⊢
    split at accepted
    · exact ends_entryPoint _ _ _ _ accepted found
    · exact ends_entryPoint _ _ _ _ accepted found
    · cases accepted

/-- A compute command ends its line. -/
theorem ends_compute (pipeline : Pipeline) : Ends (extra :: more) (compute pipeline) := by
  rintro (_ | ⟨token, tokens⟩) operation form accepted found
  · cases accepted
  · have groups : Ends (extra :: more) (computeGroups pipeline) :=
      .bind (.of_token word_eq_ok) fun _ => .bind (.of_token word_eq_ok) fun _ =>
        .bind (.of_token word_eq_ok) fun _ => .finish rfl
    rw [compute] at accepted ⊢
    rw [List.cons_append, List.head?_cons] at *
    split at accepted
    · exact ends_entryPoint _ (token :: tokens) _ _ accepted found
    · cases accepted
    · exact groups (token :: tokens) _ _ accepted found

/-- The size of a patch ends its line. -/
theorem ends_patch : Ends (extra :: more) patch := by
  intro tokens operation form accepted found
  rw [patch] at accepted ⊢
  split at accepted
  · cases accepted
  · rename_i between front
    split at accepted
    · cases accepted
    · rename_i rest next
      have present : rest ≠ [] := by
        rintro rfl
        cases accepted
      simp only [optionalWord_append front (ne_nil_of_optionalWord next present),
        optionalWord_append next present]
      refine Ends.bind (.of_token word_eq_ok) (fun count => ?_) _ _ _ accepted found
      dsimp only
      exact .finish rfl

/-- The size of a storage buffer ends its line, and values are no operation with a form. -/
theorem ends_storage : Ends (extra :: more) storage := by
  rintro (_ | ⟨token, tokens⟩) operation form accepted found
  · cases accepted
  · refine Ends.bind (.of_token binding_eq_ok) (fun place => ?_) (token :: tokens) _ _ accepted
      found
    rintro (_ | ⟨token, tokens⟩) operation form accepted found
    · cases accepted
    · obtain ⟨update, read, ⟨⟩⟩ := bind_eq_ok.mp accepted
      refine bind_eq_error.mpr (.inl ?_)
      rw [List.cons_append]
      rw [storageUpdate] at read ⊢
      split at read
      · rename_i number
        obtain ⟨⟨size, rest⟩, taken, read⟩ := bind_eq_ok.mp read
        obtain ⟨_, ended, ⟨⟩⟩ := bind_eq_ok.mp read
        obtain rfl := finish_eq_ok.mp ended
        obtain rfl := Option.some.inj found
        have again := IsLocal.of_token word_eq_ok (token :: tokens) _ _ taken (extra :: more)
        exact (if_pos number).trans (bind_eq_error.mpr (.inr ⟨_, again, rfl⟩))
      · split at read
        · obtain ⟨data, -, rfl⟩ := map_eq_ok.mp read
          cases found
        · cases read

/-- A draw ends its line, unless it is an instanced draw that leaves out the number of instances. -/
theorem draw_append {pipeline : Pipeline} {tokens : List Token} {operation : Operation}
    {form : Form} (accepted : draw pipeline tokens = .ok operation)
    (found : operation.form? = some form) (counted : form = .drawArrays → ¬ OmitsInstances tokens) :
    draw pipeline (tokens ++ extra :: more) = .error (.extraOperand form) := by
  cases tokens with
  | nil => cases accepted
  | cons token tokens =>
    rw [List.cons_append]
    rw [draw] at accepted ⊢
    split at accepted
    · exact ends_drawRect _ _ _ _ accepted found
    · exact drawArrays_append accepted found fun same omits => counted same (omits.cons token)
    · cases accepted

/-- A probe of the framebuffer ends its line if no closing bracket follows. -/
theorem ends_probeFramebuffer (relative : Bool) (unclosed : extra.kind ≠ .closeBracket) :
    Ends (extra :: more) (probeFramebuffer relative) := by
  intro tokens operation form accepted found
  obtain ⟨probe, rfl, rfl, grammar⟩ := probeFramebuffer_eq_ok.mp accepted
  obtain rfl := Option.some.inj found
  have follows : ∀ token ∈ (extra :: more).head?, token.kind ≠ .closeBracket := by
    rintro _ ⟨⟩
    exact unclosed
  rw [probeFramebuffer_append grammar follows]
  rfl

/-- A probe of a storage buffer is no operation with a form. -/
theorem form?_of_probeBuffer {tokens : List Token} {operation : Operation}
    (accepted : probeBuffer tokens = .ok operation) : operation.form? = none := by
  obtain ⟨_, -, accepted⟩ := bind_eq_ok.mp accepted
  obtain ⟨_, -, accepted⟩ := bind_eq_ok.mp accepted
  obtain ⟨_, -, accepted⟩ := bind_eq_ok.mp accepted
  obtain ⟨_, -, accepted⟩ := bind_eq_ok.mp accepted
  obtain ⟨_, -, ⟨⟩⟩ := bind_eq_ok.mp accepted
  rfl

/-- A probe ends its line if it is one of the framebuffer and no closing bracket follows. -/
theorem probe_append {tokens : List Token} {operation : Operation} {form : Form}
    (accepted : probe tokens = .ok operation) (found : operation.form? = some form)
    (unclosed : form = .probe → extra.kind ≠ .closeBracket) :
    probe (tokens ++ extra :: more) = .error (.extraOperand form) := by
  rw [probe] at accepted ⊢
  split at accepted
  · cases (form?_of_probeBuffer accepted).symm.trans found
  · rename_i rest front
    obtain ⟨probe, rfl, -⟩ := probeFramebuffer_eq_ok.mp accepted
    have present : rest ≠ [] := by
      rintro rfl
      cases accepted
    rw [optionalWord_append front present]
    exact ends_probeFramebuffer false (unclosed (Option.some.inj found).symm) _ _ _ accepted found

/-- A relative probe ends its line if no closing bracket follows. -/
theorem relative_append {tokens : List Token} {operation : Operation} {form : Form}
    (accepted : relative tokens = .ok operation) (found : operation.form? = some form)
    (unclosed : form = .probe → extra.kind ≠ .closeBracket) :
    relative (tokens ++ extra :: more) = .error (.extraOperand form) := by
  rw [relative] at accepted ⊢
  split at accepted
  · rename_i rest front
    obtain ⟨probe, rfl, -⟩ := probeFramebuffer_eq_ok.mp accepted
    have present : rest ≠ [] := by
      rintro rfl
      cases accepted
    rw [optionalWord_append front present]
    exact ends_probeFramebuffer true (unclosed (Option.some.inj found).symm) _ _ _ accepted found
  · cases accepted

/-- Values for a uniform buffer are no operation with a form. -/
theorem form?_of_uniform {tokens : List Token} {operation : Operation}
    (accepted : uniform tokens = .ok operation) : operation.form? = none := by
  rw [uniform] at accepted
  split at accepted
  · obtain ⟨_, -, accepted⟩ := bind_eq_ok.mp accepted
    obtain ⟨_, -, ⟨⟩⟩ := bind_eq_ok.mp accepted
    rfl
  · obtain ⟨_, -, ⟨⟩⟩ := bind_eq_ok.mp accepted
    rfl

/-- Tolerances are no operation with a form. -/
theorem form?_of_tolerance {tokens : List Token} {operation : Operation}
    (accepted : tolerance tokens = .ok operation) : operation.form? = none := by
  obtain ⟨tolerances, -, accepted⟩ := bind_eq_ok.mp accepted
  split at accepted
  · cases accepted
  · cases accepted
    rfl
  · cases accepted
    rfl
  · cases accepted

/-- A command with a fixed number of operands is refused if anything follows them. An instanced draw
that leaves out the number of instances still has room for an operand, and a closing bracket behind
a probe is refused as a bracket. -/
theorem readOperation_append {pipeline : Pipeline} {name : String} {tokens : List Token}
    {operation : Operation} {form : Form}
    (accepted : readOperation pipeline name tokens = .ok operation)
    (found : operation.form? = some form) (counted : form = .drawArrays → ¬ OmitsInstances tokens)
    (unclosed : form = .probe → extra.kind ≠ .closeBracket) :
    readOperation pipeline name (tokens ++ extra :: more) = .error (.extraOperand form) := by
  unfold readOperation at accepted ⊢
  split at accepted
  · exact ends_clear _ _ _ accepted found
  · exact draw_append accepted found counted
  · exact ends_compute pipeline _ _ _ accepted found
  · exact ends_patch _ _ _ accepted found
  · exact probe_append accepted found unclosed
  · exact relative_append accepted found unclosed
  · exact ends_storage _ _ _ accepted found
  · cases (form?_of_uniform accepted).symm.trans found
  · cases (form?_of_tolerance accepted).symm.trans found
  · exact ends_tessellation _ _ _ accepted found
  · exact ends_entryPoint _ _ _ _ accepted found
  · exact ends_entryPoint _ _ _ _ accepted found
  · exact ends_entryPoint _ _ _ _ accepted found
  · cases accepted

end Ends

end Command

end GpuScript
