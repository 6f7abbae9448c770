import GpuScript.Command.Form
import GpuScript.Proofs.Token.Pulling
import GpuScript.Proofs.Token.Words

/-!
# Operands pulled from one cursor

The operands of commands, each as it pulls its tokens from a cursor that knows nothing of logical
lines. Most take the next token, whatever it is, and refuse it if it is the end of the line; some
look at it first and leave it where it is. None of them moves the cursor off its line: each comes to
the same as the reader of the tokens that are left on the line (`Cursor.PulledAs`). The values of a
buffer and the tolerances run up to the end of the line and pass over it, and leave the cursor
behind the line (`Cursor.behindLine`).
-/

namespace GpuScript

/-- An end is no number. -/
theorem TokenKind.toDouble?_of_isEnd {kind : TokenKind} (ended : kind.isEnd = true) :
    kind.toDouble? = none := by
  rcases isEnd_iff.mp ended with same | same <;> rw [same] <;> rfl

/-- An end is no word. -/
theorem Token.word?_of_isEnd {token : Token} (ended : token.kind.isEnd = true) :
    token.word? = none := by
  rcases TokenKind.isEnd_iff.mp ended with same | same <;> rw [word?, same]

/-- An end is not a given word. -/
theorem Token.not_isWord_of_isEnd {token : Token} (ended : token.kind.isEnd = true)
    (text : String) : ¬ token.isWord text = true := by
  rw [isWord_iff, word?_of_isEnd ended]
  exact nofun

namespace Command

open Cursor Text

section Single

variable {α : Type}

/-- The value of the next token. -/
def pullValue (cause : Error) (value? : Token → Option α) :
    Cursor → Except Error (α × Cursor) :=
  pullOperand fun token => orError cause (value? token)

/-- The value of the next token; the end of the line is refused for a cause of its own. -/
def pullPresent (missing invalid : Error) (value? : Token → Option α) :
    Cursor → Except Error (α × Cursor) :=
  pullOperand fun token =>
    if token.kind.isEnd then .error missing else orError invalid (value? token)

/-- The value of the next token stays on its line if no end of a line has one. -/
theorem pullValue_pulledAs {cause : Error} {value? : Token → Option α}
    {read : List Token → Reading α} (ended : ∀ token, token.kind.isEnd = true → value? token = none)
    (empty : read [] = .error cause)
    (going : ∀ token rest,
      read (token :: rest) = (orError cause (value? token)).map fun value => (value, rest))
    (cursor : Cursor) :
    cursor.PulledAs (pullValue cause value? cursor) (read cursor.restOfLine) := by
  refine pullOperand_pulledAs (fun token final => ⟨cause, ?_, empty⟩)
    (fun token rest _ => going token rest) cursor
  rw [ended token final]
  rfl

/-- The value of the next token stays on its line if the end of the line is refused. -/
theorem pullPresent_pulledAs {missing invalid : Error} {value? : Token → Option α}
    {read : List Token → Reading α} (empty : read [] = .error missing)
    (going : ∀ token rest,
      read (token :: rest) = (orError invalid (value? token)).map fun value => (value, rest))
    (cursor : Cursor) :
    cursor.PulledAs (pullPresent missing invalid value? cursor) (read cursor.restOfLine) := by
  refine pullOperand_pulledAs (fun token final => ⟨missing, if_pos final, empty⟩)
    (fun token rest inner => ?_) cursor
  rw [going, if_neg (Bool.eq_false_iff.mp inner)]

/-- At the end of a line a value is missing. -/
theorem pullPresent_of_isEnd {cursor : Cursor} (ended : cursor.next.1.kind.isEnd = true)
    (missing invalid : Error) (value? : Token → Option α) :
    pullPresent missing invalid value? cursor = .error missing := by
  dsimp only [pullPresent, pullOperand]
  rw [if_pos ended]
  rfl

/-- Before the end of a line a value is pulled as one that may be missing. -/
theorem pullPresent_of_not_isEnd {cursor : Cursor} (going : ¬ cursor.next.1.kind.isEnd = true)
    (missing invalid : Error) (value? : Token → Option α) :
    pullPresent missing invalid value? cursor = pullValue invalid value? cursor := by
  dsimp only [pullPresent, pullValue, pullOperand]
  rw [if_neg going]

/-- What opens with a value that may not be missing is pulled from a line as it is read, if what
follows the value is. -/
theorem pullPresent_bind_line {β : Type} {missing invalid : Error} {value? : Token → Option α}
    {cursor : Cursor} {read : List Token → Except Error (α × List Token)}
    {form : List Token → Except Error β} {next : α × Cursor → Except Error (β × Cursor)}
    {further : α × List Token → Except Error β}
    (operand : cursor.PulledAs (pullValue invalid value? cursor) (read cursor.restOfLine))
    (empty : form [] = .error missing)
    (opens : ∀ token rest, form (token :: rest) = read (token :: rest) >>= further)
    (others : ∀ value after,
      next (value, after) = after.behindLine (further (value, after.restOfLine))) :
    (pullPresent missing invalid value? cursor >>= next) =
      cursor.behindLine (form cursor.restOfLine) := by
  by_cases ended : cursor.next.1.kind.isEnd = true
  · rw [pullPresent_of_isEnd ended, restOfLine_of_isEnd ended, empty]
    rfl
  · rw [restOfLine_of_not_isEnd ended] at operand ⊢
    rw [pullPresent_of_not_isEnd ended, opens]
    exact operand.bind_line others

end Single

/-- A number. -/
def pullNumber : Cursor → Except Error (Single × Cursor) :=
  pullValue .invalidNumber fun token => token.kind.toDouble?.map Binary.toSingle

/-- An unsigned word. -/
def pullWord (cause : Error) : Cursor → Except Error (UInt32 × Cursor) :=
  pullValue cause fun token => token.kind.word32?

/-- A binding. -/
def pullBinding (command : BindingCommand) : Cursor → Except Error (Binding × Cursor) :=
  pullValue (.invalidBinding command) bindingOf?

/-- A type of buffer data. -/
def pullDatumType (command : DataCommand) : Cursor → Except Error (DatumType × Cursor) :=
  pullOperand fun token =>
    match token.word? with
    | some name => orError (.unknownType name) (DatumType.ofName? name)
    | none => .error (if token.kind.isEnd then .missingType command else .unknownType token.text)

/-- A topology by one of the names that draws use. -/
def pullTopology : Cursor → Except Error (Topology × Cursor) :=
  pullOperand fun token =>
    match token.word? with
    | some name => orError (.unknownTopology name) (Topology.ofDrawName? name)
    | none => .error .missingTopology

/-- The next word of a probe. -/
def pullProbeWord : Cursor → Except Error (String × Cursor) :=
  pullValue .invalidProbeWord Token.word?

/-- The offset of a probe of a storage buffer. -/
def pullProbeOffset : Cursor → Except Error (UInt32 × Cursor) :=
  pullOperand fun token =>
    if token.kind.toDouble?.isSome then orError .invalidProbeOffset token.kind.word32?
    else .error .probeOffsetNotNumber

/-- A comparator. -/
def pullComparator : Cursor → Except Error (Comparator × Cursor) :=
  pullValue .invalidComparator fun token => token.word?.bind Comparator.ofSymbol?

/-- Two numbers. -/
def pullPair (cursor : Cursor) : Except Error ((Single × Single) × Cursor) := do
  let (first, after) ← pullNumber cursor
  let (second, after) ← pullNumber after
  .ok ((first, second), after)

/-- Three numbers. -/
def pullTriple (cursor : Cursor) : Except Error ((Single × Single × Single) × Cursor) := do
  let (first, after) ← pullNumber cursor
  let (others, after) ← pullPair after
  .ok ((first, others), after)

/-- Four numbers. -/
def pullQuadruple (cursor : Cursor) :
    Except Error ((Single × Single × Single × Single) × Cursor) := do
  let (first, after) ← pullNumber cursor
  let (others, after) ← pullTriple after
  .ok ((first, others), after)

/-- Whether the next token is a given word, and the cursor behind it if it is. -/
def pullOptional (word : String) (cursor : Cursor) : Bool × Cursor :=
  if cursor.peek.isWord word then (true, cursor.next.2) else (false, cursor)

/-- A value and the closing bracket behind it. -/
def pullClosing {α : Type} (value : α) (cursor : Cursor) : Except Error (α × Cursor) :=
  if cursor.next.1.kind = .closeBracket then .ok (value, cursor.next.2)
  else .error .missingCloseBracket

/-- A value, unless the line goes on with a closing bracket. -/
def pullNotClosing {α : Type} (value : α) (cursor : Cursor) : Except Error (α × Cursor) :=
  if cursor.peek.kind = .closeBracket then .error .missingOpenBracket else .ok (value, cursor)

/-- A tuple of a probe, in round brackets or without them. -/
def pullBracketed {α : Type} (pull : Cursor → Except Error (α × Cursor)) (cursor : Cursor) :
    Except Error (α × Cursor) :=
  if cursor.peek.kind = .openBracket then do
    let (value, after) ← pull cursor.next.2
    pullClosing value after
  else do
    let (value, after) ← pull cursor
    pullNotClosing value after

/-- The number of instances of a draw, unless the line ends before it. -/
def pullInstances (instanced : Bool) (cursor : Cursor) :
    Except Error (Option UInt32 × Cursor) :=
  if !instanced then
    .ok (none, cursor)
  else if cursor.peek.kind.isEnd then
    .ok (some 0, cursor)
  else
    (pullWord .invalidInstanceCount cursor).map fun (count, after) => (some count, after)

/-- A value of a type, behind those that a line has before it. -/
def addValue (command : DataCommand) (datumType : DatumType) (values : List Value)
    (token : Token) : Except Error (List Value) :=
  match datumType.value? token with
  | some value => .ok (values ++ [value])
  | none => .error (.invalidValue command token.text)

/-- The rest of the line as values of a type, and the end of the line. -/
def pullValues (command : DataCommand) (datumType : DatumType) (cursor : Cursor) :
    Except Error (List Value × Cursor) := do
  let (values, after) ← pullEach (addValue command datumType) [] cursor
  if values.isEmpty ∨ values.length % datumType.elementCount ≠ 0 then
    .error (.incorrectValueCount command)
  else
    .ok (values, after)

/-- The tolerances on the rest of a line, after a number of them, and the end of the line. -/
def pullTolerances (count : Nat) (cursor : Cursor) : Except Error (List Tolerance × Cursor) :=
  if ended : cursor.next.1.kind.isEnd then
    .ok ([], cursor.next.2)
  else
    have := length_next_lt_of_not_isEnd ended
    match cursor.next.1.kind.decimalDouble? with
    | none => .error .invalidTolerance
    | some value =>
      if 4 ≤ count then
        .error (.extraOperand .tolerance)
      else if percent : cursor.next.2.peek.kind = .percent then
        have := length_next_lt cursor.next.2 fun same => nomatch same.symm.trans percent
        (pullTolerances (count + 1) cursor.next.2.next.2).map fun (others, after) =>
          (⟨value, true⟩ :: others, after)
      else
        (pullTolerances (count + 1) cursor.next.2).map fun (others, after) =>
          (⟨value, false⟩ :: others, after)
  termination_by cursor.rest.length

/-- The end of a line is pulled as it is read. -/
theorem pullEnd_eq_finish {α : Type} (cause : Error) (value : α) (cursor : Cursor) :
    pullEnd cause value cursor =
      cursor.behindLine (do finish cause cursor.restOfLine; .ok value) := by
  rw [pullEnd_eq]
  cases cursor.restOfLine <;> rfl

variable (cursor : Cursor)

/-- A number is pulled as it is read. -/
theorem pullNumber_pulledAs : cursor.PulledAs (pullNumber cursor) (number cursor.restOfLine) := by
  refine pullValue_pulledAs (fun token final => ?_) rfl (fun token rest => ?_) cursor
  · rw [TokenKind.toDouble?_of_isEnd final]
    rfl
  · rw [number]
    cases token.kind.toDouble? <;> rfl

/-- An unsigned word is pulled as it is read. -/
theorem pullWord_pulledAs (cause : Error) :
    cursor.PulledAs (pullWord cause cursor) (word cause cursor.restOfLine) := by
  refine pullValue_pulledAs (fun token => TokenKind.word32?_of_isEnd) rfl
    (fun token rest => ?_) cursor
  rw [word]
  cases token.kind.word32? <;> rfl

/-- A binding is pulled as it is read. -/
theorem pullBinding_pulledAs (command : BindingCommand) :
    cursor.PulledAs (pullBinding command cursor) (binding command cursor.restOfLine) := by
  refine pullValue_pulledAs (fun token final => ?_) rfl (fun token rest => ?_) cursor
  · rcases TokenKind.isEnd_iff.mp final with same | same <;> rw [bindingOf?, same] <;> rfl
  · rw [binding]
    cases bindingOf? token <;> rfl

/-- A type of buffer data is pulled as it is read. -/
theorem pullDatumType_pulledAs (command : DataCommand) :
    cursor.PulledAs (pullDatumType command cursor) (datumType command cursor.restOfLine) := by
  refine pullOperand_pulledAs (fun token final => ⟨.missingType command, ?_, rfl⟩)
    (fun token rest inner => ?_) cursor
  · rw [Token.word?_of_isEnd final, if_pos final]
  · rw [datumType]
    cases token.word? with
    | none => rw [if_neg (Bool.eq_false_iff.mp inner)]; rfl
    | some name => cases found : DatumType.ofName? name <;> simp [found, orError, Except.map]

/-- A topology is pulled as it is read. -/
theorem pullTopology_pulledAs :
    cursor.PulledAs (pullTopology cursor) (drawTopology cursor.restOfLine) := by
  refine pullOperand_pulledAs (fun token final => ⟨.missingTopology, ?_, rfl⟩)
    (fun token rest _ => ?_) cursor
  · rw [Token.word?_of_isEnd final]
  · rw [drawTopology]
    cases token.word? with
    | none => rfl
    | some name => cases found : Topology.ofDrawName? name <;> simp [found, orError, Except.map]

/-- A word of a probe is pulled as it is read. -/
theorem pullProbeWord_pulledAs :
    cursor.PulledAs (pullProbeWord cursor) (probeWord cursor.restOfLine) := by
  refine pullValue_pulledAs (fun token => Token.word?_of_isEnd) rfl (fun token rest => ?_) cursor
  rw [probeWord]
  cases token.word? <;> rfl

/-- The offset of a probe is pulled as it is read. -/
theorem pullProbeOffset_pulledAs :
    cursor.PulledAs (pullProbeOffset cursor) (probeOffset cursor.restOfLine) := by
  refine pullOperand_pulledAs (fun token final => ⟨.probeOffsetNotNumber, ?_, rfl⟩)
    (fun token rest _ => ?_) cursor
  · rw [TokenKind.toDouble?_of_isEnd final]
    rfl
  · rw [probeOffset]
    split
    · rw [word]
      cases token.kind.word32? <;> rfl
    · rfl

/-- A comparator is pulled as it is read. -/
theorem pullComparator_pulledAs :
    cursor.PulledAs (pullComparator cursor) (comparator cursor.restOfLine) := by
  refine pullValue_pulledAs (fun token final => ?_) rfl (fun token rest => ?_) cursor
  · rw [Token.word?_of_isEnd final]
    rfl
  · rw [comparator]
    cases token.word?.bind Comparator.ofSymbol? <;> rfl

/-- Two numbers are pulled as they are read. -/
theorem pullPair_pulledAs : cursor.PulledAs (pullPair cursor) (pair cursor.restOfLine) :=
  (pullNumber_pulledAs cursor).bind fun first after =>
    (pullNumber_pulledAs after).bind fun second _ => .taken (first, second) rfl

/-- Three numbers are pulled as they are read. -/
theorem pullTriple_pulledAs : cursor.PulledAs (pullTriple cursor) (triple cursor.restOfLine) :=
  (pullNumber_pulledAs cursor).bind fun first after =>
    (pullPair_pulledAs after).bind fun others _ => .taken (first, others) rfl

/-- Four numbers are pulled as they are read. -/
theorem pullQuadruple_pulledAs :
    cursor.PulledAs (pullQuadruple cursor) (quadruple cursor.restOfLine) :=
  (pullNumber_pulledAs cursor).bind fun first after =>
    (pullTriple_pulledAs after).bind fun others _ => .taken (first, others) rfl

/-- An optional word is pulled as it is read, and stays on its line. -/
theorem exists_pullOptional_eq (word : String) :
    ∃ given after, pullOptional word cursor = (given, after) ∧
      optionalWord word cursor.restOfLine = (given, after.restOfLine) ∧
      after.skipLine.2 = cursor.skipLine.2 := by
  unfold pullOptional
  by_cases ended : cursor.next.1.kind.isEnd = true
  · refine ⟨false, cursor, if_neg (Token.not_isWord_of_isEnd ended word), ?_, rfl⟩
    rw [restOfLine_of_isEnd ended, optionalWord]
  · by_cases same : cursor.peek.isWord word = true
    · refine ⟨true, cursor.next.2, if_pos same, ?_, (skipLine_of_not_isEnd ended).symm⟩
      rw [restOfLine_of_not_isEnd ended, optionalWord]
      exact if_pos same
    · refine ⟨false, cursor, if_neg same, ?_, rfl⟩
      rw [restOfLine_of_not_isEnd ended, optionalWord]
      exact if_neg same

/-- An end is no bracket. -/
theorem kind_ne_of_isEnd {cursor : Cursor} {kind : TokenKind}
    (ended : cursor.next.1.kind.isEnd = true) (inner : kind.isEnd = false) :
    cursor.next.1.kind ≠ kind := by
  rintro rfl
  rw [ended] at inner
  cases inner

section Bracketed

variable {α : Type}

/-- A closing bracket is pulled as it is read. -/
theorem pullClosing_pulledAs (value : α) :
    cursor.PulledAs (pullClosing value cursor)
      (do let rest ← closing cursor.restOfLine; .ok (value, rest)) := by
  unfold pullClosing
  by_cases ended : cursor.next.1.kind.isEnd = true
  · rw [if_neg (kind_ne_of_isEnd ended rfl), restOfLine_of_isEnd ended]
    exact .refused Error.missingCloseBracket
  · rw [restOfLine_of_not_isEnd ended, closing]
    by_cases closes : cursor.next.1.kind = .closeBracket
    · rw [if_pos closes, if_pos closes]
      exact .taken value (skipLine_of_not_isEnd ended).symm
    · rw [if_neg closes, if_neg closes]
      exact .refused Error.missingCloseBracket

/-- The next token is looked at for a closing bracket as it is read. -/
theorem pullNotClosing_pulledAs (value : α) :
    cursor.PulledAs (pullNotClosing value cursor)
      (do let rest ← notClosing cursor.restOfLine; .ok (value, rest)) := by
  have still : cursor.PulledAs _ (.ok (value, cursor.restOfLine) : Reading α) := .stay value
  unfold pullNotClosing
  by_cases ended : cursor.next.1.kind.isEnd = true
  · rw [peek, if_neg (kind_ne_of_isEnd ended rfl)]
    rw [restOfLine_of_isEnd ended] at still ⊢
    exact still
  · rw [restOfLine_of_not_isEnd ended] at still ⊢
    rw [notClosing, peek]
    by_cases closes : cursor.next.1.kind = .closeBracket
    · rw [if_pos closes, if_pos closes]
      exact .refused Error.missingOpenBracket
    · rw [if_neg closes, if_neg closes]
      exact still

/-- A tuple is pulled in brackets or without them as it is read, if what stands in it is and may not
be left out. -/
theorem pullBracketed_pulledAs {pull : Cursor → Except Error (α × Cursor)}
    {read : List Token → Except Error (α × List Token)}
    (agree : ∀ cursor : Cursor, cursor.PulledAs (pull cursor) (read cursor.restOfLine))
    {cause : Error} (empty : read [] = .error cause) :
    cursor.PulledAs (pullBracketed pull cursor) (bracketed read cursor.restOfLine) := by
  have whole := agree cursor
  unfold pullBracketed
  by_cases ended : cursor.next.1.kind.isEnd = true
  · rw [restOfLine_of_isEnd ended, empty] at whole
    rw [peek, if_neg (kind_ne_of_isEnd ended rfl), whole.eq_error, restOfLine_of_isEnd ended,
      bracketed, empty]
    exact .refused cause
  · rw [restOfLine_of_not_isEnd ended] at whole ⊢
    rw [bracketed, peek]
    by_cases opens : cursor.next.1.kind = .openBracket
    · rw [if_pos opens, if_pos opens]
      refine PulledAs.of_same (skipLine_of_not_isEnd ended).symm ?_
      exact (agree cursor.next.2).bind fun value after => pullClosing_pulledAs after value
    · rw [if_neg opens, if_neg opens]
      exact whole.bind fun value after => pullNotClosing_pulledAs after value

end Bracketed

/-- The number of instances is pulled as it is read. -/
theorem pullInstances_pulledAs (instanced : Bool) :
    cursor.PulledAs (pullInstances instanced cursor)
      (instanceCount instanced cursor.restOfLine) := by
  cases instanced with
  | false => exact .taken none rfl
  | true =>
    unfold pullInstances
    rw [if_neg (by decide), peek]
    by_cases ended : cursor.next.1.kind.isEnd = true
    · have still : cursor.PulledAs _
          (.ok (some 0, cursor.restOfLine) : Reading (Option UInt32)) := .stay (some 0)
      rw [restOfLine_of_isEnd ended] at still ⊢
      rw [if_pos ended]
      exact still
    · have count := (pullWord_pulledAs cursor .invalidInstanceCount).map some
      rw [restOfLine_of_not_isEnd ended] at count ⊢
      rw [if_neg ended]
      exact count

/-- Values that are added one by one are those that the tokens stand for, in order. -/
theorem foldlM_addValue (command : DataCommand) (type : DatumType) (before : List Value)
    (tokens : List Token) :
    tokens.foldlM (addValue command type) before =
      (componentValues command type tokens).map (before ++ ·) := by
  induction tokens generalizing before with
  | nil =>
    rw [componentValues, List.foldlM_nil, Except.map, List.append_nil]
    rfl
  | cons token rest ih =>
    rw [List.foldlM_cons, addValue, componentValues]
    cases type.value? token with
    | none => rfl
    | some value =>
      rw [ok_bind, ih, map_map]
      simp only [List.append_assoc, List.singleton_append]

/-- The values on the rest of a line are pulled as they are read, and the end of the line. -/
theorem pullValues_eq (command : DataCommand) (type : DatumType) :
    pullValues command type cursor =
      cursor.behindLine (values command type cursor.restOfLine) := by
  rw [pullValues, pullEach_eq, foldlM_addValue, values]
  cases componentValues command type cursor.restOfLine with
  | error cause => rfl
  | ok found =>
    rw [behindLine, Except.map, Except.map, ok_bind, List.nil_append]
    dsimp only
    split <;> rfl

/-- The tolerances on the rest of a line are pulled as they are read, and the end of the line. -/
theorem pullTolerances_eq (count : Nat) :
    pullTolerances count cursor = cursor.behindLine (toleranceList count cursor.restOfLine) := by
  fun_induction pullTolerances count cursor with
  | case1 count cursor ended =>
    rw [restOfLine_of_isEnd ended, toleranceList, behindLine, skipLine_of_isEnd ended]
    rfl
  | case2 count cursor going _ none =>
    rw [restOfLine_of_not_isEnd going, toleranceList, none]
    rfl
  | case3 count cursor going _ value found full =>
    rw [restOfLine_of_not_isEnd going, toleranceList, found]
    dsimp only
    rw [if_pos full]
    rfl
  | case4 count cursor going _ value found room percent _ ih =>
    rw [peek] at percent
    have inner : ¬ cursor.next.2.next.1.kind.isEnd = true := fun ended =>
      kind_ne_of_isEnd ended rfl percent
    rw [ih, map_behindLine, behindLine_next inner, behindLine_next going,
      restOfLine_of_not_isEnd going, restOfLine_of_not_isEnd inner, toleranceList, found]
    dsimp only
    rw [if_neg room, if_pos percent]
  | case5 count cursor going _ value found room plain ih =>
    rw [peek] at plain
    rw [ih, map_behindLine, behindLine_next going, restOfLine_of_not_isEnd going]
    by_cases ended : cursor.next.2.next.1.kind.isEnd = true
    · rw [restOfLine_of_isEnd ended, toleranceList, toleranceList, found]
      dsimp only
      rw [if_neg room]
      rfl
    · rw [restOfLine_of_not_isEnd ended, toleranceList.eq_def count]
      dsimp only
      rw [found]
      dsimp only
      rw [if_neg room, if_neg plain]

end Command

end GpuScript
