import GpuScript.Command.Error
import GpuScript.DatumType
import GpuScript.Operation.Basic
import GpuScript.Token.Line

/-!
# Operands of commands

Readers of single operands. A reader takes the tokens that are left on a line and gives the operand
and the tokens after it, or the cause why the line is refused. No reader sees beyond its line.
-/

namespace GpuScript.Command

open Text

/-- The result of a reader: an operand and the tokens after it, or a cause. -/
abbrev Reading (α : Type) : Type := Except Error (α × List Token)

/-- Whether the next token is a given word, and the tokens after it if it is. -/
def optionalWord (word : String) : List Token → Bool × List Token
  | [] => (false, [])
  | token :: rest => if token.isWord word then (true, rest) else (false, token :: rest)

/-- A number of any notation, narrowed to 32 bits. -/
def number : List Token → Reading Single
  | [] => .error .invalidNumber
  | token :: rest =>
    match token.kind.toDouble? with
    | some value => .ok (value.toSingle, rest)
    | none => .error .invalidNumber

/-- An unsigned word; the cause is that of the command. -/
def word (cause : Error) : List Token → Reading UInt32
  | [] => .error cause
  | token :: rest =>
    match token.kind.word32? with
    | some value => .ok (value, rest)
    | none => .error cause

/-- The end of the line; the cause is that of the command. -/
def finish (cause : Error) : List Token → Except Error Unit
  | [] => .ok ()
  | _ :: _ => .error cause

/-- The binding that a token stands for: a number is a binding of the first set, a word is a set
and a binding with a colon between them. -/
def bindingOf? (token : Token) : Option Binding :=
  match token.kind with
  | .word =>
    let text := token.text.toList
    match text.dropWhile (· ≠ ':') with
    | [] => none
    | _ :: after =>
      match word32? (text.takeWhile (· ≠ ':')), word32? after with
      | some set, some index => some ⟨set, index⟩
      | _, _ => none
  | kind => kind.word32?.map fun index => ⟨0, index⟩

/-- A binding; the cause names the command. -/
def binding (command : BindingCommand) : List Token → Reading Binding
  | [] => .error (.invalidBinding command)
  | token :: rest =>
    match bindingOf? token with
    | some value => .ok (value, rest)
    | none => .error (.invalidBinding command)

/-- A type of buffer data. -/
def datumType (command : DataCommand) : List Token → Reading DatumType
  | [] => .error (.missingType command)
  | token :: rest =>
    match token.word? with
    | none => .error (.unknownType token.text)
    | some name =>
      match DatumType.ofName? name with
      | some value => .ok (value, rest)
      | none => .error (.unknownType name)

/-- The values that tokens stand for as components of a type. -/
def componentValues (command : DataCommand) (datumType : DatumType) :
    List Token → Except Error (List Value)
  | [] => .ok []
  | token :: rest =>
    match datumType.value? token with
    | some value => (componentValues command datumType rest).map (value :: ·)
    | none => .error (.invalidValue command token.text)

/-- The rest of the line as values of a type: one datum or more, all of them whole. -/
def values (command : DataCommand) (datumType : DatumType) (tokens : List Token) :
    Except Error (List Value) :=
  match componentValues command datumType tokens with
  | .error cause => .error cause
  | .ok values =>
    if values.isEmpty ∨ values.length % datumType.elementCount ≠ 0 then
      .error (.incorrectValueCount command)
    else
      .ok values

/-- Two numbers. -/
def pair (tokens : List Token) : Except Error ((Single × Single) × List Token) := do
  let (first, tokens) ← number tokens
  let (second, tokens) ← number tokens
  .ok ((first, second), tokens)

/-- Three numbers. -/
def triple (tokens : List Token) : Except Error ((Single × Single × Single) × List Token) := do
  let (first, tokens) ← number tokens
  let (others, tokens) ← pair tokens
  .ok ((first, others), tokens)

/-- Four numbers. -/
def quadruple (tokens : List Token) :
    Except Error ((Single × Single × Single × Single) × List Token) := do
  let (first, tokens) ← number tokens
  let (others, tokens) ← triple tokens
  .ok ((first, others), tokens)

/-- The tokens after a closing bracket. -/
def closing : List Token → Except Error (List Token)
  | [] => .error .missingCloseBracket
  | token :: rest => if token.kind = .closeBracket then .ok rest else .error .missingCloseBracket

/-- The tokens as they are, unless they go on with a closing bracket. -/
def notClosing : List Token → Except Error (List Token)
  | [] => .ok []
  | token :: rest =>
    if token.kind = .closeBracket then .error .missingOpenBracket else .ok (token :: rest)

/-- A tuple of a probe: what a reader takes, in round brackets or without them. -/
def bracketed {α : Type} (read : List Token → Except Error (α × List Token)) :
    List Token → Except Error (α × List Token)
  | [] => read []
  | token :: rest =>
    if token.kind = .openBracket then do
      let (value, rest) ← read rest
      let rest ← closing rest
      .ok (value, rest)
    else do
      let (value, rest) ← read (token :: rest)
      let rest ← notClosing rest
      .ok (value, rest)

end GpuScript.Command
