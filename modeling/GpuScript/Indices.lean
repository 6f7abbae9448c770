import GpuScript.Token.Line

/-!
# Index sections

The indices of the vertices of an indexed draw: every token is one, with 16 bits.
-/

namespace GpuScript.Indices

open Text

/-- Why a token is refused as an index. -/
inductive Error where
  /-- The token is an unsigned integer of more than 16 bits. -/
  | tooLarge
  /-- The token is no unsigned integer. -/
  | invalid
  deriving DecidableEq

namespace Error

/-- The message for a cause. -/
def message : Error → String
  | tooLarge => "Value too large in indices block"
  | invalid => "Invalid value in indices block"

end Error

/-- The text writes an unsigned integer of any size: an optional plus sign and digits, decimal or
hexadecimal ones after `0x`. -/
def isUnsignedLiteral (text : List Char) : Bool :=
  let unsigned := match text with
    | '+' :: rest => rest
    | other => other
  match TokenKind.hexDigits? unsigned with
  | some digits => !digits.isEmpty && digits.all isHexDigit
  | none => !unsigned.isEmpty && unsigned.all isDigit

/-- An index that is known to be an unsigned integer. -/
def ofNat? (value : Nat) : Except Error UInt16 :=
  if value < UInt16.size then .ok (UInt16.ofNat value) else .error .tooLarge

/-- The index that a token stands for. -/
def ofToken (token : Token) : Except Error UInt16 :=
  match token.kind with
  | .integer value => if 0 ≤ value.toInt then ofNat? value.toInt.toNat else .error .invalid
  | .hex value => ofNat? value.toNat
  | .word | .double _ =>
    if isUnsignedLiteral token.text.toList then .error .tooLarge else .error .invalid
  | _ => .error .invalid

/-- The index that a token stands for, with the line of the token if it is refused. -/
def read (token : Token) : Except (Located Error) UInt16 :=
  (ofToken token).mapError fun cause => ⟨token.line, cause⟩

/-- The indices in the body of a section whose first line has the given number. -/
def parse (text : String) (firstLine : Nat) : Except (Located Error) (List UInt16) :=
  ((Cursor.ofText text firstLine).tokens.filter fun token => !token.kind.isEnd).mapM read

end GpuScript.Indices
