import GpuScript.Decimal.Basic

/-!
# Tokens

A token is a word, a bracket, a percent sign or an end, with the text it was cut from and the line
it stands on. Words that read as numbers are classified once, when they are cut: a hexadecimal
integer of 64 bits, a signed decimal integer of 64 bits, or a decimal number. A word such as `inf`
never reads as a number.
-/

namespace GpuScript

open Text

/-- What a token is. -/
inductive TokenKind where
  /-- The end of the text. -/
  | endOfData
  /-- The end of a line. -/
  | endOfLine
  /-- A word that is not a number. -/
  | word
  /-- A decimal integer. -/
  | integer (value : Int64)
  /-- A hexadecimal integer. -/
  | hex (value : UInt64)
  /-- A decimal number that is not a decimal integer of 64 bits. -/
  | double (value : Double)
  /-- An opening round bracket. -/
  | openBracket
  /-- A closing round bracket. -/
  | closeBracket
  /-- A percent sign. -/
  | percent
  deriving DecidableEq

/-- A token of a script. -/
structure Token where
  /-- What the token is. -/
  kind : TokenKind
  /-- The text that the token was cut from. -/
  text : String
  /-- The line on which the token stands. -/
  line : Nat
  deriving DecidableEq

namespace TokenKind

/-- The kind ends a line: it is the end of a line or of the text. -/
def isEnd : TokenKind → Bool
  | endOfData | endOfLine => true
  | _ => false

/-- The kind is an integer, decimal or hexadecimal. -/
def isInteger : TokenKind → Bool
  | integer _ | hex _ => true
  | _ => false

/-- The kind is a decimal number that is not an integer of 64 bits. -/
def isDouble : TokenKind → Bool
  | double _ => true
  | _ => false

/-- The value of an integer, decimal or hexadecimal. -/
def integerValue? : TokenKind → Option Int
  | integer value => some value.toInt
  | hex value => some value.toNat
  | _ => none

/-- The value of an integer that fits an unsigned word of 32 bits. -/
def word32? (kind : TokenKind) : Option UInt32 :=
  match kind.integerValue? with
  | some value => if 0 ≤ value ∧ value < UInt32.size then some (UInt32.ofNat value.toNat) else none
  | none => none

/-- The nearest floating-point number of any numeric kind. -/
def toDouble? : TokenKind → Option Double
  | integer value => some (Binary.ofInt value.toInt)
  | hex value => some (Binary.ofInt value.toNat)
  | double value => some value
  | _ => none

/-- The nearest floating-point number of a decimal kind; hexadecimal integers are refused. -/
def decimalDouble? : TokenKind → Option Double
  | integer value => some (Binary.ofInt value.toInt)
  | double value => some value
  | _ => none

/-- A word has the first characters of a number: a digit, a sign or point before a digit, or a
sign or point and then a point before a digit. -/
def looksNumeric : List Char → Bool
  | [] => false
  | first :: rest =>
    if isDigit first then
      true
    else if first = '-' ∨ first = '+' ∨ first = '.' then
      match rest with
      | [] => false
      | second :: others =>
        if isDigit second then true
        else if second = '.' then others.head?.any isDigit
        else false
    else
      false

/-- The digits of a word that opens with `0x` in either case. -/
def hexDigits? : List Char → Option (List Char)
  | '0' :: mark :: digits => if mark = 'x' ∨ mark = 'X' then some digits else none
  | _ => none

/-- The kind of a decimal word: an integer if it has 64 bits, else a decimal number. -/
def ofDecimalWord (word : List Char) : TokenKind :=
  match (integer? word).filter fun value =>
      Int64.minValue.toInt ≤ value ∧ value ≤ Int64.maxValue.toInt with
  | some value => .integer (Int64.ofInt value)
  | none =>
    match Decimal.parse? word with
    | some decimal => .double (decimal.round .double)
    | none => .word

/-- The kind of a word. -/
def ofWord (word : List Char) : TokenKind :=
  match hexDigits? word with
  | some digits =>
    match (natural? 16 digits).filter (· < UInt64.size) with
    | some value => .hex (UInt64.ofNat value)
    | none => .word
  | none => if looksNumeric word then ofDecimalWord word else .word

end TokenKind

namespace Token

/-- A token as messages show it. -/
def display (token : Token) : String :=
  match token.kind with
  | .endOfData => "end of data"
  | .endOfLine => "end of line"
  | _ => token.text

/-- The text of a token that is a word; nothing for other tokens. -/
def word? (token : Token) : Option String :=
  match token.kind with
  | .word => some token.text
  | _ => none

/-- The token is the given word. -/
def isWord (text : String) (token : Token) : Bool :=
  token.kind = .word && token.text == text

end Token

end GpuScript
