import GpuScript.Decimal.Shortest
import GpuScript.Token.Basic

/-!
# Typed values

A value is a single number of a script, stored with the width that its declared type asks for:
integers in 8, 16, 32 or 64 bits, floating-point numbers in the format with 32 or 64 bits. A
declared width that is none of these is stored in the next one up.

Integers that do not fit wrap around: what is stored is congruent to what was written modulo two to
the storage width.
-/

namespace GpuScript

open Text

/-- The three kinds of number that a type can have as its components. -/
inductive BaseType where
  /-- Signed integers. -/
  | signed
  /-- Unsigned integers. -/
  | unsigned
  /-- Floating-point numbers. -/
  | float
  deriving DecidableEq

/-- The storage widths of integers. -/
inductive Width where
  /-- One byte. -/
  | w8
  /-- Two bytes. -/
  | w16
  /-- Four bytes. -/
  | w32
  /-- Eight bytes. -/
  | w64
  deriving DecidableEq

namespace Width

/-- The number of bits of a storage width. -/
def bits : Width → Nat
  | w8 => 8
  | w16 => 16
  | w32 => 32
  | w64 => 64

/-- The smallest storage width that holds a number of bits; none for no bits and for more than
64. -/
def ofBits? (bits : Nat) : Option Width :=
  if bits = 0 then none
  else if bits ≤ 8 then some w8
  else if bits ≤ 16 then some w16
  else if bits ≤ 32 then some w32
  else if bits ≤ 64 then some w64
  else none

end Width

/-- The smallest floating-point format that holds a number of bits; none for no bits and for more
than 64. Sixteen bits are stored in 32. -/
def Precision.ofBits? (bits : Nat) : Option Precision :=
  if bits = 0 then none
  else if bits ≤ 32 then some .single
  else if bits ≤ 64 then some .double
  else none

/-- A single number of a script. -/
inductive Value where
  /-- A signed integer. -/
  | signed (width : Width) (bits : BitVec width.bits)
  /-- An unsigned integer. -/
  | unsigned (width : Width) (bits : BitVec width.bits)
  /-- A floating-point number. -/
  | float (precision : Precision) (number : Binary precision)
  deriving DecidableEq

namespace Value

/-- The value that a token stands for under a type. Floating-point types refuse hexadecimal
integers, integer types refuse numbers that are not integers. -/
def ofToken? (base : BaseType) (bits : Nat) (token : Token) : Option Value :=
  match base with
  | .float =>
    match token.kind.decimalDouble?, Precision.ofBits? bits with
    | some number, some precision => some (.float precision (number.convert precision))
    | _, _ => none
  | .signed =>
    match token.kind.integerValue?, Width.ofBits? bits with
    | some number, some width => some (.signed width (BitVec.ofInt width.bits number))
    | _, _ => none
  | .unsigned =>
    match token.kind.integerValue?, Width.ofBits? bits with
    | some number, some width => some (.unsigned width (BitVec.ofInt width.bits number))
    | _, _ => none

/-- The kind of number that a value is. -/
def base : Value → BaseType
  | signed _ _ => .signed
  | unsigned _ _ => .unsigned
  | float _ _ => .float

/-- The number of bits that store a value. -/
def bits : Value → Nat
  | signed width _ => width.bits
  | unsigned width _ => width.bits
  | float precision _ => precision.bits

/-- The value is not a floating-point number. -/
def isInteger (value : Value) : Bool :=
  value.base != .float

/-- The value is a floating-point number. -/
def isFloat (value : Value) : Bool :=
  value.base == .float

/-- The value as a signed integer of another width: integers wrap, floating-point numbers lose
their fraction and stop at the bounds. -/
def toSigned (target : Width) : Value → Int
  | signed _ bits => (BitVec.ofInt target.bits bits.toInt).toInt
  | unsigned _ bits => (BitVec.ofInt target.bits bits.toNat).toInt
  | float _ number =>
    let half : Int := Nat.pow 2 (target.bits - 1)
    number.truncateBetween (-half) (half - 1)

/-- The value as an unsigned integer of another width: integers wrap, floating-point numbers lose
their fraction and stop at the bounds. -/
def toUnsigned (target : Width) : Value → Nat
  | signed _ bits => (BitVec.ofInt target.bits bits.toInt).toNat
  | unsigned _ bits => (BitVec.ofInt target.bits bits.toNat).toNat
  | float _ number => (number.truncateBetween 0 (Nat.pow 2 target.bits - 1 : Nat)).toNat

/-- The value as the nearest floating-point number of a format. -/
def toBinary (target : Precision) : Value → Binary target
  | signed _ bits => Binary.ofInt bits.toInt
  | unsigned _ bits => Binary.ofInt bits.toNat
  | float _ number => number.convert target

/-- The text of a value: an integer in decimal, a floating-point number in its shortest decimal
form. -/
def text : Value → String
  | signed _ bits => integerText bits.toInt
  | unsigned _ bits => integerText bits.toNat
  | float _ number => number.text

/-- Values are equal when they are stored in the same way and are the same number. -/
def equal : Value → Value → Bool
  | signed leftWidth left, signed rightWidth right =>
    leftWidth == rightWidth && left.toInt == right.toInt
  | unsigned leftWidth left, unsigned rightWidth right =>
    leftWidth == rightWidth && left.toNat == right.toNat
  | float .single left, float .single right => left == right
  | float .double left, float .double right => left == right
  | _, _ => false

instance : BEq Value := ⟨equal⟩

end Value

end GpuScript
