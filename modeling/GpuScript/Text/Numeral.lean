/-!
# Numerals

Digits in a base up to sixteen, natural numbers written with them, and the two forms in which
scripts hold integers: a bounded unsigned number with an optional plus sign, and a bounded signed
decimal number.
-/

namespace GpuScript.Text

/-- The value of a digit: decimal digits first, then the letters from `a` in either case. -/
def digitValue? (base : Nat) (character : Char) : Option Nat :=
  let code := character.toNat
  let value :=
    if 48 ≤ code ∧ code ≤ 57 then code - 48
    else if 97 ≤ code ∧ code ≤ 102 then code - 87
    else if 65 ≤ code ∧ code ≤ 70 then code - 55
    else base
  if value < base then some value else none

/-- A character that is a decimal digit. -/
def isDigit (character : Char) : Bool :=
  (digitValue? 10 character).isSome

/-- A character that is a hexadecimal digit. -/
def isHexDigit (character : Char) : Bool :=
  (digitValue? 16 character).isSome

/-- The number that a run of digits continues: every digit shifts the number before it by one
place. -/
def continueNatural? (base : Nat) : Nat → List Char → Option Nat
  | value, [] => some value
  | value, character :: rest =>
    match digitValue? base character with
    | some digit => continueNatural? base (value * base + digit) rest
    | none => none

/-- The number written by a non-empty run of digits. -/
def natural? (base : Nat) : List Char → Option Nat
  | [] => none
  | digits => continueNatural? base 0 digits

/-- A number below a limit, written with an optional plus sign. -/
def unsigned? (base limit : Nat) (text : List Char) : Option Nat :=
  let digits := match text with
    | '+' :: rest => rest
    | other => other
  (natural? base digits).filter (· < limit)

/-- A sign, if the text opens with one, and the rest; `true` stands for minus. -/
def splitSign : List Char → Bool × List Char
  | '-' :: rest => (true, rest)
  | '+' :: rest => (false, rest)
  | other => (false, other)

/-- A decimal integer with an optional sign, not bounded. -/
def integer? (text : List Char) : Option Int :=
  let (negative, digits) := splitSign text
  (natural? 10 digits).map fun magnitude => if negative then -(magnitude : Int) else magnitude

/-- An unsigned number of at most 32 bits in decimal, with an optional plus sign. -/
def word32? (text : List Char) : Option UInt32 :=
  (unsigned? 10 UInt32.size text).map UInt32.ofNat

/-- An unsigned number of at most 32 bits in hexadecimal, with an optional plus sign. -/
def hexWord32? (text : List Char) : Option UInt32 :=
  (unsigned? 16 UInt32.size text).map UInt32.ofNat

/-- The decimal digits of a natural number, without leading zeros. -/
def decimalDigits (value : Nat) : List Char :=
  Nat.toDigits 10 value

/-- The decimal text of a natural number. -/
def decimalText (value : Nat) : String :=
  String.ofList (decimalDigits value)

/-- The decimal text of an integer: a minus sign and the magnitude if it is negative. -/
def integerText (value : Int) : String :=
  if value < 0 then "-" ++ decimalText value.natAbs else decimalText value.natAbs

end GpuScript.Text
