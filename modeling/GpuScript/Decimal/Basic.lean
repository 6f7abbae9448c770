import GpuScript.Binary.Basic
import GpuScript.Text.Numeral

/-!
# Decimal numerals

A decimal numeral is an optional sign, digits with at most one point among or beside them, and an
optional exponent. It stands for a coefficient times a power of ten, and is read as the binary
number nearest to that value.
-/

namespace GpuScript

open Text

/-- The value of a decimal numeral: the coefficient times ten to the exponent, with a sign that
zero keeps. -/
structure Decimal where
  /-- Whether the numeral has a minus sign. -/
  negative : Bool
  /-- All digits of the numeral, read without the point. -/
  coefficient : Nat
  /-- The power of ten of the last digit. -/
  exponent : Int
  deriving DecidableEq

namespace Decimal

/-- The exponent part of a numeral: nothing, or `e` in either case and an integer. -/
def exponentPart? : List Char → Option Int
  | [] => some 0
  | character :: rest =>
    if character = 'e' ∨ character = 'E' then integer? rest else none

/-- The parts of an unsigned numeral: the digits before the point, those after it, and the rest. -/
def splitPoint (text : List Char) : List Char × List Char × List Char :=
  let whole := text.takeWhile isDigit
  match text.dropWhile isDigit with
  | '.' :: rest => (whole, rest.takeWhile isDigit, rest.dropWhile isDigit)
  | rest => (whole, [], rest)

/-- The value that a decimal numeral stands for; `none` for any other text. -/
def parse? (text : List Char) : Option Decimal :=
  let (negative, unsigned) := splitSign text
  let (whole, fraction, rest) := splitPoint unsigned
  match natural? 10 (whole ++ fraction), exponentPart? rest with
  | some coefficient, some exponent =>
    some ⟨negative, coefficient, exponent - (fraction.length : Int)⟩
  | _, _ => none

/-- The decimal exponent beyond which every coefficient of a given length is infinite or zero in
both formats. -/
def exponentLimit : Int := 400

/-- The binary number nearest to a decimal value. Values beyond the range of both formats are
settled by their decimal order alone, so that no huge power of ten is formed. -/
def round (precision : Precision) (decimal : Decimal) : Binary precision :=
  let order := decimal.exponent + ((decimalDigits decimal.coefficient).length : Int)
  if decimal.coefficient = 0 ∨ order < -exponentLimit then
    Binary.round precision decimal.negative 0 1
  else if exponentLimit < order then
    .infinite decimal.negative
  else if 0 ≤ decimal.exponent then
    Binary.round precision decimal.negative
      (decimal.coefficient * Nat.pow 10 decimal.exponent.toNat) 1
  else
    Binary.round precision decimal.negative decimal.coefficient
      (Nat.pow 10 (-decimal.exponent).toNat)

end Decimal

end GpuScript
