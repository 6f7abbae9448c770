import GpuScript.Binary.Basic
import GpuScript.Text.Numeral

/-!
# Shortest decimal text of a binary number

Every finite positive number stands for the interval of reals that round to it. Its shortest
decimal is taken from the coarsest grid of powers of ten with a point in that interval: of the two
grid points next to the number the nearer one, and one of both by a rule when they are equally
near.

Two layouts write the digits without an exponent: a plain one, in which a whole number has no
point and a tie goes up, and one with a fraction digit always, in which a tie goes to the even
digit.
-/

namespace GpuScript

open Text

/-- Which of two equally near decimals is taken. -/
inductive TieRule where
  /-- The greater one. -/
  | up
  /-- The one with the even last digit. -/
  | even
  deriving DecidableEq

namespace Binary

/-- The reals that round to a magnitude, all bounds over one denominator. -/
structure Neighbourhood where
  /-- The lower bound. -/
  low : Nat
  /-- The magnitude itself. -/
  centre : Nat
  /-- The upper bound. -/
  high : Nat
  /-- The common denominator. -/
  denominator : Nat
  /-- Whether the bounds themselves round to the magnitude. -/
  closed : Bool

namespace Neighbourhood

/-- The interval of the magnitude with a rank. Below a power of two the step to the next smaller
number is half as long; bounds go to an even significand. -/
def ofRank (precision : Precision) (rank : Nat) : Neighbourhood :=
  let leading := Nat.pow 2 precision.fractionBits
  let significand := precision.significand rank
  let narrow := leading < rank ∧ rank % leading = 0
  let exponent := precision.exponent rank - 2
  let (numerator, denominator) := scaleByPower 1 1 (-exponent)
  { low := (4 * significand - (if narrow then 1 else 2)) * numerator
    centre := 4 * significand * numerator
    high := (4 * significand + 2) * numerator
    denominator := denominator
    closed := significand % 2 = 0 }

/-- The interval counted in steps of ten to a power. -/
def onGrid (place : Int) (interval : Neighbourhood) : Neighbourhood :=
  if 0 ≤ place then
    { interval with denominator := interval.denominator * Nat.pow 10 place.toNat }
  else
    let factor := Nat.pow 10 (-place).toNat
    { interval with
      low := interval.low * factor
      centre := interval.centre * factor
      high := interval.high * factor }

/-- A whole number of steps lies in the interval. -/
def contains (steps : Nat) (interval : Neighbourhood) : Bool :=
  let point := steps * interval.denominator
  if interval.closed then
    interval.low ≤ point && point ≤ interval.high
  else
    interval.low < point && point < interval.high

/-- The centre is nearer to the number of steps below it than to the next one, or equally near and
the rule takes the lower one. -/
def prefersBelow (rule : TieRule) (interval : Neighbourhood) : Bool :=
  let twiceRest := 2 * (interval.centre % interval.denominator)
  if twiceRest = interval.denominator then
    match rule with
    | .up => false
    | .even => interval.centre / interval.denominator % 2 = 0
  else
    twiceRest < interval.denominator

/-- The number of steps in the interval that is nearest to its centre; `none` if the interval holds
no whole number of steps. -/
def nearest? (rule : TieRule) (interval : Neighbourhood) : Option Nat :=
  let below := interval.centre / interval.denominator
  let (nearer, farther) :=
    if interval.prefersBelow rule then (below, below + 1) else (below + 1, below)
  if interval.contains nearer then some nearer
  else if interval.contains farther then some farther
  else none

/-- The first grid with a point in the interval, from a place downward over a number of places. -/
def coarsest? (rule : TieRule) (interval : Neighbourhood) : Nat → Int → Option (Nat × Int)
  | 0, _ => none
  | places + 1, place =>
    match (interval.onGrid place).nearest? rule with
    | some steps => some (steps, place)
    | none => coarsest? rule interval places (place - 1)

end Neighbourhood

/-- A number of decimal places within which every interval of both formats has a grid point. -/
def placeCount : Nat := 20

/-- The shortest decimal of a positive magnitude, as digits and the power of ten of the last one. -/
def shortest (rule : TieRule) (precision : Precision) (rank : Nat) : Nat × Int :=
  let interval := Neighbourhood.ofRank precision rank
  let (numerator, denominator) := magnitude precision rank
  let start : Int :=
    ((decimalDigits numerator).length : Int) - ((decimalDigits denominator).length : Int) + 1
  (interval.coarsest? rule placeCount start).getD (numerator, 0)

/-- Digits with the last one at a power of ten, written without an exponent. -/
def positional (digits : List Char) (place : Int) : List Char :=
  if 0 ≤ place then
    digits ++ List.replicate place.toNat '0'
  else
    let fraction := (-place).toNat
    if fraction < digits.length then
      digits.take (digits.length - fraction) ++ '.' :: digits.drop (digits.length - fraction)
    else
      '0' :: '.' :: (List.replicate (fraction - digits.length) '0' ++ digits)

/-- The shortest decimal of a magnitude, written without an exponent. -/
def magnitudeDigits (rule : TieRule) (precision : Precision) (rank : Nat) : List Char :=
  if rank = 0 then
    ['0']
  else
    let (digits, place) := shortest rule precision rank
    positional (decimalDigits digits) place

/-- The text of a number: the shortest decimal that reads back as it, a whole number without a
point. -/
def text {precision : Precision} : Binary precision → String
  | finite negative rank =>
    (if negative then "-" else "") ++ String.ofList (magnitudeDigits .up precision rank)
  | infinite negative => if negative then "-inf" else "inf"
  | nan => "NaN"

/-- The text of a finite number with at least one fraction digit; nothing for other numbers. -/
def fractionText? {precision : Precision} : Binary precision → Option String
  | finite negative rank =>
    let digits := magnitudeDigits .even precision rank
    let closed := if digits.contains '.' then digits else digits ++ ['.', '0']
    some ((if negative then "-" else "") ++ String.ofList closed)
  | _ => none

end Binary

end GpuScript
