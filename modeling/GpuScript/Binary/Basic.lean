/-!
# Binary floating-point numbers

Numbers of the interchange formats with 32 and 64 bits. A finite number is a sign and a rank: the
magnitudes of a format are counted outward from zero, so equal ranks are equal magnitudes, a
greater rank is a greater magnitude, and every encoding is canonical. There is one value that is
not a number.

Every number of a format is reached by `Binary.round`, which takes an exact quotient of natural
numbers to the nearest magnitude, a half to the even rank.
-/

namespace GpuScript

/-- The two formats of binary floating-point numbers that scripts hold. -/
inductive Precision where
  /-- The format with 32 bits. -/
  | single
  /-- The format with 64 bits. -/
  | double
  deriving DecidableEq

namespace Precision

/-- The number of bits that encode a number of the format. -/
def bits : Precision → Nat
  | single => 32
  | double => 64

/-- The number of bits of a significand after its leading bit. -/
def fractionBits : Precision → Nat
  | single => 23
  | double => 52

/-- The exponent of the least magnitude: magnitudes next to zero are multiples of two to this
power. -/
def leastExponent : Precision → Int
  | single => -149
  | double => -1074

/-- The number of finite magnitudes of the format, zero included. -/
def finiteCount : Precision → Nat
  | single => 255 * Nat.pow 2 23
  | double => 2047 * Nat.pow 2 52

/-- The significand of the magnitude with a rank. -/
def significand (precision : Precision) (rank : Nat) : Nat :=
  let leading := Nat.pow 2 precision.fractionBits
  if rank < leading then rank else leading + rank % leading

/-- The exponent of the magnitude with a rank: the magnitude is the significand times two to this
power. -/
def exponent (precision : Precision) (rank : Nat) : Int :=
  precision.leastExponent + ((rank / Nat.pow 2 precision.fractionBits - 1 : Nat) : Int)

end Precision

/-- A binary floating-point number. -/
inductive Binary (precision : Precision) where
  /-- A finite number, by its sign and the rank of its magnitude. -/
  | finite (negative : Bool) (rank : Fin precision.finiteCount)
  /-- One of the two infinities. -/
  | infinite (negative : Bool)
  /-- The value that is not a number. -/
  | nan
  deriving DecidableEq

/-- A number of the format with 32 bits. -/
abbrev Single : Type := Binary .single

/-- A number of the format with 64 bits. -/
abbrev Double : Type := Binary .double

/-- A quotient of natural numbers rounded to the nearest natural number, a half to the even one. -/
def roundQuotient (numerator denominator : Nat) : Nat :=
  let quotient := numerator / denominator
  let twiceRest := 2 * (numerator % denominator)
  if denominator < twiceRest ∨ (twiceRest = denominator ∧ quotient % 2 = 1) then
    quotient + 1
  else
    quotient

/-- The quotient of two natural numbers after both are scaled so that it counts multiples of two
to a power. -/
def scaleByPower (numerator denominator : Nat) (exponent : Int) : Nat × Nat :=
  if 0 ≤ exponent then
    (numerator, denominator * Nat.pow 2 exponent.toNat)
  else
    (numerator * Nat.pow 2 (-exponent).toNat, denominator)

namespace Precision

/-- The exponent at which a positive quotient has a significand of full length, or the least
exponent if the quotient is smaller than that. -/
def quotientExponent (precision : Precision) (numerator denominator : Nat) : Int :=
  let guess : Int :=
    (numerator.log2 : Int) - (denominator.log2 : Int) - (precision.fractionBits : Int)
  let (scaled, unit) := scaleByPower numerator denominator guess
  let exact := if scaled < Nat.pow 2 precision.fractionBits * unit then guess - 1 else guess
  max exact precision.leastExponent

/-- The rank nearest to a quotient of natural numbers. A significand that rounds up to the next
power of two moves on to the next exponent by itself, because ranks count on across exponents. -/
def nearestRank (precision : Precision) (numerator denominator : Nat) : Nat :=
  if numerator = 0 then
    0
  else
    let exponent := precision.quotientExponent numerator denominator
    let (scaled, unit) := scaleByPower numerator denominator exponent
    (exponent - precision.leastExponent).toNat * Nat.pow 2 precision.fractionBits
      + roundQuotient scaled unit

end Precision

namespace Binary

variable {precision : Precision}

/-- The number of the format nearest to a quotient, infinite when the quotient lies beyond the
greatest finite number by half a step or more. -/
def round (precision : Precision) (negative : Bool) (numerator denominator : Nat) :
    Binary precision :=
  let rank := precision.nearestRank numerator denominator
  if h : rank < precision.finiteCount then .finite negative ⟨rank, h⟩ else .infinite negative

/-- The zero without a sign. -/
def zero : Binary precision :=
  round precision false 0 1

/-- The number of the format nearest to an integer. -/
def ofInt (value : Int) : Binary precision :=
  round precision (value < 0) value.natAbs 1

/-- The magnitude of a rank as an exact quotient. -/
def magnitude (precision : Precision) (rank : Nat) : Nat × Nat :=
  let exponent := precision.exponent rank
  let significand := precision.significand rank
  if 0 ≤ exponent then
    (significand * Nat.pow 2 exponent.toNat, 1)
  else
    (significand, Nat.pow 2 (-exponent).toNat)

/-- The nearest number of another format. -/
def convert (target : Precision) : Binary precision → Binary target
  | finite negative rank =>
    let (numerator, denominator) := magnitude precision rank
    round target negative numerator denominator
  | infinite negative => .infinite negative
  | nan => .nan

/-- The nearest number of the format with 32 bits. -/
def toSingle (value : Binary precision) : Single :=
  value.convert .single

/-- The number of the format with 64 bits that is nearest. -/
def toDouble (value : Binary precision) : Double :=
  value.convert .double

/-- The integer between two bounds that is left of a number when its fraction is cut off. What is
not a number counts as zero. -/
def truncateBetween (least greatest : Int) : Binary precision → Int
  | finite negative rank =>
    let (numerator, denominator) := magnitude precision rank
    let whole : Int := (numerator / denominator : Nat)
    max least (min greatest (if negative then -whole else whole))
  | infinite negative => if negative then least else greatest
  | nan => 0

/-- A number that is neither infinite nor `nan`. -/
def isFinite : Binary precision → Bool
  | finite _ _ => true
  | _ => false

/-- Numeric equality: the two zeros are equal, and what is not a number differs from everything,
itself included. -/
def equal : Binary precision → Binary precision → Bool
  | finite leftNegative leftRank, finite rightNegative rightRank =>
    leftRank == rightRank && (leftNegative == rightNegative || leftRank.val == 0)
  | infinite leftNegative, infinite rightNegative => leftNegative == rightNegative
  | _, _ => false

instance : BEq (Binary precision) := ⟨equal⟩

end Binary

end GpuScript
