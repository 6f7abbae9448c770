import GpuScript.Binary.Basic

/-!
# Arithmetic on binary floating-point numbers

Each operation is computed exactly on quotients and rounded once. The cases without a quotient
follow the usual rules: a difference of equal infinities, a product of zero and an infinity, and a
quotient of two zeros or of two infinities are not numbers.
-/

namespace GpuScript.Binary

variable {precision : Precision}

/-- The number without its sign. -/
def abs : Binary precision → Binary precision
  | finite _ rank => finite false rank
  | infinite _ => infinite false
  | nan => nan

/-- The number with the opposite sign. -/
def neg : Binary precision → Binary precision
  | finite negative rank => finite (!negative) rank
  | infinite negative => infinite (!negative)
  | nan => nan

/-- The sum, rounded to the nearest number. A sum that is exactly zero has a minus sign only when
both operands have one. -/
def add : Binary precision → Binary precision → Binary precision
  | finite leftNegative leftRank, finite rightNegative rightRank =>
    let (leftTop, leftBottom) := magnitude precision leftRank
    let (rightTop, rightBottom) := magnitude precision rightRank
    let signed (negative : Bool) (top : Nat) : Int := if negative then -(top : Int) else top
    let total :=
      signed leftNegative (leftTop * rightBottom) + signed rightNegative (rightTop * leftBottom)
    let negative := if total = 0 then leftNegative && rightNegative else decide (total < 0)
    round precision negative total.natAbs (leftBottom * rightBottom)
  | nan, _ => nan
  | _, nan => nan
  | infinite leftNegative, infinite rightNegative =>
    if leftNegative = rightNegative then infinite leftNegative else nan
  | infinite negative, _ => infinite negative
  | _, infinite negative => infinite negative

/-- The difference, rounded to the nearest number. -/
def sub (left right : Binary precision) : Binary precision :=
  add left (neg right)

/-- The product, rounded to the nearest number. -/
def mul : Binary precision → Binary precision → Binary precision
  | finite leftNegative leftRank, finite rightNegative rightRank =>
    let (leftTop, leftBottom) := magnitude precision leftRank
    let (rightTop, rightBottom) := magnitude precision rightRank
    round precision (leftNegative != rightNegative) (leftTop * rightTop)
      (leftBottom * rightBottom)
  | nan, _ => nan
  | _, nan => nan
  | infinite leftNegative, infinite rightNegative => infinite (leftNegative != rightNegative)
  | infinite leftNegative, finite rightNegative rank =>
    if rank.val = 0 then nan else infinite (leftNegative != rightNegative)
  | finite leftNegative rank, infinite rightNegative =>
    if rank.val = 0 then nan else infinite (leftNegative != rightNegative)

/-- The quotient, rounded to the nearest number. -/
def div : Binary precision → Binary precision → Binary precision
  | finite leftNegative leftRank, finite rightNegative rightRank =>
    let negative := leftNegative != rightNegative
    if rightRank.val = 0 then
      if leftRank.val = 0 then nan else infinite negative
    else
      let (leftTop, leftBottom) := magnitude precision leftRank
      let (rightTop, rightBottom) := magnitude precision rightRank
      round precision negative (leftTop * rightBottom) (leftBottom * rightTop)
  | nan, _ => nan
  | _, nan => nan
  | infinite _, infinite _ => nan
  | infinite leftNegative, finite rightNegative _ => infinite (leftNegative != rightNegative)
  | finite leftNegative _, infinite rightNegative =>
    round precision (leftNegative != rightNegative) 0 1

/-- The place of a number in the order, as an integer; infinities lie beyond all finite ranks. -/
def position? : Binary precision → Option Int
  | finite negative rank => some (if negative then -(rank.val : Int) else rank.val)
  | infinite negative =>
    some (if negative then -(precision.finiteCount : Int) else precision.finiteCount)
  | nan => none

/-- Numeric order: what is not a number is comparable with nothing. -/
def lessOrEqual (left right : Binary precision) : Bool :=
  match left.position?, right.position? with
  | some leftPosition, some rightPosition => leftPosition ≤ rightPosition
  | _, _ => false

end GpuScript.Binary
