import GpuScript.Binary.Arithmetic
import GpuScript.Decimal.Shortest

/-!
# Tolerances

How far an observed number may be from the expected one: an absolute distance, or a percentage of
the expected number.
-/

namespace GpuScript

/-- How far an observed number may be from the expected one. -/
structure Tolerance where
  /-- The distance or the percentage. -/
  value : Double
  /-- Whether the value is a percentage of the expected number. -/
  isPercent : Bool
  deriving DecidableEq, BEq

namespace Tolerance

/-- The tolerance in force before a script sets one: a hundredth. -/
def default : Tolerance :=
  ⟨Binary.round .double false 1 100, false⟩

/-- The observed number is close enough to the expected one. -/
def accepts (tolerance : Tolerance) (observed expected : Double) : Bool :=
  let distance := (observed.sub expected).abs
  let limit :=
    if tolerance.isPercent then
      ((tolerance.value.div (Binary.ofInt 100)).mul expected).abs
    else
      tolerance.value
  distance.lessOrEqual limit

/-- The text of a tolerance in a script. -/
def text (tolerance : Tolerance) : String :=
  tolerance.value.text ++ (if tolerance.isPercent then "%" else "")

end Tolerance

end GpuScript
