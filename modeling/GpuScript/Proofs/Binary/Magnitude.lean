import GpuScript.Binary.Basic
import Mathlib.Algebra.Order.Field.Basic
import Mathlib.Algebra.Order.Field.Power
import Mathlib.Data.Rat.Cast.Order
import Mathlib.Tactic.FieldSimp
import Mathlib.Tactic.Linarith
import Mathlib.Tactic.Positivity
import Mathlib.Tactic.Ring

/-!
# Magnitudes and the midpoints between them

The magnitudes of a format are rational numbers that grow with their ranks. A quotient rounds to the
rank whose magnitude is nearest: it lies between the two midpoints beside the rank, and a midpoint
belongs to the rank that is even (`Precision.RoundsTo`). At most one rank is like that, and it grows
with the quotient (`Precision.RoundsTo.mono`).

A significand and a power of two stand for the rank that is counted on from them
(`Precision.value_add`), also where the significand is itself the next power of two. The midpoint
before a power of two is nearer to it than the one after it (`Precision.midpoint_pred`).
-/

namespace GpuScript

/-- A power of two scales a rational number up or down. -/
theorem zpow_two_pos (exponent : ℤ) : (0 : ℚ) < 2 ^ exponent :=
  zpow_pos (by norm_num) exponent

/-- The next power of two is twice as large. -/
theorem zpow_two_succ (exponent : ℤ) : (2 : ℚ) ^ (exponent + 1) = 2 * 2 ^ exponent := by
  rw [zpow_add_one₀ (by norm_num), mul_comm]

/-- Powers of two grow with their exponents. -/
theorem zpow_two_le {less greater : ℤ} (order : less ≤ greater) :
    (2 : ℚ) ^ less ≤ 2 ^ greater :=
  zpow_le_zpow_right₀ (by norm_num) order

namespace Precision

variable (precision : Precision)

/-- The least significand of full length. -/
def leading : ℕ := Nat.pow 2 precision.fractionBits

/-- The least significand of full length is a positive even number. -/
theorem leading_even : 0 < precision.leading ∧ precision.leading % 2 = 0 := by
  cases precision <;> decide

/-- The least significand of full length is a power of two. -/
theorem cast_leading : (precision.leading : ℚ) = 2 ^ (precision.fractionBits : ℤ) := by
  rw [leading, Nat.pow_eq, zpow_natCast]
  push_cast
  rfl

/-- The magnitude with a rank. -/
def value (rank : ℕ) : ℚ := precision.significand rank * 2 ^ precision.exponent rank

/-- The quotient that is equally near to a rank and to the next one. -/
def midpoint (rank : ℕ) : ℚ := (precision.value rank + precision.value (rank + 1)) / 2

/-- A quotient rounds to a rank: it lies between the midpoints beside it, and is one of them only if
the rank is even. -/
structure RoundsTo (quotient : ℚ) (rank : ℕ) : Prop where
  /-- The quotient is not below the midpoint before the rank. -/
  low : ∀ before, before + 1 = rank → precision.midpoint before ≤ quotient
  /-- The midpoint before the rank belongs to an even rank. -/
  lowTie : ∀ before, before + 1 = rank → precision.midpoint before = quotient → rank % 2 = 0
  /-- The quotient is not above the midpoint after the rank. -/
  high : quotient ≤ precision.midpoint rank
  /-- The midpoint after the rank belongs to an even rank. -/
  highTie : quotient = precision.midpoint rank → rank % 2 = 0

section Ranks

/-- The significand and the exponent of a rank that is counted on from a power of two: the one that
was counted on, until it reaches the next power of two, which has half of it. -/
theorem value_add {steps significand : ℕ} (full : steps = 0 ∨ precision.leading ≤ significand)
    (room : significand ≤ 2 * precision.leading) :
    precision.value (steps * precision.leading + significand) =
      significand * 2 ^ (precision.leastExponent + steps) := by
  have positive := precision.leading_even.1
  by_cases short : significand < precision.leading
  · have first : steps = 0 := by omega
    subst first
    have own : precision.significand (0 * precision.leading + significand) = significand := by
      rw [Nat.zero_mul, Nat.zero_add]
      exact if_pos short
    have least : precision.exponent (0 * precision.leading + significand) =
        precision.leastExponent + ((0 : ℕ) : ℤ) := by
      rw [exponent, Nat.zero_mul, Nat.zero_add]
      change precision.leastExponent + ((significand / precision.leading - 1 : ℕ) : ℤ) = _
      rw [Nat.div_eq_of_lt short]
    rw [value, own, least]
  · by_cases inner : significand < 2 * precision.leading
    · obtain ⟨fraction, rfl⟩ := Nat.exists_eq_add_of_le (Nat.le_of_not_lt short)
      have small : fraction < precision.leading := by omega
      have split : steps * precision.leading + (precision.leading + fraction) =
          fraction + precision.leading * (steps + 1) := by ring
      have own : precision.significand (fraction + precision.leading * (steps + 1)) =
          precision.leading + fraction := by
        have beyond : ¬ fraction + precision.leading * (steps + 1) < precision.leading := by
          rw [Nat.mul_add_one]
          omega
        have rest : (fraction + precision.leading * (steps + 1)) % precision.leading =
            fraction := by
          rw [Nat.add_mul_mod_self_left, Nat.mod_eq_of_lt small]
        exact (if_neg beyond).trans (congrArg (precision.leading + ·) rest)
      have place : precision.exponent (fraction + precision.leading * (steps + 1)) =
          precision.leastExponent + steps := by
        have count : (fraction + precision.leading * (steps + 1)) / precision.leading - 1 =
            steps := by
          rw [Nat.add_mul_div_left _ _ positive, Nat.div_eq_of_lt small]
          omega
        exact congrArg (fun count : ℕ => precision.leastExponent + (count : ℤ)) count
      rw [split, value, own, place]
    · have whole : significand = 2 * precision.leading := by omega
      subst whole
      have split : steps * precision.leading + 2 * precision.leading =
          precision.leading * (steps + 2) := by ring
      have own : precision.significand (precision.leading * (steps + 2)) = precision.leading := by
        have beyond : ¬ precision.leading * (steps + 2) < precision.leading := by
          have more := Nat.mul_le_mul_left precision.leading (by omega : 1 ≤ steps + 2)
          omega
        have rest : precision.leading * (steps + 2) % precision.leading = 0 :=
          Nat.mul_mod_right _ _
        exact (if_neg beyond).trans (congrArg (precision.leading + ·) rest)
      have place : precision.exponent (precision.leading * (steps + 2)) =
          precision.leastExponent + steps + 1 := by
        have count : precision.leading * (steps + 2) / precision.leading - 1 = steps + 1 := by
          rw [Nat.mul_div_cancel_left _ positive]
          omega
        have same := congrArg (fun count : ℕ => precision.leastExponent + (count : ℤ)) count
        rw [Nat.cast_add_one, ← add_assoc] at same
        exact same
      rw [split, value, own, place, zpow_two_succ]
      push_cast
      ring

/-- Every rank is counted on by its significand from the power of two with its exponent. -/
theorem exists_rank_eq (rank : ℕ) :
    ∃ steps significand, rank = steps * precision.leading + significand ∧
      (steps = 0 ∨ precision.leading ≤ significand) ∧ significand < 2 * precision.leading ∧
      precision.significand rank = significand ∧
      precision.exponent rank = precision.leastExponent + steps := by
  have positive := precision.leading_even.1
  have split := Nat.div_add_mod rank precision.leading
  have small := Nat.mod_lt rank positive
  by_cases short : rank < precision.leading
  · refine ⟨0, rank, by omega, .inl rfl, by omega, if_pos short, ?_⟩
    have count : rank / precision.leading - 1 = 0 := by
      rw [Nat.div_eq_of_lt short]
    exact congrArg (fun count : ℕ => precision.leastExponent + (count : ℤ)) count
  · have some : 0 < rank / precision.leading := Nat.div_pos (Nat.le_of_not_lt short) positive
    obtain ⟨steps, count⟩ := Nat.exists_eq_add_of_lt some
    rw [Nat.zero_add] at count
    refine ⟨steps, precision.leading + rank % precision.leading, ?_, .inr (by omega), by omega,
      if_neg short, ?_⟩
    · have more : precision.leading * (steps + 1) = steps * precision.leading + precision.leading :=
        by ring
      rw [count, more] at split
      omega
    · have previous : rank / precision.leading - 1 = steps := by omega
      exact congrArg (fun count : ℕ => precision.leastExponent + (count : ℤ)) previous

/-- The next magnitude has one more unit in the last place. -/
theorem value_succ (rank : ℕ) :
    precision.value (rank + 1) =
      (precision.significand rank + 1) * 2 ^ precision.exponent rank := by
  obtain ⟨steps, significand, place, full, room, own, least⟩ := precision.exists_rank_eq rank
  have next : rank + 1 = steps * precision.leading + (significand + 1) := by omega
  rw [next, precision.value_add (full.imp_right (by omega)) (by omega), own, least]
  push_cast
  rfl

/-- The next magnitude is greater. -/
theorem value_lt_succ (rank : ℕ) : precision.value rank < precision.value (rank + 1) := by
  have positive := zpow_two_pos (precision.exponent rank)
  rw [value_succ, value]
  linarith only [positive]

/-- Magnitudes grow with their ranks. -/
theorem strictMono_value : StrictMono precision.value :=
  strictMono_nat_of_lt_succ precision.value_lt_succ

/-- A midpoint lies between the two magnitudes beside it. -/
theorem midpoint_between (rank : ℕ) :
    precision.value rank < precision.midpoint rank ∧
      precision.midpoint rank < precision.value (rank + 1) := by
  have order := precision.value_lt_succ rank
  constructor <;> rw [midpoint] <;> linarith only [order]

/-- Midpoints grow with their ranks. -/
theorem strictMono_midpoint : StrictMono precision.midpoint := by
  refine strictMono_nat_of_lt_succ fun rank => ?_
  exact (precision.midpoint_between rank).2.trans (precision.midpoint_between (rank + 1)).1

/-- The midpoint after a rank is half a unit in the last place away. -/
theorem midpoint_eq (rank : ℕ) :
    precision.midpoint rank =
      (precision.significand rank + 1 / 2) * 2 ^ precision.exponent rank := by
  rw [midpoint, value_succ, value]
  ring

/-- The midpoint after a rank that is counted on from a power of two. -/
theorem midpoint_add {steps significand : ℕ} (full : steps = 0 ∨ precision.leading ≤ significand)
    (room : significand < 2 * precision.leading) :
    precision.midpoint (steps * precision.leading + significand) =
      (significand + 1 / 2) * 2 ^ (precision.leastExponent + steps) := by
  have next := @value_add precision steps (significand + 1) (full.imp_right (by omega))
    (by omega)
  rw [midpoint, precision.value_add full (by omega), Nat.add_assoc, next]
  push_cast
  ring

/-- The midpoint before a rank that is counted on from a power of two: half a unit in the last place
away, or a quarter at a power of two, where the units before it are half as long. -/
theorem midpoint_pred {steps significand before : ℕ}
    (full : steps = 0 ∨ precision.leading ≤ significand)
    (room : significand ≤ 2 * precision.leading)
    (next : before + 1 = steps * precision.leading + significand) :
    precision.midpoint before =
      (significand - if 0 < steps ∧ significand = precision.leading then 1 / 4 else 1 / 2) *
        2 ^ (precision.leastExponent + steps) := by
  have positive := precision.leading_even.1
  by_cases narrow : 0 < steps ∧ significand = precision.leading
  · obtain ⟨some, rfl⟩ := narrow
    obtain ⟨previous, rfl⟩ := Nat.exists_eq_add_of_lt some
    have place : before = previous * precision.leading + (2 * precision.leading - 1) := by
      rw [Nat.zero_add, Nat.add_one_mul] at next
      omega
    have last : ((2 * precision.leading - 1 : ℕ) : ℚ) = 2 * precision.leading - 1 := by
      rw [Nat.cast_sub (by omega)]
      push_cast
      rfl
    rw [place, precision.midpoint_add (.inr (by omega)) (by omega), last, if_pos (by simp),
      Nat.zero_add, Nat.cast_add_one, ← add_assoc, zpow_two_succ]
    ring
  · have some : 0 < significand := by
      rcases full with rfl | long <;> omega
    obtain ⟨previous, rfl⟩ := Nat.exists_eq_add_of_lt some
    have place : before = steps * precision.leading + previous := by omega
    have others : steps = 0 ∨ precision.leading ≤ previous := by omega
    rw [place, precision.midpoint_add others (by omega), if_neg narrow]
    push_cast
    ring

end Ranks

section Nearest

variable {precision}

/-- A quotient rounds to one rank only, and a greater one does not round to a lesser rank. -/
theorem RoundsTo.mono {less greater : ℚ} {first second : ℕ} (order : less ≤ greater)
    (one : precision.RoundsTo less first) (two : precision.RoundsTo greater second) :
    first ≤ second := by
  by_contra beyond
  -- The midpoint before the first rank is not below the one after the second.
  obtain ⟨before, rfl⟩ : ∃ before, first = before + 1 := ⟨first - 1, by omega⟩
  have least : second ≤ before := by omega
  have apart := precision.strictMono_midpoint.monotone least
  have low := one.low before rfl
  have high := two.high
  have both : precision.midpoint second = precision.midpoint before := by
    linarith only [apart, low, high, order]
  have same : second = before := precision.strictMono_midpoint.injective both
  have evenFirst := one.lowTie before rfl (by linarith only [apart, low, high, order, both])
  have evenSecond := two.highTie (by linarith only [apart, low, high, order, both])
  omega

/-- A quotient rounds to one rank only. -/
theorem RoundsTo.unique {quotient : ℚ} {first second : ℕ} (one : precision.RoundsTo quotient first)
    (two : precision.RoundsTo quotient second) : first = second :=
  Nat.le_antisymm (one.mono le_rfl two) (two.mono le_rfl one)

/-- A quotient strictly between the midpoints beside a rank rounds to it. -/
theorem roundsTo_of_between {quotient : ℚ} {rank : ℕ}
    (low : ∀ before, before + 1 = rank → precision.midpoint before < quotient)
    (high : quotient < precision.midpoint rank) : precision.RoundsTo quotient rank where
  low before next := (low before next).le
  lowTie before next same := absurd same (low before next).ne
  high := high.le
  highTie same := absurd same high.ne

variable (precision)

/-- A magnitude rounds to its own rank. -/
theorem roundsTo_value (rank : ℕ) : precision.RoundsTo (precision.value rank) rank := by
  refine roundsTo_of_between ?_ (precision.midpoint_between rank).1
  rintro before rfl
  exact (precision.midpoint_between before).2

end Nearest

end Precision

end GpuScript
