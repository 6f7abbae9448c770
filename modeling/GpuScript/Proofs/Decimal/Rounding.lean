import GpuScript.Decimal.Basic
import GpuScript.Proofs.Decimal.Shortest

/-!
# Rounding of decimal numerals

A decimal numeral is read as the number that is nearest to its value (`Decimal.round_of_roundsTo`).
Numerals of too many places are settled by their order alone; a value that rounds to a finite
number other than zero is not one of them, since it lies far within the orders that are looked at.
-/

namespace GpuScript

open Text

namespace Precision

/-- The exponent of the power of two that comes after all finite magnitudes. -/
def maxExponent : Precision → ℤ
  | single => 128
  | double => 1024

/-- The magnitude after the last finite one is a power of two. -/
theorem value_finiteCount (precision : Precision) :
    precision.value precision.finiteCount = 2 ^ precision.maxExponent := by
  have last : ∃ steps : ℕ,
      precision.finiteCount = steps * precision.leading + 2 * precision.leading ∧
        (precision.fractionBits : ℤ) + (precision.leastExponent + steps) + 1 =
          precision.maxExponent := by
    cases precision with
    | single => exact ⟨253, by decide, by decide⟩
    | double => exact ⟨2045, by decide, by decide⟩
  obtain ⟨steps, place, top⟩ := last
  rw [place, precision.value_add (.inr (by omega)) le_rfl, ← top, zpow_two_succ,
    zpow_add₀ (by norm_num) (precision.fractionBits : ℤ), ← precision.cast_leading]
  push_cast
  ring

/-- Nothing is the least magnitude. -/
theorem value_zero (precision : Precision) : precision.value 0 = 0 := by
  have least := precision.value_add (.inl rfl : (0 : ℕ) = 0 ∨ _) (Nat.zero_le _)
  rw [Nat.zero_mul, Nat.cast_zero, zero_mul] at least
  exact least

/-- The first midpoint is half the least magnitude above nothing. -/
theorem midpoint_zero (precision : Precision) :
    precision.midpoint 0 = 2 ^ (precision.leastExponent - 1) := by
  have positive := precision.leading_even.1
  have first := precision.midpoint_add (.inl rfl : (0 : ℕ) = 0 ∨ _) (by omega : 0 < _)
  have half := zpow_two_succ (precision.leastExponent - 1)
  rw [Nat.zero_mul, Nat.cast_zero, Nat.cast_zero, zero_add, add_zero] at first
  rw [sub_add_cancel] at half
  rw [first, half]
  ring

/-- A value that rounds to a finite number other than zero has one of the orders that are looked
at. -/
theorem RoundsTo.bounds {precision : Precision} {quotient : ℚ} {rank : ℕ}
    (near : precision.RoundsTo quotient rank) (some : 0 < rank)
    (finite : rank < precision.finiteCount) :
    (10 : ℚ) ^ (-Decimal.exponentLimit) < quotient ∧ quotient < 10 ^ Decimal.exponentLimit := by
  obtain ⟨before, rfl⟩ : ∃ before, rank = before + 1 := ⟨rank - 1, by omega⟩
  have low := near.low before rfl
  have high := near.high
  have first := precision.strictMono_midpoint.monotone (Nat.zero_le before)
  have least : 2 ^ (-1075 : ℤ) ≤ precision.midpoint 0 := by
    rw [precision.midpoint_zero]
    exact zpow_two_le (by cases precision <;> decide)
  have last := precision.strictMono_value.monotone finite
  have after := (precision.midpoint_between (before + 1)).2
  have most : precision.value precision.finiteCount ≤ 2 ^ (1024 : ℤ) := by
    rw [precision.value_finiteCount]
    exact zpow_two_le (by cases precision <;> decide)
  -- Four hundred powers of ten are more than as many powers of eight.
  have eight : (2 : ℚ) ^ (1200 : ℤ) < 10 ^ Decimal.exponentLimit := by
    have power : (2 : ℚ) ^ (1200 : ℤ) = (2 ^ 3) ^ 400 := by
      rw [← pow_mul, ← zpow_natCast]
      rfl
    have limit : (10 : ℚ) ^ Decimal.exponentLimit = 10 ^ 400 := zpow_natCast 10 400
    rw [power, limit]
    exact pow_lt_pow_left₀ (by norm_num) (by norm_num) (by norm_num)
  have beyond := (zpow_two_le (by norm_num : (1024 : ℤ) ≤ 1200)).trans_lt eight
  have below : (10 : ℚ) ^ (-Decimal.exponentLimit) < 2 ^ (-1075 : ℤ) := by
    have inverse := (zpow_two_le (by norm_num : (1075 : ℤ) ≤ 1200)).trans_lt eight
    rw [zpow_neg, zpow_neg]
    exact inv_strictAnti₀ (zpow_two_pos 1075) inverse
  constructor
  · linarith only [low, first, least, below]
  · linarith only [high, last, after, most, beyond]

end Precision

namespace Decimal

/-- The magnitude that a numeral stands for. -/
def value (decimal : Decimal) : ℚ := decimal.coefficient * 10 ^ decimal.exponent

/-- A value of an order that is looked at is rounded as a quotient. -/
theorem round_eq (precision : Precision) {decimal : Decimal}
    (low : (10 : ℚ) ^ (-exponentLimit) < decimal.value)
    (high : decimal.value < 10 ^ exponentLimit) :
    ∃ numerator denominator : ℕ, 0 < denominator ∧
      (numerator / denominator : ℚ) = decimal.value ∧
      decimal.round precision = Binary.round precision decimal.negative numerator denominator := by
  obtain ⟨negative, coefficient, exponent⟩ := decimal
  have some : 0 < coefficient := by
    have above := (zpow_ten_pos (-exponentLimit)).trans low
    rcases Nat.eq_zero_or_pos coefficient with rfl | positive
    · rw [value, Nat.cast_zero, zero_mul] at above
      exact absurd above (lt_irrefl 0)
    · exact positive
  obtain ⟨least, most⟩ := zpow_length_decimalDigits some
  generalize length : ((decimalDigits coefficient).length : ℤ) = digits at least most
  have ten : (1 : ℚ) < 10 := by norm_num
  have power := zpow_ten_pos exponent
  have upper : -exponentLimit < exponent + digits := by
    rw [← zpow_lt_zpow_iff_right₀ ten, zpow_add₀ (by norm_num)]
    have scale := mul_lt_mul_of_pos_right most power
    rw [value] at low
    linarith only [low, scale]
  have lower : digits - 1 + exponent < exponentLimit := by
    rw [← zpow_lt_zpow_iff_right₀ ten, zpow_add₀ (by norm_num)]
    have scale := mul_le_mul_of_nonneg_right least power.le
    rw [value] at high
    linarith only [high, scale]
  have inner : ¬ (coefficient = 0 ∨ exponent + digits < -exponentLimit) := by omega
  have below : ¬ exponentLimit < exponent + digits := by omega
  by_cases whole : 0 ≤ exponent
  · obtain ⟨places, rfl⟩ := Int.eq_ofNat_of_zero_le whole
    refine ⟨coefficient * 10 ^ places, 1, one_pos, ?_, ?_⟩
    · rw [value]
      push_cast
      rw [div_one, zpow_natCast]
    · rw [round]
      simp only [length]
      rw [if_neg inner, if_neg below, if_pos whole]
      rfl
  · obtain ⟨places, rfl⟩ : ∃ places : ℕ, exponent = -places := ⟨(-exponent).toNat, by omega⟩
    refine ⟨coefficient, 10 ^ places, by positivity, ?_, ?_⟩
    · rw [value]
      push_cast
      rw [zpow_neg, zpow_natCast, div_eq_mul_inv]
    · rw [round]
      simp only [length]
      rw [if_neg inner, if_neg below, if_neg whole, neg_neg, Int.toNat_natCast]
      rfl

/-- A numeral is read as the finite number to which its value rounds. -/
theorem round_of_roundsTo {precision : Precision} {decimal : Decimal}
    {rank : Fin precision.finiteCount} (some : 0 < rank.val)
    (near : precision.RoundsTo decimal.value rank) :
    decimal.round precision = .finite decimal.negative rank := by
  obtain ⟨low, high⟩ := near.bounds some rank.isLt
  obtain ⟨numerator, denominator, positive, same, rounded⟩ := round_eq precision low high
  rw [rounded]
  exact Binary.round_of_roundsTo positive (same ▸ near) decimal.negative

end Decimal

end GpuScript
