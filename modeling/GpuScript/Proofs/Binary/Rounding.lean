import GpuScript.Proofs.Binary.Magnitude

/-!
# Rounding to the nearest magnitude

The rank that is computed for a quotient is the one to which it rounds
(`Precision.nearestRank_eq_iff`). The computation scales the quotient by a power of two, so that a
significand of full length stands before the point, and rounds it to an integer. The rank is counted
on by that integer, and the midpoints beside it tell that it is the nearest one.
-/

namespace GpuScript

section Quotients

/-- The exact quotient of natural numbers lies within half a unit of the one that is rounded, and is
half a unit away only from an even one. -/
theorem roundQuotient_spec (numerator : ℕ) {denominator : ℕ} (positive : 0 < denominator) :
    (roundQuotient numerator denominator : ℚ) - 1 / 2 ≤ numerator / denominator ∧
    (numerator / denominator : ℚ) ≤ roundQuotient numerator denominator + 1 / 2 ∧
    ((roundQuotient numerator denominator : ℚ) - 1 / 2 = numerator / denominator ∨
      (numerator / denominator : ℚ) = roundQuotient numerator denominator + 1 / 2 →
        roundQuotient numerator denominator % 2 = 0) := by
  have above : (0 : ℚ) < denominator := by exact_mod_cast positive
  have split := Nat.div_add_mod numerator denominator
  have small := Nat.mod_lt numerator positive
  generalize whole : numerator / denominator = quotient at split
  generalize left : numerator % denominator = rest at split small
  have exact_ : (numerator : ℚ) / denominator = quotient + rest / denominator := by
    rw [← split]
    push_cast
    field_simp
  have fraction : (rest : ℚ) / denominator * denominator = rest := by
    field_simp
  have least : (0 : ℚ) ≤ rest / denominator := by positivity
  have below : (rest : ℚ) / denominator < 1 := by
    rw [div_lt_one above]
    exact_mod_cast small
  have half : (rest : ℚ) / denominator = 1 / 2 → 2 * rest = denominator := by
    intro middle
    rw [middle] at fraction
    have cast : (2 * rest : ℚ) = denominator := by linarith only [fraction]
    exact_mod_cast cast
  by_cases up : denominator < 2 * rest ∨ (2 * rest = denominator ∧ quotient % 2 = 1)
  · have rounded : roundQuotient numerator denominator = quotient + 1 := by
      unfold roundQuotient
      simp only [whole, left]
      exact if_pos up
    have more : (1 : ℚ) / 2 ≤ rest / denominator := by
      have cast : (denominator : ℚ) ≤ 2 * rest := by exact_mod_cast (by omega)
      rw [div_le_div_iff₀ (by norm_num) above]
      linarith only [cast]
    rw [rounded, exact_]
    push_cast
    refine ⟨by linarith only [more], by linarith only [below], fun tie => ?_⟩
    have twice : 2 * rest = denominator := by
      apply half
      rcases tie with tie | tie
      · linarith only [tie]
      · linarith only [tie, below]
    omega
  · have rounded : roundQuotient numerator denominator = quotient := by
      unfold roundQuotient
      simp only [whole, left]
      exact if_neg up
    have less : (rest : ℚ) / denominator ≤ 1 / 2 := by
      have cast : (2 * rest : ℚ) ≤ denominator := by exact_mod_cast (by omega)
      rw [div_le_div_iff₀ above (by norm_num)]
      linarith only [cast]
    rw [rounded, exact_]
    refine ⟨by linarith only [least], by linarith only [less], fun tie => ?_⟩
    have twice : 2 * rest = denominator := by
      apply half
      rcases tie with tie | tie
      · linarith only [tie, least]
      · linarith only [tie]
    omega

/-- Scaling a quotient by a power of two divides it by the power. -/
theorem scaleByPower_spec (numerator : ℕ) {denominator : ℕ} (positive : 0 < denominator)
    (exponent : ℤ) :
    0 < (scaleByPower numerator denominator exponent).2 ∧
      ((scaleByPower numerator denominator exponent).1 : ℚ) /
        (scaleByPower numerator denominator exponent).2 =
          numerator / denominator / 2 ^ exponent := by
  have above : (denominator : ℚ) ≠ 0 := by exact_mod_cast positive.ne'
  by_cases up : 0 ≤ exponent
  · obtain ⟨power, rfl⟩ := Int.eq_ofNat_of_zero_le up
    have scaled : scaleByPower numerator denominator power =
        (numerator, denominator * Nat.pow 2 power) := if_pos up
    rw [scaled]
    refine ⟨Nat.mul_pos positive (Nat.pow_pos (by norm_num)), ?_⟩
    rw [Nat.pow_eq, zpow_natCast]
    push_cast
    rw [div_div]
  · obtain ⟨power, rfl⟩ : ∃ power : ℕ, exponent = -power := ⟨(-exponent).toNat, by omega⟩
    have scaled : scaleByPower numerator denominator (-power) =
        (numerator * Nat.pow 2 power, denominator) := by
      rw [scaleByPower, if_neg up, neg_neg, Int.toNat_natCast]
    rw [scaled]
    refine ⟨positive, ?_⟩
    rw [Nat.pow_eq, zpow_neg, zpow_natCast]
    push_cast
    field_simp

end Quotients

namespace Precision

variable (precision : Precision)

/-- A positive natural number lies between two powers of two. -/
theorem zpow_log2_le {number : ℕ} (positive : 0 < number) :
    (2 : ℚ) ^ (number.log2 : ℤ) ≤ number ∧ (number : ℚ) < 2 ^ ((number.log2 : ℤ) + 1) := by
  have low := Nat.log2_self_le positive.ne'
  have high := @Nat.lt_log2_self number
  have next : (number.log2 : ℤ) + 1 = ((number.log2 + 1 : ℕ) : ℤ) := by omega
  rw [next, zpow_natCast, zpow_natCast]
  exact ⟨by exact_mod_cast low, by exact_mod_cast high⟩

/-- A quotient scaled by the lengths of its parts has a significand of full length, or is one bit
short of it. -/
theorem quotient_between {numerator denominator : ℕ} (some : 0 < numerator)
    (positive : 0 < denominator) {guess : ℤ}
    (lengths : guess = (numerator.log2 : ℤ) - denominator.log2 - precision.fractionBits) :
    precision.leading * (2 : ℚ) ^ (guess - 1) ≤ numerator / denominator ∧
      (numerator / denominator : ℚ) < 2 * precision.leading * 2 ^ guess := by
  obtain ⟨numeratorLow, numeratorHigh⟩ := zpow_log2_le some
  obtain ⟨denominatorLow, denominatorHigh⟩ := zpow_log2_le positive
  have above : (0 : ℚ) < denominator := by exact_mod_cast positive
  have nonzero : (2 : ℚ) ≠ 0 := by norm_num
  have shape (exponent : ℤ) : precision.leading * (2 : ℚ) ^ exponent =
      2 ^ (precision.fractionBits + exponent) := by
    rw [cast_leading, ← zpow_add₀ nonzero]
  constructor
  · rw [shape, le_div_iff₀ above]
    have power : (2 : ℚ) ^ (numerator.log2 : ℤ) =
        2 ^ (precision.fractionBits + (guess - 1)) * 2 ^ ((denominator.log2 : ℤ) + 1) := by
      rw [← zpow_add₀ nonzero]
      congr 1
      omega
    have scale := mul_le_mul_of_nonneg_left denominatorHigh.le
      (zpow_two_pos (precision.fractionBits + (guess - 1))).le
    linarith only [power, scale, numeratorLow]
  · rw [mul_assoc, shape, ← zpow_two_succ, div_lt_iff₀ above]
    have power : (2 : ℚ) ^ ((numerator.log2 : ℤ) + 1) =
        2 ^ (precision.fractionBits + guess + 1) * 2 ^ (denominator.log2 : ℤ) := by
      rw [← zpow_add₀ nonzero]
      congr 1
      omega
    have scale := mul_le_mul_of_nonneg_left denominatorLow
      (zpow_two_pos (precision.fractionBits + guess + 1)).le
    linarith only [power, scale, numeratorHigh]

/-- The exponent for a positive quotient gives it a significand of full length, unless it is the
least exponent, and never a longer one. -/
theorem quotientExponent_spec {numerator denominator : ℕ} (some : 0 < numerator)
    (positive : 0 < denominator) :
    precision.leastExponent ≤ precision.quotientExponent numerator denominator ∧
    (precision.quotientExponent numerator denominator = precision.leastExponent ∨
      precision.leading * (2 : ℚ) ^ precision.quotientExponent numerator denominator ≤
        numerator / denominator) ∧
    (numerator / denominator : ℚ) <
      2 * precision.leading * 2 ^ precision.quotientExponent numerator denominator := by
  let guess : ℤ := (numerator.log2 : ℤ) - denominator.log2 - precision.fractionBits
  let exact_ : ℤ := if (scaleByPower numerator denominator guess).1 <
      Nat.pow 2 precision.fractionBits * (scaleByPower numerator denominator guess).2
    then guess - 1 else guess
  have result : precision.quotientExponent numerator denominator =
      max exact_ precision.leastExponent := rfl
  obtain ⟨lower, upper⟩ := precision.quotient_between some positive (rfl : guess = _)
  obtain ⟨unit, scaled⟩ := scaleByPower_spec numerator positive guess
  have choice : (scaleByPower numerator denominator guess).1 <
        Nat.pow 2 precision.fractionBits * (scaleByPower numerator denominator guess).2 ↔
      (numerator / denominator : ℚ) < precision.leading * 2 ^ guess := by
    have above : (0 : ℚ) < (scaleByPower numerator denominator guess).2 := by exact_mod_cast unit
    rw [← div_lt_iff₀ (zpow_two_pos guess), ← scaled, div_lt_iff₀ above]
    exact_mod_cast Iff.rfl
  have full : precision.leading * (2 : ℚ) ^ exact_ ≤ numerator / denominator ∧
      (numerator / denominator : ℚ) < 2 * precision.leading * 2 ^ exact_ := by
    by_cases short : (numerator / denominator : ℚ) < precision.leading * 2 ^ guess
    · have down : exact_ = guess - 1 := if_pos (choice.mpr short)
      have power := zpow_two_succ (guess - 1)
      rw [sub_add_cancel] at power
      rw [down]
      refine ⟨lower, ?_⟩
      rw [power] at short
      linarith only [short]
    · have stay : exact_ = guess := if_neg fun less => short (choice.mp less)
      rw [stay]
      exact ⟨le_of_not_gt short, upper⟩
  rw [result]
  refine ⟨le_max_right _ _, ?_, ?_⟩
  · by_cases small : exact_ ≤ precision.leastExponent
    · exact .inl (max_eq_right small)
    · rw [max_eq_left (by omega)]
      exact .inr full.1
  · have order := mul_le_mul_of_nonneg_left
      (zpow_two_le (le_max_left exact_ precision.leastExponent))
      (by positivity : (0 : ℚ) ≤ 2 * precision.leading)
    exact full.2.trans_le order

/-- A quotient, scaled by a power of two and rounded to an integer, is a significand. -/
structure ScalesTo (quotient : ℚ) (steps significand : ℕ) : Prop where
  /-- Above the least exponent the quotient is not below the power of two. -/
  long : steps = 0 ∨ precision.leading * (2 : ℚ) ^ (precision.leastExponent + steps) ≤ quotient
  /-- Above the least exponent the significand has full length. -/
  full : steps = 0 ∨ precision.leading ≤ significand
  /-- The significand is not longer, except that it may be the next power of two. -/
  room : significand ≤ 2 * precision.leading
  /-- The significand is at most half a unit above the quotient. -/
  low : (significand - 1 / 2) * (2 : ℚ) ^ (precision.leastExponent + steps) ≤ quotient
  /-- The significand is at most half a unit below the quotient. -/
  high : quotient ≤ (significand + 1 / 2) * 2 ^ (precision.leastExponent + steps)
  /-- A significand that is half a unit away is even. -/
  tie : (significand - 1 / 2) * (2 : ℚ) ^ (precision.leastExponent + steps) = quotient ∨
    quotient = (significand + 1 / 2) * 2 ^ (precision.leastExponent + steps) →
      significand % 2 = 0

/-- The nearest rank is counted on from a power of two by the significand of the quotient. -/
theorem nearestRank_eq {numerator denominator : ℕ} (some : 0 < numerator)
    (positive : 0 < denominator) :
    ∃ steps significand : ℕ,
      precision.nearestRank numerator denominator = steps * precision.leading + significand ∧
        precision.ScalesTo (numerator / denominator) steps significand := by
  obtain ⟨least, full, upper⟩ := precision.quotientExponent_spec some positive
  generalize place : precision.quotientExponent numerator denominator = exponent at *
  obtain ⟨steps, rfl⟩ : ∃ steps : ℕ, exponent = precision.leastExponent + steps :=
    ⟨(exponent - precision.leastExponent).toNat, by omega⟩
  have power := zpow_two_pos (precision.leastExponent + steps)
  obtain ⟨unit, scaled⟩ := scaleByPower_spec numerator positive (precision.leastExponent + steps)
  obtain ⟨low, high, tie⟩ := roundQuotient_spec
    (scaleByPower numerator denominator (precision.leastExponent + steps)).1 unit
  have rank : precision.nearestRank numerator denominator =
      steps * precision.leading + roundQuotient
        (scaleByPower numerator denominator (precision.leastExponent + steps)).1
        (scaleByPower numerator denominator (precision.leastExponent + steps)).2 := by
    have count : (precision.leastExponent + steps - precision.leastExponent).toNat = steps := by
      omega
    rw [nearestRank, if_neg some.ne']
    simp only [place, count]
    rfl
  generalize roundQuotient (scaleByPower numerator denominator (precision.leastExponent + steps)).1
    (scaleByPower numerator denominator (precision.leastExponent + steps)).2 = significand at *
  rw [scaled] at low high tie
  rw [le_div_iff₀ power] at low
  rw [div_le_iff₀ power] at high
  rw [eq_div_iff power.ne', div_eq_iff power.ne'] at tie
  have long : steps = 0 ∨ precision.leading * (2 : ℚ) ^ (precision.leastExponent + steps) ≤
      numerator / denominator := full.imp_left (by omega)
  refine ⟨steps, significand, rank, long, ?_, ?_, low, high, tie⟩
  · refine long.imp_right fun long => ?_
    have bound := (mul_le_mul_iff_left₀ power).mp (long.trans high)
    have cast : (precision.leading : ℚ) < (significand + 1 : ℕ) := by
      push_cast
      linarith only [bound]
    have order : precision.leading < significand + 1 := by exact_mod_cast cast
    omega
  · have bound := (mul_lt_mul_iff_left₀ power).mp (low.trans_lt upper)
    have cast : (significand : ℚ) < (2 * precision.leading + 1 : ℕ) := by
      push_cast
      linarith only [bound]
    have order : significand < 2 * precision.leading + 1 := by exact_mod_cast cast
    omega

/-- The midpoint after a rank that is counted on from a power of two is at least half a unit in the
last place away, and exactly that unless the rank is the next power of two. -/
theorem le_midpoint_add {steps significand : ℕ}
    (full : steps = 0 ∨ precision.leading ≤ significand)
    (room : significand ≤ 2 * precision.leading) :
    (significand + 1 / 2) * (2 : ℚ) ^ (precision.leastExponent + steps) ≤
      precision.midpoint (steps * precision.leading + significand) := by
  by_cases inner : significand < 2 * precision.leading
  · exact (precision.midpoint_add full inner).ge
  · have positive := precision.leading_even.1
    have whole : significand = 2 * precision.leading := by omega
    have place : steps * precision.leading + significand =
        (steps + 1) * precision.leading + precision.leading := by
      rw [whole]
      ring
    have power := zpow_two_pos (precision.leastExponent + steps)
    rw [place, precision.midpoint_add (.inr le_rfl) (by omega), whole, Nat.cast_add_one,
      ← add_assoc, zpow_two_succ]
    push_cast
    linarith only [power]

variable {precision} in
/-- A quotient rounds to the rank that is counted on by its significand. -/
theorem ScalesTo.roundsTo {quotient : ℚ} {steps significand : ℕ}
    (scales : precision.ScalesTo quotient steps significand) :
    precision.RoundsTo quotient (steps * precision.leading + significand) := by
  have power := zpow_two_pos (precision.leastExponent + steps)
  have after := precision.le_midpoint_add scales.full scales.room
  have parity : (steps * precision.leading + significand) % 2 = significand % 2 := by
    rw [Nat.add_mod, Nat.mul_mod, precision.leading_even.2]
    omega
  have before {previous : ℕ} (next : previous + 1 = steps * precision.leading + significand) :
      precision.midpoint previous ≤ quotient ∧
        (precision.midpoint previous = quotient → significand % 2 = 0) := by
    rw [precision.midpoint_pred scales.full scales.room next]
    by_cases narrow : 0 < steps ∧ significand = precision.leading
    · -- At a power of two the quotient is not below the magnitude itself.
      have bound := scales.long.resolve_left (by omega)
      rw [if_pos narrow, narrow.2]
      exact ⟨by linarith only [bound, power], fun same => by linarith only [bound, power, same]⟩
    · rw [if_neg narrow]
      exact ⟨scales.low, fun same => scales.tie (.inl same)⟩
  refine ⟨fun _ next => (before next).1, fun _ next same => ?_, scales.high.trans after,
    fun same => ?_⟩
  · rw [parity]
    exact (before next).2 same
  · rw [parity]
    exact scales.tie (.inr (le_antisymm scales.high (same ▸ after)))

/-- A quotient rounds to the rank that is computed for it. -/
theorem roundsTo_nearestRank (numerator : ℕ) {denominator : ℕ} (positive : 0 < denominator) :
    precision.RoundsTo (numerator / denominator) (precision.nearestRank numerator denominator) := by
  by_cases some : 0 < numerator
  · obtain ⟨steps, significand, rank, scales⟩ := precision.nearestRank_eq some positive
    rw [rank]
    exact scales.roundsTo
  · obtain rfl : numerator = 0 := by omega
    have least : precision.nearestRank 0 denominator = 0 := if_pos rfl
    have middle : 0 ≤ precision.midpoint 0 := by
      have power := zpow_two_pos (precision.exponent 0)
      rw [midpoint_eq]
      positivity
    rw [least, Nat.cast_zero, zero_div]
    exact ⟨fun _ next => absurd next (by omega), fun _ next => absurd next (by omega), middle,
      fun _ => rfl⟩

/-- The nearest rank is the one to which the quotient rounds. -/
theorem nearestRank_eq_iff {numerator denominator rank : ℕ} (positive : 0 < denominator) :
    precision.nearestRank numerator denominator = rank ↔
      precision.RoundsTo (numerator / denominator) rank := by
  have computed := precision.roundsTo_nearestRank numerator positive
  constructor
  · rintro rfl
    exact computed
  · exact fun given => computed.unique given

/-- A multiple of a power of two with a significand that is not too long is a magnitude. -/
theorem exists_value_eq {significand : ℕ} {exponent : ℤ}
    (short : significand ≤ 2 * precision.leading) (least : precision.leastExponent ≤ exponent) :
    ∃ rank, precision.value rank = significand * 2 ^ exponent := by
  obtain ⟨steps, rfl⟩ : ∃ steps : ℕ, exponent = precision.leastExponent + steps :=
    ⟨(exponent - precision.leastExponent).toNat, by omega⟩
  induction steps generalizing significand with
  | zero => exact ⟨_, precision.value_add (.inl rfl) short⟩
  | succ steps ih =>
    by_cases full : precision.leading ≤ significand
    · exact ⟨_, precision.value_add (.inr full) short⟩
    · obtain ⟨rank, same⟩ := @ih (2 * significand) (by omega) (by omega)
      refine ⟨rank, ?_⟩
      rw [same, Nat.cast_add_one, ← add_assoc, zpow_two_succ]
      push_cast
      ring

end Precision

namespace Binary

variable {precision : Precision}

/-- The magnitude of a rank is a quotient of natural numbers. -/
theorem magnitude_spec (precision : Precision) (rank : ℕ) :
    0 < (magnitude precision rank).2 ∧
      ((magnitude precision rank).1 : ℚ) / (magnitude precision rank).2 =
        precision.value rank := by
  by_cases whole : 0 ≤ precision.exponent rank
  · obtain ⟨power, same⟩ := Int.eq_ofNat_of_zero_le whole
    have parts : magnitude precision rank = (precision.significand rank * Nat.pow 2 power, 1) := by
      unfold magnitude
      simp only [same, Int.toNat_natCast]
      exact if_pos (by omega)
    rw [parts, Precision.value, same, zpow_natCast, Nat.pow_eq]
    refine ⟨by norm_num, ?_⟩
    push_cast
    rw [div_one]
  · obtain ⟨power, same⟩ : ∃ power : ℕ, precision.exponent rank = -power :=
      ⟨(-precision.exponent rank).toNat, by omega⟩
    have parts : magnitude precision rank = (precision.significand rank, Nat.pow 2 power) := by
      unfold magnitude
      simp only [same, neg_neg, Int.toNat_natCast]
      exact if_neg (by omega)
    rw [parts, Precision.value, same, zpow_neg, zpow_natCast, Nat.pow_eq]
    refine ⟨by positivity, ?_⟩
    push_cast
    rw [div_eq_mul_inv]

/-- A quotient that rounds to the rank of a finite number gives that number. -/
theorem round_of_roundsTo {numerator denominator : ℕ} (positive : 0 < denominator)
    {rank : Fin precision.finiteCount}
    (near : precision.RoundsTo (numerator / denominator) rank) (negative : Bool) :
    round precision negative numerator denominator = .finite negative rank := by
  have computed := (precision.nearestRank_eq_iff positive).mpr near
  have below : precision.nearestRank numerator denominator < precision.finiteCount :=
    computed ▸ rank.isLt
  have same : (⟨precision.nearestRank numerator denominator, below⟩ :
      Fin precision.finiteCount) = rank := Fin.ext computed
  rw [round]
  simp only [below, ↓reduceDIte, same]

/-- A number is the nearest one of its own format. -/
theorem convert_self (number : Binary precision) : number.convert precision = number := by
  cases number with
  | infinite negative => rfl
  | nan => rfl
  | finite negative rank =>
    obtain ⟨positive, same⟩ := magnitude_spec precision rank
    have near : precision.RoundsTo
        ((magnitude precision rank).1 / (magnitude precision rank).2) rank := by
      rw [same]
      exact precision.roundsTo_value rank
    exact round_of_roundsTo positive near negative

end Binary

end GpuScript
