import GpuScript.Decimal.Shortest
import GpuScript.Proofs.Binary.Rounding

/-!
# The shortest decimal rounds to its number

The decimal that is written for a magnitude is a grid point of the interval that the midpoints
beside the magnitude bound, so it rounds to the magnitude in its own format
(`Binary.roundsTo_shortest`). That the search finds a grid point at all comes from the last grid
that it looks at: its steps are shorter than half a unit in the last place of the magnitude.
-/

namespace GpuScript

open Text

/-- A power of ten scales a rational number up or down. -/
theorem zpow_ten_pos (exponent : ℤ) : (0 : ℚ) < 10 ^ exponent :=
  zpow_pos (by norm_num) exponent

/-- The number of digits of a positive number tells between which powers of ten it lies. -/
theorem Text.zpow_length_decimalDigits {number : ℕ} (positive : 0 < number) :
    (10 : ℚ) ^ ((decimalDigits number).length - 1 : ℤ) ≤ number ∧
      (number : ℚ) < 10 ^ ((decimalDigits number).length : ℤ) := by
  have digits : 0 < (decimalDigits number).length := Nat.length_toDigits_pos
  have most : number < 10 ^ (decimalDigits number).length :=
    (Nat.length_toDigits_le_iff (by norm_num) digits).mp le_rfl
  obtain ⟨others, count⟩ : ∃ others, (decimalDigits number).length = others + 1 :=
    ⟨(decimalDigits number).length - 1, by omega⟩
  have least : 10 ^ others ≤ number := by
    by_cases single : others = 0
    · rw [single]
      omega
    · by_contra less
      have fewer : (decimalDigits number).length ≤ others :=
        (Nat.length_toDigits_le_iff (by norm_num) (by omega)).mpr (by omega)
      omega
  have place : ((decimalDigits number).length : ℤ) - 1 = others := by omega
  rw [place, zpow_natCast, zpow_natCast]
  exact ⟨by exact_mod_cast least, by exact_mod_cast most⟩

namespace Binary

namespace Neighbourhood

/-- An interval is that of a rank, counted in steps of a unit. -/
structure Spans (precision : Precision) (rank : ℕ) (unit : ℚ) (interval : Neighbourhood) :
    Prop where
  /-- The bounds have a denominator. -/
  positive : 0 < interval.denominator
  /-- The lower bound is the midpoint before the rank. -/
  low : ∀ before, before + 1 = rank →
    (interval.low : ℚ) / interval.denominator * unit = precision.midpoint before
  /-- The centre is the magnitude. -/
  centre : (interval.centre : ℚ) / interval.denominator * unit = precision.value rank
  /-- The upper bound is the midpoint after the rank. -/
  high : (interval.high : ℚ) / interval.denominator * unit = precision.midpoint rank
  /-- The bounds belong to the interval if the rank is even. -/
  closed : interval.closed = decide (rank % 2 = 0)

/-- A rank that starts the steps of a power of two, except for the least one, is told by its
significand. -/
theorem narrow_iff (precision : Precision) {rank steps significand : ℕ}
    (place : rank = steps * precision.leading + significand)
    (full : steps = 0 ∨ precision.leading ≤ significand)
    (room : significand < 2 * precision.leading) (some : 0 < significand) :
    (Nat.pow 2 precision.fractionBits < rank ∧ rank % Nat.pow 2 precision.fractionBits = 0) ↔
      0 < steps ∧ significand = precision.leading := by
  change precision.leading < rank ∧ rank % precision.leading = 0 ↔ _
  have rest : rank % precision.leading = significand % precision.leading := by
    rw [place, Nat.add_comm, Nat.add_mul_mod_self_right]
  rw [rest]
  constructor
  · rintro ⟨beyond, whole⟩
    have single : significand = precision.leading := by
      by_cases short : significand < precision.leading
      · rw [Nat.mod_eq_of_lt short] at whole
        omega
      · rw [Nat.mod_eq_sub_mod (by omega), Nat.mod_eq_of_lt (by omega)] at whole
        omega
    refine ⟨Nat.pos_of_ne_zero ?_, single⟩
    rintro rfl
    omega
  · rintro ⟨later, rfl⟩
    have more := Nat.mul_le_mul_right precision.leading later
    exact ⟨by omega, Nat.mod_self _⟩

/-- The interval that is computed for a positive rank is its own. -/
theorem spans_ofRank (precision : Precision) {rank : ℕ} (some : 0 < rank) :
    (ofRank precision rank).Spans precision rank 1 := by
  obtain ⟨steps, significand, place, full, room, own, least⟩ := precision.exists_rank_eq rank
  have positive := precision.leading_even.1
  have even := precision.leading_even.2
  have nonzero : 1 ≤ significand := by
    rcases full with rfl | long <;> omega
  have narrow := narrow_iff precision place full room nonzero
  obtain ⟨unit, scaled⟩ := scaleByPower_spec 1 one_pos (-(precision.exponent rank - 2))
  generalize parts : scaleByPower 1 1 (-(precision.exponent rank - 2)) = scale at unit scaled
  have power : (scale.1 : ℚ) / scale.2 = 2 ^ precision.exponent rank / 4 := by
    rw [scaled, zpow_neg, zpow_sub₀ (by norm_num)]
    norm_num
  let gap : ℕ := if 0 < steps ∧ significand = precision.leading then 1 else 2
  have shape : ofRank precision rank =
      ⟨(4 * significand - gap) * scale.1, 4 * significand * scale.1,
        (4 * significand + 2) * scale.1, scale.2, decide (significand % 2 = 0)⟩ := by
    unfold ofRank
    simp only [parts, own, narrow]
    rfl
  have below : gap ≤ 4 * significand := by
    have few : gap ≤ 2 := by
      unfold gap
      split <;> omega
    omega
  rw [shape]
  refine ⟨unit, fun before next => ?_, ?_, ?_, ?_⟩
  · have lower := precision.midpoint_pred full room.le (next.trans place)
    have width : (gap : ℚ) / 4 =
        if 0 < steps ∧ significand = precision.leading then 1 / 4 else 1 / 2 := by
      unfold gap
      split <;> norm_num
    rw [lower, ← width, ← least]
    push_cast [Nat.cast_sub below]
    rw [mul_div_assoc, power]
    ring
  · rw [Precision.value, own]
    push_cast
    rw [mul_div_assoc, power]
    ring
  · rw [Precision.midpoint_eq, own]
    push_cast
    rw [mul_div_assoc, power]
    ring
  · have parity : rank % 2 = significand % 2 := by
      rw [place, Nat.add_mod, Nat.mul_mod, even]
      omega
    rw [parity]

/-- Counting in steps of a power of ten makes the unit that power. -/
theorem Spans.onGrid {precision : Precision} {rank : ℕ} {interval : Neighbourhood}
    (spans : interval.Spans precision rank 1) (place : ℤ) :
    (interval.onGrid place).Spans precision rank (10 ^ place) := by
  have positive := spans.positive
  have above : (interval.denominator : ℚ) ≠ 0 := by exact_mod_cast positive.ne'
  by_cases up : 0 ≤ place
  · obtain ⟨power, rfl⟩ := Int.eq_ofNat_of_zero_le up
    have shape : interval.onGrid power =
        { interval with denominator := interval.denominator * Nat.pow 10 power } := if_pos up
    have bound (numerator : ℕ) : (numerator : ℚ) /
        ((interval.denominator * Nat.pow 10 power : ℕ) : ℚ) * 10 ^ (power : ℤ) =
          numerator / interval.denominator * 1 := by
      rw [Nat.pow_eq, zpow_natCast]
      push_cast
      field_simp
    rw [shape]
    refine ⟨Nat.mul_pos positive (Nat.pow_pos (by norm_num)), fun before next => ?_, ?_, ?_,
      spans.closed⟩
    · exact (bound _).trans (spans.low before next)
    · exact (bound _).trans spans.centre
    · exact (bound _).trans spans.high
  · obtain ⟨power, rfl⟩ : ∃ power : ℕ, place = -power := ⟨(-place).toNat, by omega⟩
    have shape : interval.onGrid (-power) =
        { interval with
          low := interval.low * Nat.pow 10 power
          centre := interval.centre * Nat.pow 10 power
          high := interval.high * Nat.pow 10 power } := by
      unfold Neighbourhood.onGrid
      simp only [if_neg up, neg_neg, Int.toNat_natCast]
    have bound (numerator : ℕ) : ((numerator * Nat.pow 10 power : ℕ) : ℚ) /
        interval.denominator * 10 ^ (-power : ℤ) = numerator / interval.denominator * 1 := by
      rw [Nat.pow_eq, zpow_neg, zpow_natCast]
      push_cast
      field_simp
    rw [shape]
    refine ⟨positive, fun before next => ?_, ?_, ?_, spans.closed⟩
    · exact (bound _).trans (spans.low before next)
    · exact (bound _).trans spans.centre
    · exact (bound _).trans spans.high

section Grid

variable {precision : Precision} {rank : ℕ} {unit : ℚ} {interval : Neighbourhood}

/-- A number of steps lies in the interval of a positive rank exactly if it rounds to the rank. -/
theorem Spans.contains_iff (spans : interval.Spans precision rank unit) (above : 0 < unit)
    (some : 0 < rank) (steps : ℕ) :
    interval.contains steps = true ↔ precision.RoundsTo (steps * unit) rank := by
  obtain ⟨before, rfl⟩ : ∃ before, rank = before + 1 := ⟨rank - 1, by omega⟩
  have positive : (0 : ℚ) < interval.denominator := by exact_mod_cast spans.positive
  have lower (bound : ℕ) : bound ≤ steps * interval.denominator ↔
      (bound : ℚ) / interval.denominator * unit ≤ steps * unit := by
    rw [mul_le_mul_iff_left₀ above, div_le_iff₀ positive]
    exact_mod_cast Iff.rfl
  have upper (bound : ℕ) : steps * interval.denominator ≤ bound ↔
      (steps : ℚ) * unit ≤ bound / interval.denominator * unit := by
    rw [mul_le_mul_iff_left₀ above, le_div_iff₀ positive]
    exact_mod_cast Iff.rfl
  have lowest := lower interval.low
  have highest := upper interval.high
  have below := upper interval.low
  have beyond := lower interval.high
  rw [spans.low before rfl] at lowest below
  rw [spans.high] at highest beyond
  by_cases even : (before + 1) % 2 = 0
  · have closed : interval.closed = true := by
      rw [spans.closed, decide_eq_true even]
    have bounds : interval.contains steps = true ↔
        interval.low ≤ steps * interval.denominator ∧
          steps * interval.denominator ≤ interval.high := by
      rw [contains, closed]
      simp
    rw [bounds, lowest, highest]
    constructor
    · rintro ⟨low, high⟩
      refine ⟨fun other next => ?_, fun _ _ _ => even, high, fun _ => even⟩
      obtain rfl : other = before := by omega
      exact low
    · exact fun near => ⟨near.low before rfl, near.high⟩
  · have closed : interval.closed = false := by
      rw [spans.closed, decide_eq_false even]
    have bounds : interval.contains steps = true ↔
        ¬ steps * interval.denominator ≤ interval.low ∧
          ¬ interval.high ≤ steps * interval.denominator := by
      rw [contains, closed]
      simp
    rw [bounds, below, beyond, not_le, not_le]
    constructor
    · rintro ⟨low, high⟩
      refine Precision.roundsTo_of_between (fun other next => ?_) high
      obtain rfl : other = before := by omega
      exact low
    · intro near
      refine ⟨lt_of_le_of_ne (near.low before rfl) ?_, lt_of_le_of_ne near.high ?_⟩
      · exact fun same => even (near.lowTie before rfl same)
      · exact fun same => even (near.highTie same)

/-- A number of steps that is found lies in the interval. -/
theorem contains_of_nearest? {rule : TieRule} {steps : ℕ}
    (found : interval.nearest? rule = some steps) : interval.contains steps = true := by
  have either {first second : ℕ}
      (found : (if interval.contains first = true then some first
        else if interval.contains second = true then some second else none) = some steps) :
      interval.contains steps = true := by
    split at found
    · rename_i own
      exact Option.some.inj found ▸ own
    · split at found
      · rename_i other
        exact Option.some.inj found ▸ other
      · cases found
  unfold nearest? at found
  by_cases prefers : interval.prefersBelow rule = true
  · simp only [if_pos prefers] at found
    exact either found
  · simp only [if_neg prefers] at found
    exact either found

/-- If the steps are shorter than the way from the centre to the upper bound, a number of them is
found. -/
theorem Spans.isSome_nearest? (spans : interval.Spans precision rank unit) (above : 0 < unit)
    (some : 0 < rank) (short : precision.value rank + unit < precision.midpoint rank)
    (rule : TieRule) : (interval.nearest? rule).isSome = true := by
  have positive : (0 : ℚ) < interval.denominator := by exact_mod_cast spans.positive
  generalize floor : interval.centre / interval.denominator = below
  have split := Nat.div_add_mod interval.centre interval.denominator
  have small := Nat.mod_lt interval.centre spans.positive
  rw [floor] at split
  -- The next number of steps after the centre is still below the upper bound.
  have next : interval.contains (below + 1) = true := by
    have low : (interval.centre : ℚ) / interval.denominator < below + 1 := by
      have order : interval.centre < (below + 1) * interval.denominator := by
        rw [Nat.add_one_mul, Nat.mul_comm below]
        omega
      rw [div_lt_iff₀ positive]
      exact_mod_cast order
    have high : (below : ℚ) ≤ interval.centre / interval.denominator := by
      have order : below * interval.denominator ≤ interval.centre := by
        rw [Nat.mul_comm]
        omega
      rw [le_div_iff₀ positive]
      exact_mod_cast order
    have after := mul_lt_mul_of_pos_right low above
    have before := mul_le_mul_of_nonneg_right high above.le
    rw [spans.centre] at after before
    refine (spans.contains_iff above some (below + 1)).mpr
      (Precision.roundsTo_of_between (fun other same => ?_) ?_)
    · have middle := (precision.midpoint_between other).2
      rw [same] at middle
      push_cast
      exact middle.trans after
    · push_cast
      linarith only [before, short]
  unfold nearest?
  simp only [floor]
  by_cases prefers : interval.prefersBelow rule = true
  · simp only [if_pos prefers]
    by_cases own : interval.contains below = true
    · rw [if_pos own]
      rfl
    · rw [if_neg own, if_pos next]
      rfl
  · simp only [if_neg prefers]
    rw [if_pos next]
    rfl

/-- The first grid with a point in the interval gives one, and it is one of those that are looked
at. -/
theorem nearest?_of_coarsest? {rule : TieRule} {places : ℕ} {start place : ℤ} {steps : ℕ}
    (found : interval.coarsest? rule places start = some (steps, place)) :
    (interval.onGrid place).nearest? rule = some steps := by
  induction places generalizing start with
  | zero => cases found
  | succ places ih =>
    rw [coarsest?] at found
    cases own : (interval.onGrid start).nearest? rule with
    | none =>
      rw [own] at found
      exact ih found
    | some count =>
      rw [own] at found
      obtain ⟨rfl, rfl⟩ := Prod.mk.inj (Option.some.inj found)
      exact own

/-- A grid is found if one of those that are looked at has a point in the interval. -/
theorem isSome_coarsest? {rule : TieRule} {places passed : ℕ} {start : ℤ} (among : passed < places)
    (found : ((interval.onGrid (start - passed)).nearest? rule).isSome = true) :
    (interval.coarsest? rule places start).isSome = true := by
  induction places generalizing start passed with
  | zero => omega
  | succ places ih =>
    rw [coarsest?]
    cases own : (interval.onGrid start).nearest? rule with
    | some count => rfl
    | none =>
      have later : passed ≠ 0 := by
        rintro rfl
        rw [Nat.cast_zero, sub_zero, own] at found
        cases found
      obtain ⟨others, rfl⟩ : ∃ others, passed = others + 1 := ⟨passed - 1, by omega⟩
      have place : start - ((others + 1 : ℕ) : ℤ) = start - 1 - others := by omega
      rw [place] at found
      exact ih (by omega) found

end Grid

end Neighbourhood

/-- The place at which the search for the shortest decimal of a rank starts. -/
def startPlace (precision : Precision) (rank : ℕ) : ℤ :=
  ((decimalDigits (magnitude precision rank).1).length : ℤ) -
    (decimalDigits (magnitude precision rank).2).length + 1

/-- The search starts near the order of the magnitude. -/
theorem zpow_startPlace_lt (precision : Precision) {rank : ℕ} (some : 0 < rank) :
    (10 : ℚ) ^ (startPlace precision rank - 2) < precision.value rank := by
  obtain ⟨positive, same⟩ := magnitude_spec precision rank
  have above : 0 < precision.value rank := by
    have order := precision.strictMono_value some
    have zero : 0 ≤ precision.value 0 := by
      rw [Precision.value]
      positivity
    exact zero.trans_lt order
  have bottom : (0 : ℚ) < (magnitude precision rank).2 := by exact_mod_cast positive
  have top : 0 < (magnitude precision rank).1 := by
    by_contra none_
    have zero : (magnitude precision rank).1 = 0 := by omega
    rw [← same, zero, Nat.cast_zero, zero_div] at above
    exact absurd above (lt_irrefl 0)
  obtain ⟨low, _⟩ := zpow_length_decimalDigits top
  obtain ⟨_, high⟩ := zpow_length_decimalDigits positive
  rw [← same, lt_div_iff₀ bottom]
  have power : (10 : ℚ) ^ (startPlace precision rank - 2) *
      10 ^ ((decimalDigits (magnitude precision rank).2).length : ℤ) =
        10 ^ (((decimalDigits (magnitude precision rank).1).length : ℤ) - 1) := by
    rw [← zpow_add₀ (by norm_num)]
    congr 1
    unfold startPlace
    omega
  have scale := mul_lt_mul_of_pos_left high (zpow_ten_pos (startPlace precision rank - 2))
  linarith only [scale, low, power]

/-- The last grid that is looked at is finer than half a unit in the last place of the rank. -/
theorem value_add_lt_midpoint (precision : Precision) {rank : ℕ} (some : 0 < rank) :
    precision.value rank + 10 ^ (startPlace precision rank - 19) < precision.midpoint rank := by
  have order := zpow_startPlace_lt precision some
  obtain ⟨steps, significand, _, _, room, own, _⟩ := precision.exists_rank_eq rank
  have power := zpow_two_pos (precision.exponent rank)
  have longest : (significand : ℚ) ≤ 2 ^ 53 := by
    have length : 2 * precision.leading ≤ 2 ^ 53 := by cases precision <;> decide
    exact_mod_cast (by omega : significand ≤ 2 ^ 53)
  have most : precision.value rank ≤ 2 ^ 53 * 2 ^ precision.exponent rank := by
    rw [Precision.value, own]
    exact mul_le_mul_of_nonneg_right longest power.le
  have split : (10 : ℚ) ^ (startPlace precision rank - 2) =
      10 ^ 17 * 10 ^ (startPlace precision rank - 19) := by
    have place : startPlace precision rank - 2 = 17 + (startPlace precision rank - 19) := by omega
    rw [place, zpow_add₀ (by norm_num)]
    norm_num
  have middle : precision.midpoint rank =
      precision.value rank + 2 ^ precision.exponent rank / 2 := by
    rw [Precision.midpoint_eq, Precision.value]
    ring
  rw [split] at order
  rw [middle]
  linarith only [order, most, power]

/-- The shortest decimal of a positive rank rounds to it. -/
theorem roundsTo_shortest (rule : TieRule) (precision : Precision) {rank : ℕ} (some : 0 < rank) :
    precision.RoundsTo
      ((shortest rule precision rank).1 * 10 ^ (shortest rule precision rank).2) rank := by
  have spans := Neighbourhood.spans_ofRank precision some
  have last := (spans.onGrid (startPlace precision rank - 19)).isSome_nearest?
    (zpow_ten_pos _) some (value_add_lt_midpoint precision some) rule
  have found : ((Neighbourhood.ofRank precision rank).coarsest? rule placeCount
      (startPlace precision rank)).isSome = true :=
    Neighbourhood.isSome_coarsest? (by decide : 19 < placeCount) last
  obtain ⟨⟨steps, place⟩, first⟩ := Option.isSome_iff_exists.mp found
  have result : shortest rule precision rank = (steps, place) := by
    change ((Neighbourhood.ofRank precision rank).coarsest? rule placeCount
      (startPlace precision rank)).getD ((magnitude precision rank).1, 0) = _
    rw [first, Option.getD_some]
  have inside := Neighbourhood.contains_of_nearest? (Neighbourhood.nearest?_of_coarsest? first)
  rw [result]
  exact ((spans.onGrid place).contains_iff (zpow_ten_pos place) some steps).mp inside

end Binary

end GpuScript
