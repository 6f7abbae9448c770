import GpuScript.Proofs.Decimal.Rounding
import GpuScript.Proofs.Token.Numeral

/-!
# Numbers that are rounded twice

A number is written as the shortest decimal for its own format, but every decimal is read as a
double first. A double is read as itself. A single is read as the single nearest to that double,
and this is the single that was written unless the double lies half-way between two singles
(`Precision.roundsTo_value_iff`): the decimal itself is not half-way, but the first rounding can
move it there, and then the second one goes to the even single.
-/

namespace GpuScript

open Text Binary

namespace Precision

/-- What lies half-way between two singles is a double. -/
theorem exists_value_eq_midpoint (rank : ℕ) :
    ∃ wide, double.value wide = single.midpoint rank := by
  obtain ⟨steps, significand, place, full, room, own, least⟩ := single.exists_rank_eq rank
  have short : 2 * significand + 1 ≤ 2 * double.leading := by
    have lengths : 2 * single.leading ≤ double.leading := by decide
    omega
  have lowest : double.leastExponent ≤ single.exponent rank - 1 := by
    have exponents : double.leastExponent ≤ single.leastExponent - 1 := by decide
    omega
  obtain ⟨wide, same⟩ := double.exists_value_eq short lowest
  have power := zpow_two_succ (single.exponent rank - 1)
  rw [sub_add_cancel] at power
  refine ⟨wide, ?_⟩
  rw [same, single.midpoint_eq, own, power]
  push_cast
  ring

/-- A power of two within the range of doubles is a double. -/
theorem exists_value_eq_zpow {exponent : ℤ} (least : double.leastExponent ≤ exponent) :
    ∃ wide, double.value wide = 2 ^ exponent := by
  have short : 1 ≤ 2 * double.leading := by decide
  obtain ⟨wide, same⟩ := double.exists_value_eq short least
  refine ⟨wide, ?_⟩
  rw [same, Nat.cast_one, one_mul]

/-- What rounds to a single other than zero rounds to a double other than zero, and to a finite
one. -/
theorem exists_roundsTo_double {numerator denominator rank : ℕ} (positive : 0 < denominator)
    (near : single.RoundsTo (numerator / denominator) rank) (some : 0 < rank)
    (finite : rank < single.finiteCount) :
    ∃ wide : Fin double.finiteCount, 0 < wide.val ∧
      double.RoundsTo (numerator / denominator) wide := by
  obtain ⟨before, rfl⟩ : ∃ before, rank = before + 1 := ⟨rank - 1, by omega⟩
  have own := double.roundsTo_nearestRank numerator positive
  generalize double.nearestRank numerator denominator = wide at own
  have above : 0 < wide := by
    obtain ⟨least, half⟩ := exists_value_eq_zpow
      (by decide : double.leastExponent ≤ single.leastExponent - 1)
    have first := single.strictMono_midpoint.monotone (Nat.zero_le before)
    have low := near.low before rfl
    have order : double.value least ≤ numerator / denominator := by
      rw [half, ← single.midpoint_zero]
      exact first.trans low
    have ranks := (double.roundsTo_value least).mono order own
    have some : 0 < least := by
      rw [← double.strictMono_value.lt_iff_lt, half, double.value_zero]
      exact zpow_two_pos _
    omega
  have below : wide < double.finiteCount := by
    obtain ⟨most, top⟩ := exists_value_eq_zpow
      (by decide : double.leastExponent ≤ single.maxExponent)
    have last := single.strictMono_value.monotone finite
    have after := (single.midpoint_between (before + 1)).2
    have order : (numerator / denominator : ℚ) ≤ double.value most := by
      rw [top, ← single.value_finiteCount]
      exact near.high.trans (after.le.trans last)
    have ranks := own.mono order (double.roundsTo_value most)
    have finite : most < double.finiteCount := by
      rw [← double.strictMono_value.lt_iff_lt, top, double.value_finiteCount]
      exact zpow_lt_zpow_right₀ (by norm_num) (by decide)
    omega
  exact ⟨⟨wide, below⟩, above, own⟩

/-- The double nearest to what rounds to a single rounds to that single as well, unless it is
half-way between two singles and the single is odd. -/
theorem roundsTo_value_iff {quotient : ℚ} {rank wide : ℕ} (near : single.RoundsTo quotient rank)
    (own : double.RoundsTo quotient wide) :
    single.RoundsTo (double.value wide) rank ↔
      ¬ (rank % 2 = 1 ∧ ∃ other, double.value wide = single.midpoint other) := by
  -- The midpoints beside the single are doubles, so the first rounding does not pass them.
  have low : ∀ before, before + 1 = rank → single.midpoint before ≤ double.value wide := by
    intro before next
    obtain ⟨middle, same⟩ := exists_value_eq_midpoint before
    have order : double.value middle ≤ quotient := same ▸ near.low before next
    have ranks := (double.roundsTo_value middle).mono order own
    rw [← same]
    exact double.strictMono_value.monotone ranks
  have high : double.value wide ≤ single.midpoint rank := by
    obtain ⟨middle, same⟩ := exists_value_eq_midpoint rank
    have order : quotient ≤ double.value middle := same ▸ near.high
    have ranks := own.mono order (double.roundsTo_value middle)
    rw [← same]
    exact double.strictMono_value.monotone ranks
  constructor
  · rintro again ⟨odd, other, half⟩
    have most : other ≤ rank := by
      rw [half] at high
      exact single.strictMono_midpoint.le_iff_le.mp high
    by_cases beside : other = rank
    · have even := again.highTie (beside ▸ half)
      omega
    · have least : rank - 1 ≤ other := by
        have order := low (rank - 1) (by omega)
        rw [half] at order
        exact single.strictMono_midpoint.le_iff_le.mp order
      have next : other + 1 = rank := by omega
      have even := again.lowTie other next half.symm
      omega
  · intro apart
    have even {other : ℕ} (half : double.value wide = single.midpoint other) : rank % 2 = 0 := by
      by_contra odd
      exact apart ⟨by omega, other, half⟩
    exact ⟨low, fun _ _ half => even half.symm, high, fun half => even half⟩

end Precision

namespace Binary

/-- The value of the shortest decimal of a magnitude. -/
def shortestValue (precision : Precision) (rank : ℕ) : ℚ :=
  (shortest .up precision rank).1 * 10 ^ (shortest .up precision rank).2

/-- The double nearest to the shortest decimal of an odd number is half-way between two singles. -/
def Halfway : Single → Prop
  | finite _ rank => rank.val % 2 = 1 ∧ ∃ wide other,
    Precision.double.RoundsTo (shortestValue .single rank) wide ∧
      Precision.double.value wide = Precision.single.midpoint other
  | _ => False

/-- What is rounded is a given number if the quotient rounds to its magnitude. -/
theorem round_beq_iff {precision : Precision} {numerator denominator : ℕ}
    (positive : 0 < denominator) (negative : Bool) (rank : Fin precision.finiteCount) :
    (round precision negative numerator denominator == finite negative rank) = true ↔
      precision.RoundsTo (numerator / denominator) rank := by
  rw [← precision.nearestRank_eq_iff positive, round]
  by_cases below : precision.nearestRank numerator denominator < precision.finiteCount
  · simp only [below, ↓reduceDIte]
    change ((⟨_, below⟩ : Fin precision.finiteCount) == rank &&
      (negative == negative || _)) = true ↔ _
    simp [Fin.ext_iff]
  · simp only [below, ↓reduceDIte]
    constructor
    · intro same
      cases same
    · intro same
      exact absurd (same ▸ rank.isLt) below

/-- A double is read as the single that was written if it rounds to its magnitude. -/
theorem toSingle_beq_iff (negative : Bool) (wide : Fin Precision.double.finiteCount)
    (rank : Fin Precision.single.finiteCount) :
    ((finite negative wide : Double).toSingle == finite negative rank) = true ↔
      Precision.single.RoundsTo (Precision.double.value wide) rank := by
  obtain ⟨positive, same⟩ := magnitude_spec .double wide
  rw [← same]
  exact round_beq_iff positive negative rank

section Texts

variable {precision : Precision}

/-- A zero is read as a zero. -/
theorem decimalDouble?_zero (negative : Bool) :
    (TokenKind.ofWord (signed negative ['0'])).decimalDouble? =
      some (finite false ⟨0, by decide⟩) := by
  cases negative <;> decide +kernel

/-- The shortest decimal of a number other than zero is written, and it is rounded to a double. -/
theorem exists_decimal_text (negative : Bool) {rank : Fin precision.finiteCount}
    (some_ : 0 < rank.val) :
    ∃ decimal : Decimal, decimal.negative = negative ∧
      decimal.value = shortestValue precision rank ∧
      (TokenKind.ofWord (finite negative rank).text.toList).decimalDouble? =
        some (decimal.round .double) := by
  have near := roundsTo_shortest .up precision some_
  generalize found : shortest .up precision rank = decimal at near
  obtain ⟨steps, place⟩ := decimal
  have nonzero : steps ≠ 0 := by
    rintro rfl
    have low := (zpow_ten_pos _).trans (near.bounds some_ rank.isLt).1
    rw [Nat.cast_zero, zero_mul] at low
    exact absurd low (lt_irrefl 0)
  have digits : magnitudeDigits .up precision rank = positional (decimalDigits steps) place := by
    rw [magnitudeDigits, if_neg some_.ne', found]
  have parsed := Decimal.parse?_positional negative steps place
  rw [toList_text, digits, TokenKind.ofWord_signed_positional, shortestValue, found]
  by_cases whole : 0 ≤ place
  · rw [if_pos whole] at parsed
    obtain ⟨power, rfl⟩ := Int.eq_ofNat_of_zero_le whole
    refine ⟨_, rfl, ?_, TokenKind.decimalDouble?_ofDecimalWord parsed ?_⟩
    · rw [Decimal.value]
      push_cast
      rw [Int.toNat_natCast, mul_one, zpow_natCast]
    · exact Nat.mul_ne_zero nonzero (Nat.pow_pos (by decide)).ne'
  · rw [if_neg whole] at parsed
    exact ⟨_, rfl, rfl, TokenKind.decimalDouble?_ofDecimalWord parsed nonzero⟩

end Texts

/-- The text of a finite double is read as an equal number. -/
theorem exists_decimalDouble?_double {number : Double} (clean : number.isFinite = true) :
    ∃ again, (TokenKind.ofWord number.text.toList).decimalDouble? = some again ∧
      (again == number) = true := by
  cases number with
  | infinite negative => cases clean
  | nan => cases clean
  | finite negative rank =>
    rcases Nat.eq_zero_or_pos rank.val with zero | some_
    · have digits : magnitudeDigits .up .double rank = ['0'] := if_pos zero
      refine ⟨finite false ⟨0, by decide⟩, ?_, ?_⟩
      · rw [toList_text, digits, decimalDouble?_zero]
      · obtain rfl : rank = ⟨0, by decide⟩ := Fin.ext zero
        cases negative <;> rfl
    · obtain ⟨decimal, sign, value, read⟩ := exists_decimal_text negative some_
      have near : Precision.double.RoundsTo decimal.value rank := by
        rw [value]
        exact roundsTo_shortest .up .double some_
      refine ⟨finite negative rank, ?_, ?_⟩
      · rw [read, Decimal.round_of_roundsTo some_ near, sign]
      · change (rank == rank && (negative == negative || _)) = true
        simp

/-- The text of a finite single is read as a double, and the single nearest to that is the one that
was written unless the double is half-way between two singles. -/
theorem exists_decimalDouble?_single {number : Single} (clean : number.isFinite = true) :
    ∃ wide : Double, (TokenKind.ofWord number.text.toList).decimalDouble? = some wide ∧
      ((wide.toSingle == number) = true ↔ ¬ number.Halfway) := by
  cases number with
  | infinite negative => cases clean
  | nan => cases clean
  | finite negative rank =>
    rcases Nat.eq_zero_or_pos rank.val with zero | some_
    · have digits : magnitudeDigits .up .single rank = ['0'] := if_pos zero
      have even : ¬ Halfway (finite negative rank) := by
        rintro ⟨odd, _⟩
        omega
      refine ⟨finite false ⟨0, by decide⟩, ?_, iff_of_true ?_ even⟩
      · rw [toList_text, digits, decimalDouble?_zero]
      · obtain rfl : rank = ⟨0, by decide⟩ := Fin.ext zero
        cases negative <;> decide +kernel
    · obtain ⟨decimal, sign, value, read⟩ := exists_decimal_text negative some_
      have near := roundsTo_shortest .up .single some_
      obtain ⟨low, high⟩ := near.bounds some_ rank.isLt
      rw [← shortestValue, ← value] at low high near
      obtain ⟨numerator, denominator, positive, same, _⟩ := Decimal.round_eq .double low high
      rw [← same] at near
      obtain ⟨wide, above, own⟩ :=
        Precision.exists_roundsTo_double positive near some_ rank.isLt
      rw [same] at near own
      refine ⟨finite negative wide, ?_, ?_⟩
      · rw [read, Decimal.round_of_roundsTo above own, sign]
      · rw [toSingle_beq_iff, Precision.roundsTo_value_iff near own, Halfway, ← value]
        refine not_congr (and_congr_right fun _ => ⟨fun ⟨other, half⟩ => ?_, ?_⟩)
        · exact ⟨wide, other, own, half⟩
        · rintro ⟨also, other, nearest, half⟩
          exact ⟨other, nearest.unique own ▸ half⟩

end Binary

end GpuScript
