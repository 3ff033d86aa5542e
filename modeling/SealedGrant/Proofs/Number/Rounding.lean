import Mathlib
import SealedGrant.Number.Decimal

/-! # Reading a quotient as a double

A quotient is rounded on the binary grid that gives it 53 digits. Around every positive double lies
the interval of the numbers that round to it; a quotient in that interval is read as that double
(`SealedGrant.Double.ofQuotient_of_holds`), also below a power of two, where the finer grid of the
neighbour is used and the result is brought back to its form.
-/

namespace SealedGrant

/-- The power of a base as a quotient of natural powers. -/
theorem zpow_eq_div {base : ℚ} (nonzero : base ≠ 0) (exponent : ℤ) :
    base ^ exponent = base ^ exponent.toNat / base ^ (-exponent).toNat := by
  rw [← zpow_natCast, ← zpow_natCast, ← zpow_sub₀ nonzero]
  congr 1
  omega

/-- Comparing two scaled naturals is comparing one of them with a rational multiple of the other. -/
theorem scaled_lt_scaled_iff {base : ℕ} (positive : 0 < base) (exponent : ℤ) (left right : ℕ) :
    left * base ^ (-exponent).toNat < right * base ^ exponent.toNat ↔
      (left : ℚ) < right * (base : ℚ) ^ exponent := by
  have power : (0 : ℚ) < (base : ℚ) ^ (-exponent).toNat := by positivity
  rw [zpow_eq_div (by positivity) exponent, mul_div_assoc', lt_div_iff₀ power]
  exact_mod_cast Iff.rfl

/-- The powers that enclose two numbers enclose their quotient. -/
theorem quotient_bounds {base : ℚ} (positive : 0 < base) {numerator denominator : ℚ}
    {upper lower : ℤ} (upperLow : base ^ upper ≤ numerator)
    (upperHigh : numerator < base ^ (upper + 1)) (lowerLow : base ^ lower ≤ denominator)
    (lowerHigh : denominator < base ^ (lower + 1)) :
    denominator * base ^ (upper - lower - 1) ≤ numerator ∧
      numerator < denominator * base ^ (upper - lower + 1) := by
  constructor
  · calc denominator * base ^ (upper - lower - 1)
        ≤ base ^ (lower + 1) * base ^ (upper - lower - 1) := by gcongr
      _ = base ^ upper := by
          rw [← zpow_add₀ positive.ne']
          congr 1
          ring
      _ ≤ numerator := upperLow
  · calc numerator < base ^ (upper + 1) := upperHigh
      _ = base ^ lower * base ^ (upper - lower + 1) := by
          rw [← zpow_add₀ positive.ne']
          congr 1
          ring
      _ ≤ denominator * base ^ (upper - lower + 1) := by gcongr

/-- An estimate that is at most one too small is made exact by one comparison. -/
theorem refined_bounds {base : ℕ} (positive : 0 < base) {numerator denominator : ℕ} {estimate : ℤ}
    (low : (denominator : ℚ) * base ^ (estimate - 1) ≤ numerator)
    (high : (numerator : ℚ) < denominator * base ^ (estimate + 1)) :
    (denominator : ℚ) * base ^ ((if numerator * base ^ (-estimate).toNat <
        denominator * base ^ estimate.toNat then estimate else estimate + 1) - 1) ≤ numerator ∧
      (numerator : ℚ) < denominator * base ^ (if numerator * base ^ (-estimate).toNat <
        denominator * base ^ estimate.toNat then estimate else estimate + 1) := by
  have test := scaled_lt_scaled_iff positive estimate numerator denominator
  split
  · next smaller => exact ⟨low, test.mp smaller⟩
  · next notSmaller =>
    refine ⟨?_, high⟩
    rw [add_sub_cancel_right]
    exact not_lt.mp fun smaller => notSmaller (test.mpr smaller)

namespace Double

/-- The binary places of a positive quotient enclose it between two powers of two. -/
theorem binaryPlaces_bounds {numerator denominator : ℕ} (above : 0 < numerator)
    (below : 0 < denominator) :
    (denominator : ℚ) * 2 ^ (binaryPlaces numerator denominator - 1) ≤ numerator ∧
      (numerator : ℚ) < denominator * 2 ^ binaryPlaces numerator denominator := by
  have log2_low {n : ℕ} (positive : 0 < n) : (2 : ℚ) ^ (n.log2 : ℤ) ≤ n := by
    exact_mod_cast Nat.log2_self_le positive.ne'
  have log2_high (n : ℕ) : (n : ℚ) < 2 ^ ((n.log2 : ℤ) + 1) := by
    exact_mod_cast (Nat.lt_log2_self : n < 2 ^ (n.log2 + 1))
  obtain ⟨low, high⟩ := quotient_bounds two_pos (log2_low above) (log2_high numerator)
    (log2_low below) (log2_high denominator)
  simpa only [binaryPlaces, Nat.shiftLeft_eq, Nat.cast_ofNat] using refined_bounds two_pos low high

/-- Rounding a quotient finds the integer at most half away, on a tie the even one. -/
theorem roundQuotient_eq {numerator denominator target : ℕ} (positive : 0 < denominator)
    (low : 2 * target * denominator ≤ 2 * numerator + denominator)
    (high : 2 * numerator ≤ 2 * target * denominator + denominator)
    (tie : 2 * target * denominator = 2 * numerator + denominator ∨
      2 * numerator = 2 * target * denominator + denominator → target % 2 = 0) :
    roundQuotient numerator denominator = target := by
  have split := Nat.div_add_mod numerator denominator
  have small := Nat.mod_lt numerator positive
  simp only [roundQuotient]
  generalize numerator / denominator = quotient at *
  generalize numerator % denominator = rest at *
  subst split
  have notBelow : quotient ≤ target := by
    by_contra less
    have : denominator * (target + 1) ≤ denominator * quotient := by
      apply Nat.mul_le_mul_left
      omega
    nlinarith
  have notAbove : target ≤ quotient + 1 := by
    by_contra more
    have : denominator * (quotient + 2) ≤ denominator * target := by
      apply Nat.mul_le_mul_left
      omega
    nlinarith
  have near : target = quotient ∨ target = quotient + 1 := by omega
  rcases near with rfl | rfl
  · have product : 2 * target * denominator = 2 * (denominator * target) := by ring
    rw [product] at low high tie
    split_ifs <;> omega
  · have product : 2 * (quotient + 1) * denominator =
        2 * (denominator * quotient) + 2 * denominator := by ring
    rw [product] at low high tie
    split_ifs <;> omega

/-- Rounding on a binary grid finds the grid point at most half a step away. -/
theorem roundQuotient_shifted {numerator denominator target : ℕ} {exponent : ℤ}
    (positive : 0 < denominator)
    (low : (denominator : ℚ) * ((target - 1 / 2) * 2 ^ exponent) ≤ numerator)
    (high : (numerator : ℚ) ≤ denominator * ((target + 1 / 2) * 2 ^ exponent))
    (strict : target % 2 = 0 ∨
      (denominator : ℚ) * ((target - 1 / 2) * 2 ^ exponent) < numerator ∧
        (numerator : ℚ) < denominator * ((target + 1 / 2) * 2 ^ exponent)) :
    roundQuotient (numerator <<< (-exponent).toNat) (denominator <<< exponent.toNat) = target := by
  have power : (0 : ℚ) < 2 ^ (-exponent).toNat := by positivity
  have expand (number : ℚ) : (denominator : ℚ) * (number * 2 ^ exponent) * 2 ^ (-exponent).toNat =
      number * (denominator * 2 ^ exponent.toNat) := by
    rw [zpow_eq_div two_ne_zero exponent]
    field_simp
  have lowScaled := mul_le_mul_of_nonneg_right low power.le
  have highScaled := mul_le_mul_of_nonneg_right high power.le
  rw [expand] at lowScaled highScaled
  simp only [Nat.shiftLeft_eq]
  apply roundQuotient_eq (by positivity)
  · have : (2 * target * (denominator * 2 ^ exponent.toNat) : ℚ) ≤
        2 * (numerator * 2 ^ (-exponent).toNat) + denominator * 2 ^ exponent.toNat := by linarith
    exact_mod_cast this
  · have : (2 * (numerator * 2 ^ (-exponent).toNat) : ℚ) ≤
        2 * target * (denominator * 2 ^ exponent.toNat) + denominator * 2 ^ exponent.toNat := by
      linarith
    exact_mod_cast this
  · intro tie
    rcases strict with even | ⟨lowStrict, highStrict⟩
    · exact even
    · have lowScaled := mul_lt_mul_of_pos_right lowStrict power
      have highScaled := mul_lt_mul_of_pos_right highStrict power
      rw [expand] at lowScaled highScaled
      rcases tie with equal | equal
      · have : (2 * target * (denominator * 2 ^ exponent.toNat) : ℚ) =
            2 * (numerator * 2 ^ (-exponent).toNat) + denominator * 2 ^ exponent.toNat := by
          exact_mod_cast equal
        linarith
      · have : (2 * (numerator * 2 ^ (-exponent).toNat) : ℚ) =
            2 * target * (denominator * 2 ^ exponent.toNat) + denominator * 2 ^ exponent.toNat := by
          exact_mod_cast equal
        linarith

end Double

namespace Decimal.Interval

/-- Whether a rational number lies in an interval. -/
def Holds (interval : Interval) (number : ℚ) : Prop :=
  (interval.below : ℚ) * 2 ^ interval.unit ≤ number ∧
    number ≤ (interval.above : ℚ) * 2 ^ interval.unit ∧
    (interval.closed = true ∨ (interval.below : ℚ) * 2 ^ interval.unit < number ∧
      number < (interval.above : ℚ) * 2 ^ interval.unit)

/-- How far the interval of a double reaches below it, in units of its last place. -/
def reach (mantissa : ℕ) (exponent : ℤ) : ℚ :=
  if mantissa = Double.leastFull ∧ exponent ≠ -1074 then 1 / 4 else 1 / 2

theorem reach_le (mantissa : ℕ) (exponent : ℤ) : reach mantissa exponent ≤ 1 / 2 := by
  unfold reach
  split_ifs <;> norm_num

theorem quarter_le_reach (mantissa : ℕ) (exponent : ℤ) : 1 / 4 ≤ reach mantissa exponent := by
  unfold reach
  split_ifs <;> norm_num

/-- The interval of a double in units of its last place. -/
theorem holds_of_iff {mantissa : ℕ} {exponent : ℤ} (positive : 0 < mantissa) (number : ℚ) :
    (of mantissa exponent).Holds number ↔
      (mantissa - reach mantissa exponent) * 2 ^ exponent ≤ number ∧
        number ≤ (mantissa + 1 / 2) * 2 ^ exponent ∧
        (mantissa % 2 = 0 ∨ (mantissa - reach mantissa exponent) * 2 ^ exponent < number ∧
          number < (mantissa + 1 / 2) * 2 ^ exponent) := by
  have quarter (count : ℚ) : 4 * count * 2 ^ (exponent - 2) = count * 2 ^ exponent := by
    rw [zpow_sub₀ two_ne_zero]
    norm_num
    ring
  have below : ((of mantissa exponent).below : ℚ) * 2 ^ (exponent - 2) =
      (mantissa - reach mantissa exponent) * 2 ^ exponent := by
    rw [← quarter]
    simp only [of, reach]
    split_ifs
    · rw [Nat.cast_sub (by omega)]
      push_cast
      ring
    · rw [Nat.cast_sub (by omega)]
      push_cast
      ring
  have above : ((of mantissa exponent).above : ℚ) * 2 ^ (exponent - 2) =
      (mantissa + 1 / 2) * 2 ^ exponent := by
    rw [← quarter]
    simp only [of]
    push_cast
    ring
  have closed : (of mantissa exponent).closed = true ↔ mantissa % 2 = 0 := by simp [of]
  have unit : (of mantissa exponent).unit = exponent - 2 := rfl
  rw [Holds, unit, below, above, closed]

/-- Where the finer grid below a power of two is used, the number lies below that power. -/
theorem two_zpow_mul (count : ℚ) (exponent : ℤ) :
    count * 2 ^ exponent = 2 * count * 2 ^ (exponent - 1) := by
  rw [zpow_sub₀ two_ne_zero]
  norm_num
  ring

end Decimal.Interval

namespace Double

open Decimal (Interval)

theorem binaryPlaces_le {numerator denominator : ℕ} {bound : ℤ} (above : 0 < numerator)
    (below : 0 < denominator) (less : (numerator : ℚ) < denominator * 2 ^ bound) :
    binaryPlaces numerator denominator ≤ bound := by
  have low := (binaryPlaces_bounds above below).1
  have positive : (0 : ℚ) < denominator := by exact_mod_cast below
  have powers := (mul_lt_mul_iff_right₀ positive).mp (low.trans_lt less)
  have := (zpow_lt_zpow_iff_right₀ (one_lt_two (α := ℚ))).mp powers
  omega

theorem lt_binaryPlaces {numerator denominator : ℕ} {bound : ℤ} (above : 0 < numerator)
    (below : 0 < denominator) (least : (denominator : ℚ) * 2 ^ bound ≤ numerator) :
    bound < binaryPlaces numerator denominator := by
  have high := (binaryPlaces_bounds above below).2
  have positive : (0 : ℚ) < denominator := by exact_mod_cast below
  have powers := (mul_lt_mul_iff_right₀ positive).mp (least.trans_lt high)
  exact (zpow_lt_zpow_iff_right₀ (one_lt_two (α := ℚ))).mp powers

/-- **A quotient in the interval of a double is read as that double.** -/
theorem ofQuotient_of_holds (negative : Bool) {numerator denominator mantissa : ℕ} {exponent : ℤ}
    (canonical : Canonical mantissa exponent) (positive : 0 < mantissa)
    (below : 0 < denominator)
    (holds : (Interval.of mantissa exponent).Holds (numerator / denominator)) :
    ofQuotient negative numerator denominator = .finite negative mantissa exponent canonical := by
  rw [Interval.holds_of_iff positive] at holds
  obtain ⟨low, high, strict⟩ := holds
  have full : (leastFull : ℚ) = 2 ^ 52 := by norm_num [leastFull]
  obtain ⟨small, least, most, normal⟩ := canonical
  have denominatorPos : (0 : ℚ) < denominator := by exact_mod_cast below
  have power : (0 : ℚ) < 2 ^ exponent := by positivity
  have reachLe := Interval.reach_le mantissa exponent
  have mantissaOne : (1 : ℚ) ≤ mantissa := by exact_mod_cast positive
  have mantissaSmall : (mantissa : ℚ) + 1 ≤ 2 ^ 53 := by
    have : mantissa + 1 ≤ 2 ^ 53 := by simp only [leastFull] at small; omega
    exact_mod_cast this
  rw [le_div_iff₀ denominatorPos] at low
  rw [div_le_iff₀ denominatorPos] at high
  have above : 0 < numerator := by
    have : (0 : ℚ) < numerator := by
      refine lt_of_lt_of_le ?_ low
      have : (0 : ℚ) < mantissa - Interval.reach mantissa exponent := by linarith
      positivity
    exact_mod_cast this
  have upperPlaces : binaryPlaces numerator denominator ≤ 53 + exponent := by
    apply binaryPlaces_le above below
    rw [zpow_add₀ two_ne_zero]
    calc (numerator : ℚ) ≤ (mantissa + 1 / 2) * 2 ^ exponent * denominator := high
      _ < 2 ^ 53 * 2 ^ exponent * denominator := by gcongr; linarith
      _ = denominator * (2 ^ (53 : ℤ) * 2 ^ exponent) := by norm_cast; ring
  by_cases own : exponent = -1074 ∨ (denominator : ℚ) * 2 ^ (52 + exponent) ≤ numerator
  · -- the quotient has as many places as the double, so both are on one grid
    have grid : max (binaryPlaces numerator denominator - 53) (-1074) = exponent := by
      rcases own with rfl | enough
      · omega
      · have := lt_binaryPlaces above below enough
        omega
    have rounded : roundQuotient (numerator <<< (-exponent).toNat)
        (denominator <<< exponent.toNat) = mantissa := by
      have lowHalf : (mantissa - 1 / 2) * 2 ^ exponent ≤
          (mantissa - Interval.reach mantissa exponent) * (2 : ℚ) ^ exponent := by gcongr
      apply roundQuotient_shifted below
      · nlinarith
      · linarith
      · refine strict.imp_right fun ⟨lowStrict, highStrict⟩ => ⟨?_, ?_⟩
        · rw [lt_div_iff₀ denominatorPos] at lowStrict
          nlinarith
        · rw [div_lt_iff₀ denominatorPos] at highStrict
          linarith
    simp only [ofQuotient, above.ne', ↓reduceIte, grid, rounded, small.ne]
    exact dif_pos ⟨small, least, most, normal⟩
  · -- the quotient is just below a power of two: its grid is finer, and it rounds up to that power
    rw [not_or, not_le] at own
    obtain ⟨notLeast, fewer⟩ := own
    have mantissaFull : leastFull ≤ mantissa := normal.resolve_right notLeast
    have fullPower : (2 : ℚ) ^ (52 + exponent) = leastFull * 2 ^ exponent := by
      rw [zpow_add₀ two_ne_zero, full]
      norm_cast
    have mantissaEq : mantissa = leastFull := by
      by_contra other
      have : (leastFull : ℚ) + 1 ≤ mantissa := by
        exact_mod_cast lt_of_le_of_ne mantissaFull (Ne.symm other)
      rw [fullPower] at fewer
      have scaled : ((leastFull : ℚ) * 2 ^ exponent) * denominator ≤
          (mantissa - Interval.reach mantissa exponent) * 2 ^ exponent * denominator := by
        gcongr
        linarith
      linarith
    have reachEq : Interval.reach mantissa exponent = 1 / 4 := by
      rw [Interval.reach, if_pos ⟨mantissaEq, notLeast⟩]
    rw [reachEq, mantissaEq] at low
    have places : 51 + exponent < binaryPlaces numerator denominator := by
      apply lt_binaryPlaces above below
      refine le_trans ?_ low
      have : (2 : ℚ) ^ (51 + exponent) ≤ (leastFull - 1 / 4) * 2 ^ exponent := by
        rw [zpow_add₀ two_ne_zero, full]
        gcongr
        norm_num
      nlinarith
    have grid : max (binaryPlaces numerator denominator - 53) (-1074) = exponent - 1 := by
      have := binaryPlaces_le above below fewer
      omega
    have rounded : roundQuotient (numerator <<< (-(exponent - 1)).toNat)
        (denominator <<< (exponent - 1).toNat) = 2 * leastFull := by
      apply roundQuotient_shifted below
      · rw [Interval.two_zpow_mul] at low
        push_cast
        linarith
      · rw [fullPower, Interval.two_zpow_mul] at fewer
        push_cast
        have finer : (0 : ℚ) < 2 ^ (exponent - 1) := by positivity
        nlinarith
      · exact .inl (by simp)
    simp only [ofQuotient, above.ne', ↓reduceIte, grid, rounded, sub_add_cancel]
    subst mantissaEq
    exact dif_pos ⟨small, least, most, normal⟩

end Double
end SealedGrant
