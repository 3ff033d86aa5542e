import Mathlib
import SealedGrant.Proofs.Number.Rounding

/-! # The shortest decimal reads back

The search for the shortest decimal tries finer and finer grids. With seventeen digits the step of
the grid is smaller than the interval of the double, so one of the two neighbours of the double lies
in it: the search always succeeds (`SealedGrant.Decimal.shortest_holds`), and what it finds is read
as the double that it was made for (`SealedGrant.Decimal.ofDecimal_of_value_eq_shortest`).
-/

namespace SealedGrant

/-- Comparing two naturals scaled by powers of two bases. -/
theorem scaled_both_le_iff {first second : ℕ} (firstPos : 0 < first) (secondPos : 0 < second)
    (x y : ℤ) (left right : ℕ) :
    left * (first ^ (-x).toNat * second ^ y.toNat) ≤
        right * first ^ x.toNat * second ^ (-y).toNat ↔
      (left : ℚ) * (second : ℚ) ^ y ≤ right * (first : ℚ) ^ x := by
  have firstPower : (0 : ℚ) < (first : ℚ) ^ (-x).toNat := by positivity
  have secondPower : (0 : ℚ) < (second : ℚ) ^ (-y).toNat := by positivity
  rw [zpow_eq_div (by positivity) x, zpow_eq_div (by positivity) y, mul_div_assoc', mul_div_assoc',
    div_le_div_iff₀ secondPower firstPower, ← Nat.cast_le (α := ℚ)]
  push_cast
  rw [show (left : ℚ) * (first ^ (-x).toNat * second ^ y.toNat) =
    left * second ^ y.toNat * first ^ (-x).toNat by ring]

theorem scaled_both_lt_iff {first second : ℕ} (firstPos : 0 < first) (secondPos : 0 < second)
    (x y : ℤ) (left right : ℕ) :
    left * (first ^ (-x).toNat * second ^ y.toNat) <
        right * first ^ x.toNat * second ^ (-y).toNat ↔
      (left : ℚ) * (second : ℚ) ^ y < right * (first : ℚ) ^ x := by
  have firstPower : (0 : ℚ) < (first : ℚ) ^ (-x).toNat := by positivity
  have secondPower : (0 : ℚ) < (second : ℚ) ^ (-y).toNat := by positivity
  rw [zpow_eq_div (by positivity) x, zpow_eq_div (by positivity) y, mul_div_assoc', mul_div_assoc',
    div_lt_div_iff₀ secondPower firstPower, ← Nat.cast_lt (α := ℚ)]
  push_cast
  rw [show (left : ℚ) * (first ^ (-x).toNat * second ^ y.toNat) =
    left * second ^ y.toNat * first ^ (-x).toNat by ring]

namespace Decimal

/-- The rational number that a decimal stands for. -/
def value (decimal : Decimal) : ℚ :=
  decimal.coefficient * 10 ^ decimal.exponent

theorem contains_eq_true_iff (interval : Interval) (decimal : Decimal) :
    interval.contains decimal = true ↔ interval.Holds decimal.value := by
  have le := scaled_both_le_iff (by norm_num : 0 < 10) two_pos decimal.exponent interval.unit
  have lt := scaled_both_lt_iff (by norm_num : 0 < 10) two_pos decimal.exponent interval.unit
  simp only [Nat.cast_ofNat] at le lt
  have aboveLe := not_congr (lt interval.above decimal.coefficient)
  have aboveLt := not_congr (le interval.above decimal.coefficient)
  rw [not_lt, not_lt] at aboveLe
  rw [not_le, not_le] at aboveLt
  simp only [Interval.contains, Interval.Holds, value, Nat.shiftLeft_eq, Nat.pow_eq]
  by_cases closed : interval.closed = true
  · simp only [closed, if_true, Bool.and_eq_true, decide_eq_true_eq, true_or, and_true]
    rw [le, aboveLe]
  · simp only [closed, Bool.false_eq_true, if_false, Bool.and_eq_true, decide_eq_true_eq, false_or]
    rw [lt, aboveLt]
    constructor
    · rintro ⟨below, above⟩
      exact ⟨below.le, above.le, below, above⟩
    · intro parts
      obtain ⟨-, -, below, above⟩ := parts
      exact ⟨below, above⟩

theorem nearer_cases (interval : Interval) (lower upper : Decimal) :
    interval.nearer lower upper = lower ∨ interval.nearer lower upper = upper := by
  simp only [Interval.nearer]
  split
  · exact .inl rfl
  · split
    · exact .inr rfl
    · split
      · exact .inl rfl
      · exact .inr rfl

/-- What the grid offers lies in the interval. -/
theorem contains_of_onGrid? {interval : Interval} {exponent : ℤ} {decimal : Decimal}
    (found : interval.onGrid? exponent = some decimal) : interval.contains decimal = true := by
  unfold Interval.onGrid? at found
  simp only at found
  split at found
  · next lower upper =>
    cases found
    rcases nearer_cases interval _ _ with equal | equal
    · rwa [equal]
    · rwa [equal]
  · next lower _ =>
    cases found
    exact lower
  · next _ upper =>
    cases found
    exact upper
  · cases found

/-- Where the grid offers nothing, the two neighbours of the middle lie outside. -/
theorem neighbours_of_onGrid?_eq_none {interval : Interval} {exponent : ℤ}
    (missing : interval.onGrid? exponent = none) :
    ∃ floor : ℕ,
      (floor : ℚ) * 10 ^ exponent ≤ interval.value * 2 ^ interval.unit ∧
      (interval.value : ℚ) * 2 ^ interval.unit < (floor + 1) * 10 ^ exponent ∧
      ¬ interval.Holds (floor * 10 ^ exponent) ∧
      ¬ interval.Holds ((floor + 1) * 10 ^ exponent) := by
  have le := scaled_both_le_iff two_pos (by norm_num : 0 < 10) interval.unit exponent
  have lt := scaled_both_lt_iff (by norm_num : 0 < 10) two_pos exponent interval.unit
  simp only [Nat.cast_ofNat] at le lt
  unfold Interval.onGrid? at missing
  simp only [Nat.shiftLeft_eq, Nat.pow_eq] at missing
  set floor := interval.value * 10 ^ (-exponent).toNat * 2 ^ interval.unit.toNat /
    (10 ^ exponent.toNat * 2 ^ (-interval.unit).toNat) with floor_eq
  have outside : interval.contains ⟨floor, exponent⟩ = false ∧
      interval.contains ⟨floor + 1, exponent⟩ = false := by
    split at missing
    · cases missing
    · cases missing
    · cases missing
    · next lower upper => exact ⟨lower, upper⟩
  refine ⟨floor, ?_, ?_, ?_, ?_⟩
  · apply (le floor interval.value).mp
    calc floor * (2 ^ (-interval.unit).toNat * 10 ^ exponent.toNat)
        = floor * (10 ^ exponent.toNat * 2 ^ (-interval.unit).toNat) := by ring
      _ ≤ interval.value * 10 ^ (-exponent).toNat * 2 ^ interval.unit.toNat :=
          Nat.div_mul_le_self _ _
      _ = interval.value * 2 ^ interval.unit.toNat * 10 ^ (-exponent).toNat := by ring
  · have next := (lt interval.value (floor + 1)).mp (by
      calc interval.value * (10 ^ (-exponent).toNat * 2 ^ interval.unit.toNat)
          = interval.value * 10 ^ (-exponent).toNat * 2 ^ interval.unit.toNat := by ring
        _ < (10 ^ exponent.toNat * 2 ^ (-interval.unit).toNat) * (floor + 1) :=
            Nat.lt_mul_div_succ _ (by positivity)
        _ = (floor + 1) * 10 ^ exponent.toNat * 2 ^ (-interval.unit).toNat := by ring)
    exact_mod_cast next
  · intro holds
    have := (contains_eq_true_iff interval ⟨floor, exponent⟩).mpr holds
    rw [outside.1] at this
    cases this
  · intro holds
    have := (contains_eq_true_iff interval ⟨floor + 1, exponent⟩).mpr (by
      simpa [value] using holds)
    rw [outside.2] at this
    cases this

/-- A positive number lies between the powers of ten that its digits show. -/
theorem length_toDigits_bounds {n : ℕ} (positive : 0 < n) :
    (10 : ℚ) ^ ((Nat.toDigits 10 n).length - 1 : ℤ) ≤ n ∧
      (n : ℚ) < 10 ^ ((Nat.toDigits 10 n).length : ℤ) := by
  have long : 0 < (Nat.toDigits 10 n).length := Nat.length_toDigits_pos
  constructor
  · rw [show ((Nat.toDigits 10 n).length - 1 : ℤ) = ((Nat.toDigits 10 n).length - 1 : ℕ) by omega,
      zpow_natCast]
    by_cases one : (Nat.toDigits 10 n).length - 1 = 0
    · rw [one, pow_zero]
      exact_mod_cast positive
    · have fewer := mt (Nat.length_toDigits_le_iff (n := n) (by norm_num : 1 < 10)
        (Nat.pos_of_ne_zero one)).mpr (by omega)
      exact_mod_cast not_lt.mp fewer
  · rw [zpow_natCast]
    exact_mod_cast (Nat.length_toDigits_le_iff (by norm_num : 1 < 10) long).mp le_rfl

/-- The decimal places of a positive quotient enclose it between two powers of ten. -/
theorem places_bounds {numerator denominator : ℕ} (above : 0 < numerator)
    (below : 0 < denominator) :
    (denominator : ℚ) * 10 ^ (places numerator denominator - 1) ≤ numerator ∧
      (numerator : ℚ) < denominator * 10 ^ places numerator denominator := by
  have upper := length_toDigits_bounds above
  have lower := length_toDigits_bounds below
  obtain ⟨low, high⟩ := quotient_bounds (by norm_num : (0 : ℚ) < 10) upper.1
    (by simpa using upper.2) lower.1 (by simpa using lower.2)
  rw [sub_sub_sub_cancel_right] at low high
  simpa only [places, Nat.pow_eq, Nat.cast_ofNat] using
    refined_bounds (by norm_num : 0 < 10) low high

/-- The grid of seventeen digits is finer than the interval of a double. -/
theorem onGrid?_ne_none {mantissa : ℕ} {exponent grid : ℤ} (positive : 0 < mantissa)
    (small : mantissa < 2 * Double.leastFull)
    (fine : (10 : ℚ) ^ (grid + 16) ≤ mantissa * 2 ^ exponent) :
    (Interval.of mantissa exponent).onGrid? grid ≠ none := by
  intro missing
  obtain ⟨floor, low, high, outLow, outHigh⟩ := neighbours_of_onGrid?_eq_none missing
  have middle : ((Interval.of mantissa exponent).value : ℚ) *
      2 ^ (Interval.of mantissa exponent).unit = mantissa * 2 ^ exponent := by
    simp only [Interval.of]
    rw [zpow_sub₀ two_ne_zero]
    push_cast
    ring
  rw [middle] at low high
  rw [Interval.holds_of_iff positive] at outLow outHigh
  have power : (0 : ℚ) < 2 ^ exponent := by positivity
  have reachLe := Interval.reach_le mantissa exponent
  have reachPos := Interval.quarter_le_reach mantissa exponent
  have belowFar : (floor : ℚ) * 10 ^ grid ≤
      (mantissa - Interval.reach mantissa exponent) * 2 ^ exponent := by
    by_contra near
    rw [not_le] at near
    have less : (floor : ℚ) * 10 ^ grid < (mantissa + 1 / 2) * 2 ^ exponent := by nlinarith
    exact outLow ⟨near.le, less.le, .inr ⟨near, less⟩⟩
  have aboveFar : (mantissa + 1 / 2) * 2 ^ exponent ≤ (floor + 1 : ℚ) * 10 ^ grid := by
    by_contra near
    rw [not_le] at near
    have more : (mantissa - Interval.reach mantissa exponent) * 2 ^ exponent <
        (floor + 1 : ℚ) * 10 ^ grid := by nlinarith
    exact outHigh ⟨more.le, near.le, .inr ⟨more, near⟩⟩
  -- the step of the grid is at least as wide as the interval, but ten digits and six make it finer
  have wide : (1 / 2 + Interval.reach mantissa exponent) * 2 ^ exponent ≤ (10 : ℚ) ^ grid := by
    linarith
  rw [zpow_add₀ (by norm_num)] at fine
  have counted : (1 / 2 + Interval.reach mantissa exponent) * 10 ^ (16 : ℤ) ≤ (mantissa : ℚ) := by
    refine le_of_mul_le_mul_right ?_ power
    calc (1 / 2 + Interval.reach mantissa exponent) * 10 ^ (16 : ℤ) * 2 ^ exponent
        = (1 / 2 + Interval.reach mantissa exponent) * 2 ^ exponent * 10 ^ (16 : ℤ) := by ring
      _ ≤ (10 : ℚ) ^ grid * 10 ^ (16 : ℤ) := by gcongr
      _ ≤ mantissa * 2 ^ exponent := fine
  have tooFew : (mantissa : ℚ) < 2 * 4503599627370496 := by
    exact_mod_cast small
  rw [Interval.reach] at counted
  split at counted
  · next full =>
    rw [full.1] at counted
    norm_num [Double.leastFull] at counted
  · rw [show (1 / 2 + 1 / 2 : ℚ) * 10 ^ (16 : ℤ) = 10000000000000000 by norm_num] at counted
    linarith

/-- **The search succeeds.** The shortest decimal of a double lies in its interval. -/
theorem shortest_holds {mantissa : ℕ} {exponent : ℤ} (positive : 0 < mantissa)
    (small : mantissa < 2 * Double.leastFull) :
    (Interval.of mantissa exponent).Holds (shortest mantissa exponent).value := by
  have numeratorPos : 0 < mantissa <<< exponent.toNat := by
    rw [Nat.shiftLeft_eq]
    positivity
  have denominatorPos : 0 < 1 <<< (-exponent).toNat := by
    rw [Nat.shiftLeft_eq]
    positivity
  obtain ⟨low, -⟩ := places_bounds numeratorPos denominatorPos
  simp only [shortest]
  set leading := places (mantissa <<< exponent.toNat) (1 <<< (-exponent).toNat)
  have fine : (10 : ℚ) ^ (leading - 17 + 16) ≤ mantissa * 2 ^ exponent := by
    rw [show leading - 17 + 16 = leading - 1 by ring, zpow_eq_div two_ne_zero exponent,
      mul_div_assoc', le_div_iff₀ (by positivity)]
    simp only [Nat.shiftLeft_eq] at low
    push_cast at low
    linarith
  cases found : (List.range 17).findSome? fun more : ℕ =>
      (Interval.of mantissa exponent).onGrid? (leading - ((more : ℤ) + 1)) with
  | none =>
    rw [List.findSome?_eq_none_iff] at found
    exact absurd (found 16 (by simp)) (onGrid?_ne_none positive small fine)
  | some decimal =>
    obtain ⟨more, -, offered⟩ := List.exists_of_findSome?_eq_some found
    exact (contains_eq_true_iff _ _).mp (contains_of_onGrid? offered)

/-- A number is divisible by the power of ten that the zeros at its end show. -/
theorem pow_zeros_dvd (n : ℕ) :
    10 ^ ((Nat.toDigits 10 n).reverse.takeWhile (· = '0')).length ∣ n := by
  set zeros := (Nat.toDigits 10 n).reverse.takeWhile (· = '0') with zeros_eq
  have plain : zeros = List.replicate zeros.length '0' := by
    rw [List.eq_replicate_iff]
    refine ⟨rfl, fun c member => ?_⟩
    simpa using List.mem_takeWhile_imp member
  have split : Nat.toDigits 10 n =
      ((Nat.toDigits 10 n).reverse.dropWhile (· = '0')).reverse ++
        List.replicate zeros.length '0' := by
    rw [← List.reverse_inj, List.reverse_append, List.reverse_replicate, List.reverse_reverse,
      ← plain, zeros_eq, List.takeWhile_append_dropWhile]
  have value := Nat.ofDigitChars_ten_toDigits (n := n)
  rw [split, Nat.ofDigitChars_append, Nat.ofDigitChars_replicate_zero] at value
  exact ⟨_, value.symm⟩

/-- Zeros at the end of the coefficient go into the exponent. -/
theorem value_trimZeros (decimal : Decimal) : decimal.trimZeros.value = decimal.value := by
  obtain ⟨rest, split⟩ := pow_zeros_dvd decimal.coefficient
  simp only [trimZeros, value, Nat.pow_eq]
  set zeros := ((Nat.toDigits 10 decimal.coefficient).reverse.takeWhile (· = '0')).length
  have quotient : decimal.coefficient / 10 ^ zeros = rest := by
    rw [split]
    exact Nat.mul_div_cancel_left _ (by positivity)
  rw [quotient, split, zpow_add₀ (by norm_num), zpow_natCast]
  push_cast
  ring

/-- Three binary places are less than one decimal place. -/
theorem two_zpow_lt_ten_zpow {places : ℕ} (positive : 0 < places) :
    (2 : ℚ) ^ (3 * places : ℤ) < 10 ^ (places : ℤ) := by
  rw [zpow_mul, zpow_natCast, zpow_natCast]
  exact pow_lt_pow_left₀ (by norm_num) (by norm_num) positive.ne'

/-- Every number that rounds to a positive double lies within four hundred decimal places. -/
theorem Interval.bounds_of_holds {mantissa : ℕ} {exponent : ℤ} {number : ℚ}
    (canonical : Double.Canonical mantissa exponent) (positive : 0 < mantissa)
    (holds : (of mantissa exponent).Holds number) :
    10 ^ (-400 : ℤ) ≤ number ∧ number < 10 ^ (400 : ℤ) := by
  obtain ⟨small, least, most, -⟩ := canonical
  obtain ⟨low, high, -⟩ := (holds_of_iff positive number).mp holds
  have mantissaOne : (1 : ℚ) ≤ mantissa := by exact_mod_cast positive
  have mantissaSmall : (mantissa : ℚ) + 1 ≤ 2 ^ (53 : ℤ) := by
    have : mantissa + 1 ≤ 2 ^ 53 := by
      simp only [Double.leastFull] at small
      omega
    exact_mod_cast this
  have reachLe := reach_le mantissa exponent
  have lt_ten_pow : (2 : ℚ) ^ (1200 : ℤ) < 10 ^ (400 : ℤ) := by
    simpa only [Nat.cast_ofNat, Int.reduceMul] using two_zpow_lt_ten_zpow (by norm_num : 0 < 400)
  have ten_pow_neg_le : (10 : ℚ) ^ (-400 : ℤ) ≤ 2 ^ (-1200 : ℤ) := by
    rw [zpow_neg, zpow_neg]
    exact inv_anti₀ (zpow_pos two_pos _) lt_ten_pow.le
  have power (larger : ℤ) : (0 : ℚ) < 2 ^ larger := by positivity
  have grows {smaller larger : ℤ} (le : smaller ≤ larger) : (2 : ℚ) ^ smaller ≤ 2 ^ larger :=
    zpow_le_zpow_right₀ one_le_two le
  constructor
  · calc (10 : ℚ) ^ (-400 : ℤ) ≤ 2 ^ (-1200 : ℤ) := ten_pow_neg_le
      _ ≤ 2 ^ (-1 + -1074 : ℤ) := grows (by norm_num)
      _ = 2 ^ (-1 : ℤ) * 2 ^ (-1074 : ℤ) := zpow_add₀ two_ne_zero _ _
      _ ≤ (mantissa - reach mantissa exponent) * 2 ^ exponent := by
          apply mul_le_mul _ (grows least) (power _).le
          · linarith
          · norm_num
            linarith
      _ ≤ number := low
  · calc number ≤ (mantissa + 1 / 2) * 2 ^ exponent := high
      _ ≤ 2 ^ (53 : ℤ) * 2 ^ (971 : ℤ) := by
          apply mul_le_mul _ (grows most) (power _).le (power _).le
          linarith
      _ = 2 ^ (53 + 971 : ℤ) := (zpow_add₀ two_ne_zero _ _).symm
      _ ≤ 2 ^ (1200 : ℤ) := grows (by norm_num)
      _ < 10 ^ (400 : ℤ) := lt_ten_pow

theorem coefficient_pos_of_holds {mantissa : ℕ} {exponent : ℤ} {decimal : Decimal}
    (canonical : Double.Canonical mantissa exponent) (positive : 0 < mantissa)
    (holds : (Interval.of mantissa exponent).Holds decimal.value) : 0 < decimal.coefficient := by
  have low := (Interval.bounds_of_holds canonical positive holds).1
  refine Nat.pos_of_ne_zero fun zero => ?_
  rw [value, zero, Nat.cast_zero, zero_mul] at low
  exact absurd low (not_le.mpr (zpow_pos (by norm_num) _))

/-- A decimal in the interval of a double is read as that double. -/
theorem ofDecimal_of_holds (negative : Bool) {mantissa : ℕ} {exponent : ℤ} {decimal : Decimal}
    (canonical : Double.Canonical mantissa exponent) (positive : 0 < mantissa)
    (holds : (Interval.of mantissa exponent).Holds decimal.value) :
    Double.ofDecimal negative decimal.coefficient decimal.exponent =
      .finite negative mantissa exponent canonical := by
  obtain ⟨low, high⟩ := Interval.bounds_of_holds canonical positive holds
  have ten (power : ℤ) : (0 : ℚ) < 10 ^ power := by positivity
  have nonzero := (coefficient_pos_of_holds canonical positive holds).ne'
  obtain ⟨digitsLow, digitsHigh⟩ := length_toDigits_bounds (Nat.pos_of_ne_zero nonzero)
  have least : (10 : ℚ) ^ ((Nat.toDigits 10 decimal.coefficient).length - 1 + decimal.exponent) ≤
      decimal.value := by
    rw [zpow_add₀ (by norm_num)]
    exact mul_le_mul_of_nonneg_right digitsLow (ten _).le
  have most : decimal.value <
      10 ^ ((Nat.toDigits 10 decimal.coefficient).length + decimal.exponent) := by
    rw [zpow_add₀ (by norm_num)]
    exact mul_lt_mul_of_pos_right digitsHigh (ten _)
  have notHuge : (Nat.toDigits 10 decimal.coefficient).length + decimal.exponent ≤ 400 := by
    have := (zpow_lt_zpow_iff_right₀ (by norm_num)).mp (least.trans_lt high)
    omega
  have notTiny : -400 ≤ (Nat.toDigits 10 decimal.coefficient).length + decimal.exponent := by
    have := (zpow_lt_zpow_iff_right₀ (by norm_num)).mp (low.trans_lt most)
    omega
  simp only [Double.ofDecimal, nonzero, not_lt.mpr notHuge, not_lt.mpr notTiny, ↓reduceIte,
    Nat.pow_eq]
  apply Double.ofQuotient_of_holds negative canonical positive (by positivity)
  convert holds using 1
  rw [value, zpow_eq_div (by norm_num) decimal.exponent]
  push_cast
  ring

theorem coefficient_shortest_pos {mantissa : ℕ} {exponent : ℤ}
    (canonical : Double.Canonical mantissa exponent) (positive : 0 < mantissa) :
    0 < (shortest mantissa exponent).trimZeros.coefficient := by
  apply coefficient_pos_of_holds canonical positive
  rw [value_trimZeros]
  exact shortest_holds positive canonical.1

/-- **What is written is read back.** A decimal of the value of the shortest one is read as the
double that it was made for. -/
theorem ofDecimal_of_value_eq_shortest (negative : Bool) {mantissa : ℕ} {exponent : ℤ}
    {decimal : Decimal} (canonical : Double.Canonical mantissa exponent) (positive : 0 < mantissa)
    (equal : decimal.value = (shortest mantissa exponent).trimZeros.value) :
    Double.ofDecimal negative decimal.coefficient decimal.exponent =
      .finite negative mantissa exponent canonical := by
  apply ofDecimal_of_holds negative canonical positive
  rw [equal, value_trimZeros]
  exact shortest_holds positive canonical.1

end Decimal
end SealedGrant
