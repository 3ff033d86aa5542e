import Mathlib
import SealedGrant.Proofs.Number.Order
import SealedGrant.Proofs.Number.Rounding

/-! # Whole parts and sums

A number lies before every whole number above its whole part
(`SealedGrant.Number.lt_int_of_whole`), and unless it is negative its whole part does not lie behind
it (`SealedGrant.Number.int_le_of_whole`). A sum of doubles is rounded, but it does not fall short
of a whole number that the exact sum reaches, as long as doubles count up to that number one by one
(`SealedGrant.Double.int_le_add`). The sum with an integer below `2 ^ 64` always exists
(`SealedGrant.Number.addable_of_lt`).
-/

namespace SealedGrant

namespace Number

variable {left middle right : Number}

theorem value?_finite (negative : Bool) (mantissa : ℕ) (exponent : ℤ)
    (canonical : Double.Canonical mantissa exponent) :
    value? (.double (.finite negative mantissa exponent canonical)) =
      some ((((Double.signed negative mantissa : ℤ) * 2 ^ exponent : ℚ) : WithTop ℚ) : Line) := rfl

theorem lt_of_lt_of_le (less : left.lt middle = true) (most : middle.le right = true) :
    left.lt right = true := by
  obtain ⟨l, m, one, two, less⟩ := lt_eq_true_iff.mp less
  obtain ⟨m, r, same, three, most⟩ := le_eq_true_iff.mp most
  rw [two] at same
  cases same
  exact lt_eq_true_iff.mpr ⟨l, r, one, three, less.trans_le most⟩

theorem lt_of_le_of_lt (most : left.le middle = true) (less : middle.lt right = true) :
    left.lt right = true := by
  obtain ⟨l, m, one, two, most⟩ := le_eq_true_iff.mp most
  obtain ⟨m, r, same, three, less⟩ := lt_eq_true_iff.mp less
  rw [two] at same
  cases same
  exact lt_eq_true_iff.mpr ⟨l, r, one, three, most.trans_lt less⟩

/-- An integer lies before a finite double, or on it, when its value does. -/
theorem int_le_finite_iff {n : ℤ} {negative : Bool} {mantissa : ℕ} {exponent : ℤ}
    {canonical : Double.Canonical mantissa exponent} :
    (Number.int n).le (.double (.finite negative mantissa exponent canonical)) = true ↔
      (n : ℚ) ≤ (Double.signed negative mantissa : ℤ) * 2 ^ exponent := by
  rw [le_eq_true_iff, value?_int, value?_finite]
  constructor
  · intro parts
    obtain ⟨_, _, one, two, most⟩ := parts
    cases one
    cases two
    exact WithTop.coe_le_coe.mp (WithBot.coe_le_coe.mp most)
  · intro most
    exact ⟨_, _, rfl, rfl, WithBot.coe_le_coe.mpr (WithTop.coe_le_coe.mpr most)⟩

theorem int_le_infinite (n : ℤ) : (Number.int n).le (.double (.infinite false)) = true := by
  refine le_eq_true_iff.mpr ⟨_, _, value?_int n, rfl, ?_⟩
  exact WithBot.coe_le_coe.mpr le_top

theorem truncate_of_whole {reading : Number} {time : ℤ} (shows : reading.whole = .ok time) :
    reading.truncate = time := by
  cases reading with
  | int n => exact Except.ok.inj shows
  | double d =>
    cases d with
    | finite negative mantissa exponent canonical => exact Except.ok.inj shows
    | infinite negative => cases shows
    | nan => cases shows

theorem sum_eq_ok {left right total : Number} (added : left.sum right = .ok total) :
    total = left.add right := by
  unfold sum at added
  split at added
  · exact (Except.ok.inj added).symm
  · cases added

/-- Dropping the digits after the point takes less than one away. -/
theorem dropped_bounds (mantissa : ℕ) (exponent : ℤ) :
    ((mantissa <<< exponent.toNat >>> (-exponent).toNat : ℕ) : ℚ) ≤ mantissa * 2 ^ exponent ∧
      (mantissa : ℚ) * 2 ^ exponent <
        ((mantissa <<< exponent.toNat >>> (-exponent).toNat : ℕ) : ℚ) + 1 := by
  have power : (0 : ℚ) < 2 ^ (-exponent).toNat := by positivity
  have value : (mantissa : ℚ) * 2 ^ exponent =
      ((mantissa * 2 ^ exponent.toNat : ℕ) : ℚ) / ((2 ^ (-exponent).toNat : ℕ) : ℚ) := by
    rw [zpow_eq_div two_ne_zero, mul_div_assoc']
    push_cast
    rfl
  rw [value, Nat.shiftLeft_eq, Nat.shiftRight_eq_div_pow]
  generalize mantissa * 2 ^ exponent.toNat = numerator
  have positive : 0 < 2 ^ (-exponent).toNat := by positivity
  generalize 2 ^ (-exponent).toNat = denominator at positive
  have cast : (0 : ℚ) < denominator := by exact_mod_cast positive
  refine ⟨Nat.cast_div_le, ?_⟩
  rw [div_lt_iff₀ cast]
  exact_mod_cast Nat.lt_mul_of_div_lt (Nat.lt_succ_self _) positive

/-- **The whole part of a number**: the number lies before the next whole number, and unless it is
negative its whole part does not lie behind it. -/
theorem exists_value_of_whole {reading : Number} {time : ℤ} (shows : reading.whole = .ok time) :
    ∃ value : ℚ, reading.value? = some ((value : WithTop ℚ) : Line) ∧ value < time + 1 ∧
      (0 ≤ value → 0 ≤ time ∧ (time : ℚ) ≤ value) := by
  cases reading with
  | int n =>
    obtain rfl : n = time := Except.ok.inj shows
    refine ⟨n, value?_int n, lt_add_one _, fun nonneg => ⟨?_, le_rfl⟩⟩
    exact_mod_cast nonneg
  | double d =>
    cases d with
    | infinite negative => cases shows
    | nan => cases shows
    | finite negative mantissa exponent canonical =>
      obtain ⟨low, high⟩ := dropped_bounds mantissa exponent
      have dropped : Double.signed negative
          (mantissa <<< exponent.toNat >>> (-exponent).toNat) = time := Except.ok.inj shows
      refine ⟨_, value?_finite negative mantissa exponent canonical, ?_⟩
      generalize mantissa <<< exponent.toNat >>> (-exponent).toNat = part at low high dropped
      cases negative with
      | false =>
        obtain rfl : (part : ℤ) = time := dropped
        exact ⟨by exact_mod_cast high, fun _ => ⟨Int.natCast_nonneg part, by exact_mod_cast low⟩⟩
      | true =>
        obtain rfl : -(part : ℤ) = time := dropped
        have value : ((Double.signed true mantissa : ℤ) : ℚ) * 2 ^ exponent =
            -(mantissa * 2 ^ exponent) := by simp [Double.signed]
        rw [value]
        push_cast
        refine ⟨by linarith, fun nonneg => ?_⟩
        have nothing : part = 0 := by
          have : (part : ℚ) ≤ 0 := by linarith
          exact_mod_cast le_antisymm this (by positivity)
        rw [nothing]
        exact ⟨le_rfl, by simpa using nonneg⟩

/-- **A number lies before what is above its whole part.** -/
theorem lt_int_of_whole {reading : Number} {time ends : ℤ} (shows : reading.whole = .ok time)
    (early : time < ends) : reading.lt (.int ends) = true := by
  obtain ⟨value, place, high, -⟩ := exists_value_of_whole shows
  have next : (time : ℚ) + 1 ≤ ends := by exact_mod_cast early
  refine lt_eq_true_iff.mpr ⟨_, _, place, value?_int ends, ?_⟩
  exact_mod_cast high.trans_le next

/-- **The whole part of a number that is not negative** does not lie behind the number. -/
theorem int_le_of_whole {reading : Number} {time : ℤ} (shows : reading.whole = .ok time)
    (nonneg : (Number.int 0).le reading = true) :
    0 ≤ time ∧ (Number.int time).le reading = true := by
  obtain ⟨value, place, -, low⟩ := exists_value_of_whole shows
  obtain ⟨zero, found, one, two, most⟩ := le_eq_true_iff.mp nonneg
  rw [value?_int] at one
  cases one
  rw [place] at two
  cases two
  obtain ⟨timeNonneg, below⟩ := low (by exact_mod_cast most)
  refine ⟨timeNonneg, le_eq_true_iff.mpr ⟨_, _, value?_int time, place, ?_⟩⟩
  exact_mod_cast below

end Number

namespace Double

theorem div_le_roundQuotient (numerator denominator : ℕ) :
    numerator / denominator ≤ roundQuotient numerator denominator := by
  simp only [roundQuotient]
  split_ifs <;> omega

theorem roundQuotient_le (numerator denominator : ℕ) :
    roundQuotient numerator denominator ≤ numerator / denominator + 1 := by
  simp only [roundQuotient]
  split_ifs <;> omega

theorem int_le_ofForm {n : ℤ} {mantissa : ℕ} {exponent : ℤ}
    (most : (n : ℚ) ≤ mantissa * 2 ^ exponent) :
    (Number.int n).le (.double (ofForm false mantissa exponent)) = true := by
  unfold ofForm
  split
  · exact Number.int_le_finite_iff.mpr most
  · exact Number.int_le_infinite n

/-- On a grid of whole numbers or a finer one, the quotient rounds to no less than a whole number
that it reaches. -/
theorem le_mantissa_of_grid_le {bound numerator denominator : ℕ} {exponent : ℤ}
    (fine : exponent ≤ 0) (below : 0 < denominator) (enough : bound * denominator ≤ numerator) :
    (bound : ℚ) ≤ roundQuotient (numerator <<< (-exponent).toNat)
      (denominator <<< exponent.toNat) * 2 ^ exponent := by
  have rounded := div_le_roundQuotient (numerator <<< (-exponent).toNat)
    (denominator <<< exponent.toNat)
  have whole : exponent.toNat = 0 := by omega
  rw [whole, Nat.shiftLeft_zero, Nat.shiftLeft_eq] at rounded ⊢
  rw [zpow_eq_div two_ne_zero, whole, pow_zero]
  have least : bound * 2 ^ (-exponent).toNat ≤
      numerator * 2 ^ (-exponent).toNat / denominator := by
    rw [Nat.le_div_iff_mul_le below]
    calc bound * 2 ^ (-exponent).toNat * denominator
        = bound * denominator * 2 ^ (-exponent).toNat := by ring
      _ ≤ numerator * 2 ^ (-exponent).toNat := Nat.mul_le_mul_right _ enough
  have power : (0 : ℚ) < 2 ^ (-exponent).toNat := by positivity
  rw [mul_one_div, le_div_iff₀ power]
  exact_mod_cast least.trans rounded

/-- On a coarser grid a quotient of 53 digits rounds to at least the power of two that begins
them. -/
theorem le_mantissa_of_grid_pos {numerator denominator : ℕ} {exponent : ℤ} (coarse : 0 < exponent)
    (below : 0 < denominator) (least : (denominator : ℚ) * 2 ^ (exponent + 52) ≤ numerator) :
    (2 : ℚ) ^ 53 ≤ roundQuotient (numerator <<< (-exponent).toNat)
      (denominator <<< exponent.toNat) * 2 ^ exponent := by
  have rounded := div_le_roundQuotient (numerator <<< (-exponent).toNat)
    (denominator <<< exponent.toNat)
  obtain ⟨count, rfl⟩ : ∃ count : ℕ, exponent = count + 1 := ⟨(exponent - 1).toNat, by omega⟩
  have up : ((count : ℤ) + 1).toNat = count + 1 := by omega
  have down : (-((count : ℤ) + 1)).toNat = 0 := by omega
  rw [up, down, Nat.shiftLeft_zero, Nat.shiftLeft_eq] at rounded ⊢
  have enough : denominator * 2 ^ (count + 1) * 2 ^ 52 ≤ numerator := by
    have split : (2 : ℚ) ^ ((count : ℤ) + 1 + 52) = 2 ^ (count + 1) * 2 ^ 52 := by
      rw [← pow_add]
      exact_mod_cast rfl
    rw [split, ← mul_assoc] at least
    exact_mod_cast least
  have full : 2 ^ 52 ≤ numerator / (denominator * 2 ^ (count + 1)) := by
    rw [Nat.le_div_iff_mul_le (by positivity), mul_comm]
    exact enough
  have mantissa : ((2 ^ 52 : ℕ) : ℚ) ≤
      roundQuotient numerator (denominator * 2 ^ (count + 1)) := by
    exact_mod_cast full.trans rounded
  have step : (2 : ℚ) ≤ 2 ^ ((count : ℤ) + 1) := by
    have one : (1 : ℚ) ≤ 2 ^ count := one_le_pow₀ one_le_two
    have power : (2 : ℚ) ^ ((count : ℤ) + 1) = 2 ^ count * 2 := by
      rw [← pow_succ]
      exact_mod_cast rfl
    rw [power]
    linarith
  calc (2 : ℚ) ^ 53 = ((2 ^ 52 : ℕ) : ℚ) * 2 := by norm_num
    _ ≤ roundQuotient numerator (denominator * 2 ^ (count + 1)) * 2 ^ ((count : ℤ) + 1) := by
      gcongr

/-- **Rounding does not fall short** of a whole number that the quotient reaches, as long as doubles
count up to it one by one. -/
theorem int_le_ofQuotient {bound numerator denominator : ℕ} (positive : 0 < bound)
    (small : bound ≤ 2 ^ 53) (below : 0 < denominator) (enough : bound * denominator ≤ numerator) :
    (Number.int bound).le (.double (ofQuotient false numerator denominator)) = true := by
  have above : 0 < numerator := lt_of_lt_of_le (Nat.mul_pos positive below) enough
  have places := (binaryPlaces_bounds above below).1
  simp only [ofQuotient, above.ne', ↓reduceIte]
  -- either the grid holds every whole number, or the quotient fills 53 digits beyond the bound
  have grid : max (binaryPlaces numerator denominator - 53) (-1074) ≤ 0 ∨
      0 < max (binaryPlaces numerator denominator - 53) (-1074) ∧
        max (binaryPlaces numerator denominator - 53) (-1074) + 52 =
          binaryPlaces numerator denominator - 1 := by omega
  generalize max (binaryPlaces numerator denominator - 53) (-1074) = exponent at grid ⊢
  have reached : (bound : ℚ) ≤ roundQuotient (numerator <<< (-exponent).toNat)
      (denominator <<< exponent.toNat) * 2 ^ exponent := by
    rcases grid with fine | ⟨coarse, first⟩
    · exact le_mantissa_of_grid_le fine below enough
    · rw [← first] at places
      have most : (bound : ℚ) ≤ 2 ^ 53 := by exact_mod_cast small
      exact most.trans (le_mantissa_of_grid_pos coarse below places)
  split
  · next full =>
    apply int_le_ofForm
    rw [full] at reached
    rw [zpow_add₀ two_ne_zero]
    push_cast at reached ⊢
    linarith
  · exact int_le_ofForm (by exact_mod_cast reached)

/-- A double that does not lie before an integer is finite, with a value that the integer does not
exceed, or infinite. -/
theorem cases_of_int_le {n : ℤ} {d : Double} (most : (Number.int n).le (.double d) = true) :
    d = .infinite false ∨ ∃ negative mantissa exponent canonical,
      d = .finite negative mantissa exponent canonical ∧
        (n : ℚ) ≤ (signed negative mantissa : ℤ) * 2 ^ exponent := by
  cases d with
  | finite negative mantissa exponent canonical =>
    exact Or.inr ⟨negative, mantissa, exponent, canonical, rfl,
      Number.int_le_finite_iff.mp most⟩
  | infinite negative =>
    cases negative with
    | false => exact Or.inl rfl
    | true =>
      obtain ⟨l, r, one, two, below⟩ := Number.le_eq_true_iff.mp most
      cases one
      cases two
      exact absurd below (not_le.mpr (WithBot.bot_lt_coe _))
  | nan =>
    obtain ⟨l, r, one, two, below⟩ := Number.le_eq_true_iff.mp most
    cases two

/-- Moving a signed mantissa to a finer grid keeps its value. -/
theorem signed_shift_mul_grid (negative : Bool) (mantissa : ℕ) {exponent least : ℤ}
    (below : least ≤ exponent) :
    ((signed negative (mantissa <<< (exponent - least).toNat) : ℤ) : ℚ) * 2 ^ least =
      (signed negative mantissa : ℤ) * 2 ^ exponent := by
  rw [← Number.shift_mul_grid (signed negative mantissa) below]
  congr 2
  rw [Int.shiftLeft_eq, Nat.shiftLeft_eq]
  cases negative <;> simp [signed]

/-- **A sum does not fall short** of a whole number that its parts reach together, as long as
doubles count up to it one by one. -/
theorem int_le_add {first second : ℤ} {left right : Double}
    (leftMost : (Number.int first).le (.double left) = true)
    (rightMost : (Number.int second).le (.double right) = true) (positive : 0 < first + second)
    (small : first + second ≤ 2 ^ 53) :
    (Number.int (first + second)).le (.double (left.add right)) = true := by
  rcases cases_of_int_le leftMost with rfl | ⟨n₁, m₁, e₁, canonical₁, rfl, leftValue⟩
  · rcases cases_of_int_le rightMost with rfl | ⟨n₂, m₂, e₂, canonical₂, rfl, -⟩
    · exact Number.int_le_infinite _
    · exact Number.int_le_infinite _
  · rcases cases_of_int_le rightMost with rfl | ⟨n₂, m₂, e₂, canonical₂, rfl, rightValue⟩
    · exact Number.int_le_infinite _
    · rw [← signed_shift_mul_grid n₁ m₁ (min_le_left e₁ e₂)] at leftValue
      rw [← signed_shift_mul_grid n₂ m₂ (min_le_right e₁ e₂)] at rightValue
      dsimp only [add]
      generalize min e₁ e₂ = least at leftValue rightValue ⊢
      generalize signed n₁ (m₁ <<< (e₁ - least).toNat) = one at leftValue ⊢
      generalize signed n₂ (m₂ <<< (e₂ - least).toNat) = two at rightValue ⊢
      have total : ((first + second : ℤ) : ℚ) ≤ ((one + two : ℤ) : ℚ) * 2 ^ least := by
        push_cast
        linarith
      generalize one + two = sum at total ⊢
      obtain ⟨bound, bound_eq⟩ : ∃ bound : ℕ, first + second = bound :=
        ⟨(first + second).toNat, by omega⟩
      have sumPositive : 0 < sum := by
        have power : (0 : ℚ) < 2 ^ least := by positivity
        have least_pos : (0 : ℚ) < (sum : ℚ) * 2 ^ least :=
          lt_of_lt_of_le (by exact_mod_cast positive) total
        exact_mod_cast (mul_pos_iff_of_pos_right power).mp least_pos
      obtain ⟨count, rfl⟩ : ∃ count : ℕ, sum = count := ⟨sum.toNat, by omega⟩
      rw [if_neg sumPositive.ne', bound_eq, Int.natAbs_natCast,
        decide_eq_false (not_lt.mpr sumPositive.le)]
      refine int_le_ofQuotient (by omega) (by omega) (by simp [Nat.shiftLeft_eq]) ?_
      rw [Nat.shiftLeft_eq, Nat.shiftLeft_eq, one_mul]
      rw [bound_eq, zpow_eq_div two_ne_zero, mul_div_assoc', le_div_iff₀ (by positivity)] at total
      exact_mod_cast total

theorem isFinite_ofForm {mantissa : ℕ} {exponent : ℤ} (canonical : Canonical mantissa exponent)
    (negative : Bool) : (ofForm negative mantissa exponent).isFinite = true := by
  rw [ofForm, dif_pos canonical]
  rfl

/-- **A quotient within the range rounds to a finite double.** -/
theorem isFinite_ofQuotient (negative : Bool) {numerator denominator : ℕ} (above : 0 < numerator)
    (below : 0 < denominator) (small : (numerator : ℚ) < denominator * 2 ^ (1023 : ℤ)) :
    (ofQuotient negative numerator denominator).isFinite = true := by
  have few := binaryPlaces_le above below small
  obtain ⟨low, high⟩ := binaryPlaces_bounds above below
  simp only [ofQuotient, above.ne', ↓reduceIte]
  have grid : binaryPlaces numerator denominator ≤
      max (binaryPlaces numerator denominator - 53) (-1074) + 53 := by omega
  have full : max (binaryPlaces numerator denominator - 53) (-1074) = -1074 ∨
      max (binaryPlaces numerator denominator - 53) (-1074) + 52 =
        binaryPlaces numerator denominator - 1 := by omega
  have range : -1074 ≤ max (binaryPlaces numerator denominator - 53) (-1074) ∧
      max (binaryPlaces numerator denominator - 53) (-1074) ≤ 970 := by omega
  generalize max (binaryPlaces numerator denominator - 53) (-1074) = exponent at grid full range ⊢
  have positive : (0 : ℚ) < denominator := by exact_mod_cast below
  -- the mantissa lies between 2^52 and 2^53
  have scaled (target : ℕ) : numerator * 2 ^ (-exponent).toNat <
      denominator * 2 ^ target * 2 ^ exponent.toNat ↔
        (numerator : ℚ) < denominator * 2 ^ (exponent + target) := by
    rw [scaled_lt_scaled_iff two_pos, zpow_add₀ two_ne_zero]
    push_cast
    rw [zpow_natCast, mul_assoc, mul_comm ((2 : ℚ) ^ target)]
  have most : numerator * 2 ^ (-exponent).toNat < denominator * 2 ^ 53 * 2 ^ exponent.toNat := by
    rw [scaled]
    refine high.trans_le (mul_le_mul_of_nonneg_left ?_ positive.le)
    exact zpow_le_zpow_right₀ one_le_two grid
  have least (reached : exponent + 52 = binaryPlaces numerator denominator - 1) :
      denominator * 2 ^ 52 * 2 ^ exponent.toNat ≤ numerator * 2 ^ (-exponent).toNat := by
    rw [← not_lt, scaled, not_lt]
    have same : exponent + (52 : ℕ) = binaryPlaces numerator denominator - 1 := reached
    rwa [same]
  rw [Nat.shiftLeft_eq, Nat.shiftLeft_eq]
  have width : 0 < denominator * 2 ^ exponent.toNat := by positivity
  have upper : roundQuotient (numerator * 2 ^ (-exponent).toNat)
      (denominator * 2 ^ exponent.toNat) ≤ 2 * leastFull := by
    refine (roundQuotient_le _ _).trans (Nat.succ_le_of_lt ?_)
    rw [Nat.div_lt_iff_lt_mul width]
    calc numerator * 2 ^ (-exponent).toNat < denominator * 2 ^ 53 * 2 ^ exponent.toNat := most
      _ = 2 * leastFull * (denominator * 2 ^ exponent.toNat) := by
        rw [leastFull]
        ring
  have lower (reached : exponent + 52 = binaryPlaces numerator denominator - 1) :
      leastFull ≤ roundQuotient (numerator * 2 ^ (-exponent).toNat)
        (denominator * 2 ^ exponent.toNat) := by
    refine le_trans ?_ (div_le_roundQuotient _ _)
    rw [Nat.le_div_iff_mul_le width]
    calc leastFull * (denominator * 2 ^ exponent.toNat)
        = denominator * 2 ^ 52 * 2 ^ exponent.toNat := by
          rw [leastFull]
          ring
      _ ≤ numerator * 2 ^ (-exponent).toNat := least reached
  split
  · exact isFinite_ofForm ⟨by rw [leastFull]; norm_num, by omega, by omega, Or.inl le_rfl⟩ negative
  · next other =>
    exact isFinite_ofForm ⟨lt_of_le_of_ne upper other, range.1, by omega,
      full.symm.imp lower id⟩ negative

end Double

namespace Number

/-- **A time and a span** make at least the whole seconds of both, unless the time is negative. -/
theorem int_le_add_span {reading : Double} {time span : ℤ}
    (shows : whole (.double reading) = .ok time) (nonneg : (int 0).le (.double reading) = true)
    (positive : 0 < span) (small : time + span ≤ 2 ^ 53) :
    (int (time + span)).le (add (.double reading) (.int span)) = true := by
  obtain ⟨timeNonneg, least⟩ := int_le_of_whole shows nonneg
  obtain ⟨count, rfl⟩ : ∃ count : ℕ, span = count := ⟨span.toNat, by omega⟩
  have exactly : (int count).le (.double (Double.ofInt count)) = true := by
    rw [Double.ofInt, decide_eq_false (by omega), Int.natAbs_natCast]
    exact Double.int_le_ofQuotient (by omega) (by omega) one_pos (by rw [mul_one])
  exact Double.int_le_add least exactly (by omega) small

/-- Times of eight bytes can be added to any number. -/
theorem addable_of_lt {time : ℕ} (small : time < 2 ^ 64) (number : Number) :
    (int time).addable number = true := by
  cases number with
  | int n => rfl
  | double d =>
    have fits : (Double.ofInt time).isFinite = true := by
      rcases Nat.eq_zero_or_pos time with rfl | positive
      · rfl
      · rw [Double.ofInt, Int.natAbs_natCast]
        refine Double.isFinite_ofQuotient _ positive one_pos ?_
        have below : (time : ℚ) < 2 ^ 64 := by exact_mod_cast small
        have range : (2 : ℚ) ^ 64 < 2 ^ 1023 := pow_lt_pow_right₀ one_lt_two (by norm_num)
        rw [Nat.cast_one, one_mul]
        exact_mod_cast below.trans range
    rw [addable, fitsDouble, fits]
    · rfl
    · exact fun _ _ _ => Number.noConfusion

end Number
end SealedGrant
