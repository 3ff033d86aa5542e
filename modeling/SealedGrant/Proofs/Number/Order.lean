import Mathlib
import SealedGrant.Number.Basic

/-! # The order of numbers

Integers and doubles are compared by their exact values, which together with the two infinities form
one line (`SealedGrant.Number.lt_eq_true_iff`, `SealedGrant.Number.le_eq_true_iff`). What is no
number has no place on it and compares with nothing.
-/

namespace SealedGrant

namespace Number

/-- The line of values with its two ends. -/
abbrev Line := WithBot (WithTop ℚ)

/-- The value at a place. -/
def Place.value : Place → Line
  | .lowest => ⊥
  | .point mantissa exponent => (((mantissa : ℚ) * 2 ^ exponent : ℚ) : WithTop ℚ)
  | .highest => ((⊤ : WithTop ℚ) : Line)

/-- The value of a number, unless it is no number at all. -/
def value? (number : Number) : Option Line :=
  number.place?.map Place.value

@[simp] theorem value?_int (n : ℤ) : value? (.int n) = some (((n : ℚ) : WithTop ℚ) : Line) := by
  simp [value?, place?, Place.value]

/-- Shifting to a common grid keeps the value. -/
theorem shift_mul_grid (mantissa : ℤ) {exponent least : ℤ} (below : least ≤ exponent) :
    ((mantissa <<< (exponent - least).toNat : ℤ) : ℚ) * 2 ^ least = mantissa * 2 ^ exponent := by
  have steps : ((exponent - least).toNat : ℤ) + least = exponent := by omega
  rw [Int.shiftLeft_eq]
  push_cast
  rw [mul_assoc, ← zpow_natCast, ← zpow_add₀ two_ne_zero, steps]

/-- Two integers on a grid are in the order of their values. -/
theorem compare_grid (left right least : ℤ) :
    Ord.compare left right = Ord.compare ((left : ℚ) * 2 ^ least) ((right : ℚ) * 2 ^ least) := by
  have grid : StrictMono fun count : ℤ => (count : ℚ) * 2 ^ least :=
    fun _ _ less => mul_lt_mul_of_pos_right (Int.cast_lt.mpr less) (zpow_pos two_pos least)
  have same := grid.cmp_map_eq left right
  rw [cmp_eq_compare, cmp_eq_compare] at same
  exact same.symm

/-- **Places are compared by their values.** -/
theorem Place.compare_eq (left right : Place) :
    left.compare right = Ord.compare left.value right.value := by
  have embedded (a b : ℚ) : Ord.compare a b = Ord.compare (a : Line) (b : Line) := by
    have mono : StrictMono fun q : ℚ => (q : Line) :=
      WithBot.coe_strictMono.comp WithTop.coe_strictMono
    have same := mono.cmp_map_eq a b
    rw [cmp_eq_compare, cmp_eq_compare] at same
    exact same.symm
  cases left with
  | lowest =>
    cases right with
    | lowest => exact (compare_eq_iff_eq.mpr rfl).symm
    | point mantissa exponent => exact (compare_lt_iff_lt.mpr (WithBot.bot_lt_coe _)).symm
    | highest => exact (compare_lt_iff_lt.mpr (WithBot.bot_lt_coe _)).symm
  | point m₁ e₁ =>
    cases right with
    | lowest => exact (compare_gt_iff_gt.mpr (WithBot.bot_lt_coe _)).symm
    | point m₂ e₂ =>
      rw [compare, compare_grid _ _ (Min.min e₁ e₂), shift_mul_grid m₁ (min_le_left e₁ e₂),
        shift_mul_grid m₂ (min_le_right e₁ e₂)]
      exact embedded _ _
    | highest =>
      exact (compare_lt_iff_lt.mpr (WithBot.coe_lt_coe.mpr (WithTop.coe_lt_top _))).symm
  | highest =>
    cases right with
    | lowest => exact (compare_gt_iff_gt.mpr (WithBot.bot_lt_coe _)).symm
    | point mantissa exponent =>
      exact (compare_gt_iff_gt.mpr (WithBot.coe_lt_coe.mpr (WithTop.coe_lt_top _))).symm
    | highest => exact (compare_eq_iff_eq.mpr rfl).symm

variable {left right : Number}

theorem compare?_eq (left right : Number) : left.compare? right = do
    let l ← left.value?
    let r ← right.value?
    return Ord.compare l r := by
  cases first : left.place? <;> cases second : right.place? <;>
    simp [compare?, value?, first, second, Place.compare_eq]

theorem compare?_eq_some_iff {order : Ordering} : left.compare? right = some order ↔
    ∃ l r, left.value? = some l ∧ right.value? = some r ∧ Ord.compare l r = order := by
  rw [compare?_eq]
  simp [Option.bind_eq_some_iff]

/-- **Smaller is smaller on the line.** -/
theorem lt_eq_true_iff : left.lt right = true ↔
    ∃ l r, left.value? = some l ∧ right.value? = some r ∧ l < r := by
  have general : (left.compare? right == some .lt) = true ↔
      ∃ l r, left.value? = some l ∧ right.value? = some r ∧ l < r := by
    rw [beq_iff_eq, compare?_eq_some_iff]
    simp only [compare_lt_iff_lt]
  cases left with
  | double d => exact general
  | int m =>
    cases right with
    | double d => exact general
    | int n => simp

/-- **At most is at most on the line.** -/
theorem le_eq_true_iff : left.le right = true ↔
    ∃ l r, left.value? = some l ∧ right.value? = some r ∧ l ≤ r := by
  have general : (left.compare? right == some .lt || left.compare? right == some .eq) = true ↔
      ∃ l r, left.value? = some l ∧ right.value? = some r ∧ l ≤ r := by
    rw [Bool.or_eq_true, beq_iff_eq, beq_iff_eq, compare?_eq_some_iff, compare?_eq_some_iff]
    simp only [compare_lt_iff_lt, compare_eq_iff_eq, le_iff_lt_or_eq]
    constructor
    · rintro (⟨l, r, one, two, less⟩ | ⟨l, r, one, two, same⟩)
      · exact ⟨l, r, one, two, Or.inl less⟩
      · exact ⟨l, r, one, two, Or.inr same⟩
    · rintro ⟨l, r, one, two, less | same⟩
      · exact Or.inl ⟨l, r, one, two, less⟩
      · exact Or.inr ⟨l, r, one, two, same⟩
  cases left with
  | double d => exact general
  | int m =>
    cases right with
    | double d => exact general
    | int n => simp

theorem exists_value_of_not_isNaN {number : Number} (isNumber : number.isNaN = false) :
    ∃ value, number.value? = some value := by
  cases number with
  | int n => exact ⟨_, value?_int n⟩
  | double d =>
    cases d with
    | finite negative mantissa exponent canonical => exact ⟨_, rfl⟩
    | infinite negative => cases negative <;> exact ⟨_, rfl⟩
    | nan => cases isNumber

theorem le_eq_false_of_lt (less : right.lt left = true) : left.le right = false := by
  obtain ⟨r, l, two, one, less⟩ := lt_eq_true_iff.mp less
  rw [← Bool.not_eq_true, le_eq_true_iff, one, two]
  simp [less]

/-- What is not yet reached lies ahead. -/
theorem le_eq_false_iff_lt (leftNumber : left.isNaN = false) (rightNumber : right.isNaN = false) :
    left.le right = false ↔ right.lt left = true := by
  obtain ⟨l, one⟩ := exists_value_of_not_isNaN leftNumber
  obtain ⟨r, two⟩ := exists_value_of_not_isNaN rightNumber
  rw [← Bool.not_eq_true, le_eq_true_iff, lt_eq_true_iff, one, two]
  simp

end Number
end SealedGrant
