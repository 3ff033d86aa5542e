import Mathlib
import SealedGrant.Proofs.Number.Order

/-! # One value in several forms

Equal numbers need not be one number: an integer equals the double of its value, and the two zeros
are equal. These are all the cases: two equal integers are one, and so are two equal doubles of one
sign (`SealedGrant.Number.eq_of_same_double`), since a finite double other than zero has one form
(`SealedGrant.Double.form_unique`).
-/

namespace SealedGrant

namespace Double

/-- Whether a double bears a minus sign. -/
def isNegative : Double → Bool
  | .finite negative .. | .infinite negative => negative
  | .nan => false

section Forms

variable {m n : ℕ} {d e : ℤ}

/-- Of two canonical forms of one value, neither has the smaller exponent: its mantissa would be
too long. -/
theorem exponent_le_of_value_eq (first : Canonical m d) (second : Canonical n e)
    (equal : (m : ℚ) * 2 ^ d = n * 2 ^ e) : e ≤ d := by
  by_contra above
  have step : d + 1 ≤ e := by omega
  have full : leastFull ≤ n := by
    rcases second.2.2.2 with full | least
    · exact full
    · have := first.2.1
      omega
  have doubled : (2 * n : ℚ) * 2 ^ d ≤ m * 2 ^ d := by
    calc (2 * n : ℚ) * 2 ^ d = n * 2 ^ (d + 1) := by rw [zpow_add_one₀ two_ne_zero]; ring
      _ ≤ n * 2 ^ e := by gcongr; norm_num
      _ = m * 2 ^ d := equal.symm
  have long : 2 * n ≤ m := by
    exact_mod_cast le_of_mul_le_mul_right doubled (by positivity)
  have short := first.1
  omega

/-- **A value has one canonical form.** -/
theorem form_unique (first : Canonical m d) (second : Canonical n e)
    (equal : (m : ℚ) * 2 ^ d = n * 2 ^ e) : m = n ∧ d = e := by
  obtain rfl : d = e :=
    le_antisymm (exponent_le_of_value_eq second first equal.symm)
      (exponent_le_of_value_eq first second equal)
  have power : (2 : ℚ) ^ d ≠ 0 := zpow_ne_zero d two_ne_zero
  exact ⟨by exact_mod_cast mul_right_cancel₀ power equal, rfl⟩

end Forms

end Double

namespace Number

theorem eq_of_same_int {m n : ℤ} (same : (Number.int m).same (.int n) = true) : m = n :=
  of_decide_eq_true same

/-- **Equal doubles of one sign are one double.** -/
theorem eq_of_same_double {c d : Double} (sign : c.isNegative = d.isNegative)
    (same : (Number.double c).same (.double d) = true) : c = d := by
  have compared : (Number.double c).compare? (.double d) = some .eq := by
    simpa only [Number.same, beq_iff_eq] using same
  obtain ⟨l, r, first, second, equal⟩ := compare?_eq_some_iff.mp compared
  obtain rfl := compare_eq_iff_eq.mp equal
  cases c with
  | nan => cases first
  | infinite negative =>
    cases d with
    | nan => cases second
    | infinite other => exact congrArg Double.infinite sign
    | finite other n e canonical =>
      cases negative <;> cases first <;> cases second
  | finite negative m exponent canonical =>
    cases d with
    | nan => cases second
    | infinite other => cases other <;> cases first <;> cases second
    | finite other n e canonical' =>
      obtain rfl : negative = other := sign
      cases first
      have signed : ((Double.signed negative n : ℤ) : ℚ) * 2 ^ e =
          (Double.signed negative m : ℤ) * 2 ^ exponent :=
        WithTop.coe_injective (WithBot.coe_injective (Option.some.inj second))
      have unsigned : (m : ℚ) * 2 ^ exponent = n * 2 ^ e := by
        cases negative
        · simpa [Double.signed] using signed.symm
        · simpa [Double.signed] using signed.symm
      obtain ⟨rfl, rfl⟩ := Double.form_unique canonical canonical' unsigned
      rfl

end Number

end SealedGrant
