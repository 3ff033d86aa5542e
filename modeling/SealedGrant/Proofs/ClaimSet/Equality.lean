import Mathlib
import SealedGrant.Proofs.ClaimSet.Encoding
import SealedGrant.Proofs.ClaimSet.Schema
import SealedGrant.Proofs.Json.Places

/-! # Equal claim sets and their texts

The hash of a claim set is that of its canonical text, while claim sets are compared by their
values. A text belongs to equal claim sets only, but equal claim sets may have several texts: those
with a number in another form at some place, as `1`, `1.0` and `true`, or the two zeros
(`SealedGrant.ClaimSet.encode_eq_iff_same`).
-/

namespace SealedGrant.ClaimSet

open Json

/-- **Claim sets are hashed alike exactly when they are equal and their numbers have one form at
every place.** Those of finite numbers have a text, unless a number has more digits than are
written, and no such claim set is built. -/
theorem encode_eq_iff_same {left right : ClaimSet} (leftDistinct : Distinct (.object left.members))
    (rightDistinct : Distinct (.object right.members))
    (leftFinite : (Json.object left.members).isFinite = true)
    (rightFinite : (Json.object right.members).isFinite = true) :
    ((∃ text, left.encode = .ok text) ↔ ofMembers? left.members = some left) ∧
    ((∃ text, right.encode = .ok text) ↔ ofMembers? right.members = some right) ∧
    ∀ first second, left.encode = .ok first → right.encode = .ok second →
      (first = second ↔ left.same right = true ∧
        SameForms (.object left.members) (.object right.members)) := by
  have written {claims : ClaimSet} (finite : (Json.object claims.members).isFinite = true) :
      (∃ text, claims.encode = .ok text) ↔ ofMembers? claims.members = some claims := by
    rw [exists_encode_iff, allNumbers_isReadable_iff, ofMembers?_eq_some_iff]
    exact and_congr_left fun _ => iff_of_true finite rfl
  exact ⟨written leftFinite, written rightFinite, fun first second leftEncoded rightEncoded =>
    canonical_eq_iff_same leftDistinct rightDistinct leftEncoded rightEncoded⟩

/-- A claim set of one number. -/
def counting (n : Number) : ClaimSet :=
  ⟨[("n", .number n)]⟩

theorem distinct_counting (n : Number) : Distinct (.object (counting n).members) :=
  ⟨by simp [counting], trivial, trivial⟩

/-- The double `1.0`. -/
def one : Double :=
  .finite false Double.leastFull (-52) (by decide)

theorem not_sameForms_counting :
    ¬ SameForms (.object (counting (.int 1)).members) (.object (counting (.double one)).members) :=
  fun forms => by cases forms [.member "n"]

theorem exists_encode_counting {n : Number} (readable : isReadable n = true) :
    ∃ text, (counting n).encode = .ok text :=
  exists_encode_iff.mpr (by simp [counting, allNumbers, allNumbersOf, readable])

/-- The claim sets of the integer `1` and of the double `1.0` have two texts. -/
theorem exists_encode_counting_ne : ∃ first second, (counting (.int 1)).encode = .ok first ∧
    (counting (.double one)).encode = .ok second ∧ first ≠ second := by
  obtain ⟨first, integer⟩ := exists_encode_counting (n := .int 1) (by decide)
  obtain ⟨second, double⟩ := exists_encode_counting (n := .double one) rfl
  obtain ⟨-, -, iff⟩ := encode_eq_iff_same
    (distinct_counting (.int 1)) (distinct_counting (.double one)) rfl rfl
  exact ⟨first, second, integer, double, fun equal =>
    not_sameForms_counting ((iff first second integer double).mp equal).2⟩

/-- Equal claim sets need not be hashed alike: one holds the integer `1`, the other the double. -/
theorem not_encode_eq_of_same : ¬ ∀ left right : ClaimSet, Distinct (.object left.members) →
    Distinct (.object right.members) → (Json.object left.members).isFinite = true →
    (Json.object right.members).isFinite = true → left.same right = true →
    left.encode = right.encode := by
  intro alike
  have integer := distinct_counting (.int 1)
  have double := distinct_counting (.double one)
  have equal := alike _ _ integer double rfl rfl (by decide)
  obtain ⟨text, written⟩ := exists_encode_counting (n := .double one) rfl
  have iff := canonical_eq_iff_same integer double (equal.trans written) written
  exact not_sameForms_counting (iff.mp rfl).2

end SealedGrant.ClaimSet
