import Mathlib
import SealedGrant.Settings

/-! # Policies in whole seconds

A span of time counts whole seconds unless it was configured as a fraction; of a policy in whole
seconds every time that is computed is whole again. Settings make no other policies
(`SealedGrant.Policy.isWhole_of_settings`).
-/

namespace SealedGrant

namespace Duration

/-- The whole seconds of a span. -/
def count (span : Duration) : ℤ := span.amount.truncate

/-- Whether a span has no fraction of a second. -/
def IsWhole (span : Duration) : Prop := span.amount = .int span.count

theorem isWhole_of_ofJson? {span : Duration} {n : ℤ}
    (given : ofJson? (.number (.int n)) = some span) : span.IsWhole := by
  cases given
  rfl

theorem count_pos {span : Duration} (whole : span.IsWhole) (positive : span.isPositive = true) :
    0 < span.count := by
  have zero : (0 : Number) = .int 0 := rfl
  rw [isPositive, whole, zero, Number.le_int] at positive
  simpa using positive

theorem count_nonneg {span : Duration} (whole : span.IsWhole)
    (nonnegative : span.isNegative = false) : 0 ≤ span.count := by
  have zero : (0 : Number) = .int 0 := rfl
  rw [isNegative, whole, zero, Number.lt_int] at nonnegative
  simpa using nonnegative

end Duration

/-- A policy in whole seconds. -/
structure Policy.IsWhole (policy : Policy) : Prop where
  access : policy.accessTtl.IsWhole
  refresh : policy.refreshTtl.IsWhole
  code : policy.codeTtl.IsWhole
  id : policy.idTtl.IsWhole
  skew : policy.skewSpan.IsWhole

theorem exists_of_bind_eq_ok {ε α β : Type} {first : Except ε α} {next : α → Except ε β} {last : β}
    (ran : first >>= next = .ok last) : ∃ value, first = .ok value ∧ next value = .ok last := by
  cases first with
  | error cause => cases ran
  | ok value => exact ⟨value, rfl, ran⟩

namespace Policy

theorem ofJson?_of_positive {name : String} {input : Json}
    {span : { span : Duration // span.isPositive = true }}
    (made : positive name input = .ok span) : Duration.ofJson? input = some span.val := by
  unfold positive at made
  split at made
  · cases made
  · next found given =>
    split at made
    · cases made
      exact given
    · cases made

theorem ofJson?_of_nonnegative {input : Json}
    {span : { span : Duration // span.isNegative = false }}
    (made : nonnegative input = .ok span) : Duration.ofJson? input = some span.val := by
  unfold nonnegative at made
  split at made
  · cases made
  · next found given =>
    split at made
    · cases made
      exact given
    · cases made

/-- The spans of a policy are those of its parts. -/
theorem spans_of_make {input : PolicyInput} {policy : Policy} (made : make input = .ok policy) :
    Duration.ofJson? input.accessTtl = some policy.accessTtl ∧
      Duration.ofJson? input.refreshTtl = some policy.refreshTtl ∧
      Duration.ofJson? input.codeTtl = some policy.codeTtl ∧
      Duration.ofJson? input.idTtl = some policy.idTtl ∧
      Duration.ofJson? input.skew = some policy.skewSpan := by
  obtain ⟨rotation, -, made⟩ := exists_of_bind_eq_ok made
  obtain ⟨pkce, -, made⟩ := exists_of_bind_eq_ok made
  obtain ⟨access, accessMade, made⟩ := exists_of_bind_eq_ok made
  obtain ⟨code, codeMade, made⟩ := exists_of_bind_eq_ok made
  obtain ⟨id, idMade, made⟩ := exists_of_bind_eq_ok made
  obtain ⟨refresh, refreshMade, made⟩ := exists_of_bind_eq_ok made
  obtain ⟨skew, skewMade, made⟩ := exists_of_bind_eq_ok made
  cases made
  exact ⟨ofJson?_of_positive accessMade, ofJson?_of_nonnegative refreshMade,
    ofJson?_of_positive codeMade, ofJson?_of_positive idMade, ofJson?_of_nonnegative skewMade⟩

end Policy

theorem Settings.exists_seconds {environment : Environment} {name fallback : String} {value : Json}
    (read : seconds environment name fallback = .ok value) :
    ∃ n : ℤ, value = .number (.int n) := by
  obtain ⟨n, -, same⟩ := exists_of_bind_eq_ok read
  cases same
  exact ⟨n, rfl⟩

/-- **A policy that settings make is in whole seconds.** -/
theorem Policy.isWhole_of_settings {environment : Environment} {settings : Settings}
    {policy : Policy} (read : Settings.ofEnvironment environment = .ok settings)
    (made : make settings.policy = .ok policy) : policy.IsWhole := by
  obtain ⟨access, accessRead, read⟩ := exists_of_bind_eq_ok read
  obtain ⟨refresh, refreshRead, read⟩ := exists_of_bind_eq_ok read
  obtain ⟨code, codeRead, read⟩ := exists_of_bind_eq_ok read
  obtain ⟨id, idRead, read⟩ := exists_of_bind_eq_ok read
  obtain ⟨skew, skewRead, read⟩ := exists_of_bind_eq_ok read
  cases read
  obtain ⟨accessGiven, refreshGiven, codeGiven, idGiven, skewGiven⟩ := spans_of_make made
  obtain ⟨_, rfl⟩ := Settings.exists_seconds accessRead
  obtain ⟨_, rfl⟩ := Settings.exists_seconds refreshRead
  obtain ⟨_, rfl⟩ := Settings.exists_seconds codeRead
  obtain ⟨_, rfl⟩ := Settings.exists_seconds idRead
  obtain ⟨_, rfl⟩ := Settings.exists_seconds skewRead
  exact ⟨Duration.isWhole_of_ofJson? accessGiven, Duration.isWhole_of_ofJson? refreshGiven,
    Duration.isWhole_of_ofJson? codeGiven, Duration.isWhole_of_ofJson? idGiven,
    Duration.isWhole_of_ofJson? skewGiven⟩

end SealedGrant
