import Mathlib
import SealedGrant.Proofs.Supply

/-! # Two runs side by side

Two results agree up to a relation when they are the same failure or hold related values
(`SealedGrant.SameResult`). Two computations run alike when from every supply their results agree
and the same supply is left (`SealedGrant.Draw.Alike`). They are steady when their results agree
whatever the two supplies are (`SealedGrant.Draw.Steady`). All three relations are built up along a
computation step by step (`SealedGrant.SameResult.bind`, `SealedGrant.Draw.alike_bind`,
`SealedGrant.Draw.steady_bind`), so what one run keeps to itself is followed through all that is
computed from it.
-/

namespace SealedGrant

variable {ε α β γ δ : Type}

/-- **Two results agree up to a relation**: they are one failure, or their values are related. -/
inductive SameResult (related : α → β → Prop) : Except ε α → Except ε β → Prop where
  | error (cause : ε) : SameResult related (.error cause) (.error cause)
  | ok {left : α} {right : β} (both : related left right) :
      SameResult related (.ok left) (.ok right)

namespace SameResult

variable {related : α → β → Prop} {next : γ → δ → Prop} {left : Except ε α} {right : Except ε β}

/-- One result agrees with itself. -/
theorem of_eq {related : α → α → Prop} (reflexive : ∀ value, related value value)
    {left right : Except ε α} (same : left = right) : SameResult related left right := by
  subst same
  cases left with
  | error cause => exact .error cause
  | ok value => exact .ok (reflexive value)

theorem mono {wider : α → β → Prop} (same : SameResult related left right)
    (implies : ∀ a b, related a b → wider a b) : SameResult wider left right := by
  cases same with
  | error cause => exact .error cause
  | ok both => exact .ok (implies _ _ both)

theorem bind (first : SameResult related left right) {leftNext : α → Except ε γ}
    {rightNext : β → Except ε δ}
    (second : ∀ a b, related a b → SameResult next (leftNext a) (rightNext b)) :
    SameResult next (left >>= leftNext) (right >>= rightNext) := by
  cases first with
  | error cause => exact .error cause
  | ok both => exact second _ _ both

theorem map (first : SameResult related left right) {leftChange : α → γ} {rightChange : β → δ}
    (second : ∀ a b, related a b → next (leftChange a) (rightChange b)) :
    SameResult next (left.map leftChange) (right.map rightChange) := by
  cases first with
  | error cause => exact .error cause
  | ok both => exact .ok (second _ _ both)

theorem mapError {κ : Type} (same : SameResult related left right) (change : ε → κ) :
    SameResult related (left.mapError change) (right.mapError change) := by
  cases same with
  | error cause => exact .error (change cause)
  | ok both => exact .ok both

end SameResult

namespace Draw

/-- **Two computations run alike**: from every supply their results agree up to a relation, and the
same supply is left. -/
def Alike (related : α → β → Prop) (left : Draw ε α) (right : Draw ε β) : Prop :=
  ∀ supply, SameResult related (left.run supply).1 (right.run supply).1 ∧
    (left.run supply).2 = (right.run supply).2

variable {related : α → β → Prop} {next : γ → δ → Prop} {left : Draw ε α} {right : Draw ε β}

/-- A computation runs like itself, up to what is known of its values. -/
theorem alike_self {related : α → α → Prop} {draw : Draw ε α}
    (holds : ∀ supply value last, draw.run supply = (.ok value, last) → related value value) :
    Alike related draw draw := by
  intro supply
  cases ran : draw.run supply with
  | mk result last =>
    cases result with
    | error cause => exact ⟨.error cause, rfl⟩
    | ok value => exact ⟨.ok (holds supply value last ran), rfl⟩

/-- What is known of the values of each run is known of both runs. -/
theorem Alike.mono_of_run (same : Alike related left right) {wider : α → β → Prop}
    (implies : ∀ supply a b last, left.run supply = (.ok a, last) →
      right.run supply = (.ok b, last) → related a b → wider a b) : Alike wider left right := by
  intro supply
  obtain ⟨results, supplies⟩ := same supply
  cases leftRan : left.run supply with
  | mk leftResult last =>
    cases rightRan : right.run supply with
    | mk rightResult other =>
      rw [leftRan, rightRan] at results supplies
      cases supplies
      cases results with
      | error cause => exact ⟨.error cause, rfl⟩
      | ok both => exact ⟨.ok (implies supply _ _ last leftRan rightRan both), rfl⟩

theorem alike_of_eq {related : α → α → Prop} (reflexive : ∀ value, related value value)
    {left right : Draw ε α} (same : left = right) : Alike related left right := by
  subst same
  exact alike_self fun _ value _ _ => reflexive value

theorem alike_pure {a : α} {b : β} (both : related a b) :
    Alike related (pure a : Draw ε α) (pure b) :=
  fun _ => ⟨.ok both, rfl⟩

theorem alike_ofResult {left : Except ε α} {right : Except ε β}
    (same : SameResult related left right) : Alike related (ofResult left) (ofResult right) :=
  fun _ => ⟨same, rfl⟩

theorem alike_bind (first : Alike related left right) {leftNext : α → Draw ε γ}
    {rightNext : β → Draw ε δ}
    (second : ∀ a b, related a b → Alike next (leftNext a) (rightNext b)) :
    Alike next (left >>= leftNext) (right >>= rightNext) := by
  intro supply
  obtain ⟨results, supplies⟩ := first supply
  rw [run_bind, run_bind]
  generalize left.run supply = leftRan at results supplies ⊢
  generalize right.run supply = rightRan at results supplies ⊢
  obtain ⟨leftResult, later⟩ := leftRan
  obtain ⟨rightResult, _⟩ := rightRan
  subst supplies
  cases results with
  | error cause => exact ⟨.error cause, rfl⟩
  | ok both => exact second _ _ both later

/-- After the same first step it is enough to know what that step gives. -/
theorem alike_bind_self {draw : Draw ε γ} {leftNext : γ → Draw ε α} {rightNext : γ → Draw ε β}
    (second : ∀ supply value last, draw.run supply = (.ok value, last) →
      Alike related (leftNext value) (rightNext value)) :
    Alike related (draw >>= leftNext) (draw >>= rightNext) := by
  have first : Alike (fun a b => Alike related (leftNext a) (rightNext b)) draw draw :=
    alike_self second
  exact alike_bind first fun a b both => both

theorem alike_map (first : Alike related left right) {leftChange : α → γ} {rightChange : β → δ}
    (second : ∀ a b, related a b → next (leftChange a) (rightChange b)) :
    Alike next (leftChange <$> left) (rightChange <$> right) := by
  intro supply
  obtain ⟨results, supplies⟩ := first supply
  rw [run_map, run_map]
  exact ⟨results.map second, supplies⟩

/-- **Two computations are steady**: whatever supply each of them starts from, their results agree
up to a relation. -/
def Steady (related : α → β → Prop) (left : Draw ε α) (right : Draw ε β) : Prop :=
  ∀ first second, SameResult related (left.run first).1 (right.run second).1

theorem steady_pure {a : α} {b : β} (both : related a b) :
    Steady related (pure a : Draw ε α) (pure b) :=
  fun _ _ => .ok both

theorem steady_throw (cause : ε) :
    Steady related (throw cause : Draw ε α) (throw cause : Draw ε β) :=
  fun _ _ => .error cause

theorem steady_ofResult {left : Except ε α} {right : Except ε β}
    (same : SameResult related left right) : Steady related (ofResult left) (ofResult right) :=
  fun _ _ => same

theorem steady_drawId (ids : IdSource) :
    Steady (fun _ _ => True) (drawId ids : Draw ε String) (drawId ids) :=
  fun _ _ => .ok trivial

theorem steady_drawBytes (random : RandomSource) (count : Nat) :
    Steady (fun _ _ => True) (drawBytes random count : Draw ε Bytes) (drawBytes random count) :=
  fun _ _ => .ok trivial

theorem steady_bind (first : Steady related left right) {leftNext : α → Draw ε γ}
    {rightNext : β → Draw ε δ}
    (second : ∀ a b, related a b → Steady next (leftNext a) (rightNext b)) :
    Steady next (left >>= leftNext) (right >>= rightNext) := by
  intro leftSupply rightSupply
  have results := first leftSupply rightSupply
  rw [run_bind, run_bind]
  generalize left.run leftSupply = leftRan at results ⊢
  generalize right.run rightSupply = rightRan at results ⊢
  obtain ⟨leftResult, leftLast⟩ := leftRan
  obtain ⟨rightResult, rightLast⟩ := rightRan
  cases results with
  | error cause => exact .error cause
  | ok both => exact second _ _ both leftLast rightLast

/-- After the same result it is enough to know what follows from its value. -/
theorem steady_ofResult_bind (result : Except ε γ) {leftNext : γ → Draw ε α}
    {rightNext : γ → Draw ε β}
    (second : ∀ value, Steady related (leftNext value) (rightNext value)) :
    Steady related (ofResult result >>= leftNext) (ofResult result >>= rightNext) := by
  have first : Steady Eq (ofResult result) (ofResult result) :=
    steady_ofResult (SameResult.of_eq (fun _ => rfl) rfl)
  refine steady_bind first ?_
  rintro value _ rfl
  exact second value

theorem steady_map (first : Steady related left right) {leftChange : α → γ} {rightChange : β → δ}
    (second : ∀ a b, related a b → next (leftChange a) (rightChange b)) :
    Steady next (leftChange <$> left) (rightChange <$> right) := by
  intro leftSupply rightSupply
  rw [run_map, run_map]
  exact (first leftSupply rightSupply).map second

end Draw
end SealedGrant
