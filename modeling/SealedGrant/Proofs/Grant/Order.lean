import Mathlib
import SealedGrant.Proofs.Grant.Delivery
import SealedGrant.Proofs.Reservation.Order
import SealedGrant.Proofs.Token.Steady

/-! # What a request decides

What is issued for a grant has one shape whatever was drawn before
(`SealedGrant.Grant.steady_issue`). So a request gets one answer, up to fresh ids and nonces, and
adds the same reservations in any two states of one form, if the grant that it presents is reserved
in both or in neither (`SealedGrant.Grant.handle_steady`).
-/

namespace SealedGrant

open Reservation (reserved GainAlike)
open ReservationStore (SameForm)

/-- **What is issued has one shape**: it is the same but for fresh ids and nonces. -/
structure Issued.SameShape (left right : Issued) : Prop where
  grantId : left.grantId = right.grantId
  expiresIn : left.expiresIn = right.expiresIn
  scope : left.scope = right.scope
  refresh : left.refresh.isSome = right.refresh.isSome
  idToken : left.idToken = right.idToken

namespace Grant

variable {context : Context} {readings : Readings} {request other : GrantRequest} {grant : Token}
  {state : ServiceState}

/-! ## Issuing -/

theorem steady_refreshOf (context : Context) (now : ℤ) (grant : Token) :
    Draw.Steady (Option.Rel Token.SameButId) (refreshOf context now grant)
      (refreshOf context now grant) := by
  unfold refreshOf
  split
  · exact Draw.steady_ofResult_bind _ fun life =>
      Draw.steady_map (grant.steady_deriveRefresh _ life _) fun _ _ same => .some same
  · exact Draw.steady_pure .none

/-- The scope of the access token decides whether an ID token is signed. -/
theorem steady_signedOf (context : Context) (now : ℤ) (grant : Token) {first second : Token}
    (same : Token.SameButId first second) :
    Draw.Steady Eq (signedOf context now grant first) (signedOf context now grant second) := by
  have yields : yieldsIdToken grant first = yieldsIdToken grant second := by
    rw [yieldsIdToken, Token.scope, same.scopeText_eq]
    rfl
  unfold signedOf
  rw [yields]
  split
  · exact Draw.steady_map (Draw.steady_ofResult (SameResult.of_eq (fun _ => rfl) rfl))
      fun _ _ => congrArg some
  · exact Draw.steady_pure rfl

theorem steady_sealedRefresh (context : Context) {first second : Option Token}
    (same : Option.Rel Token.SameButId first second) :
    Draw.Steady (fun left right => left.isSome = right.isSome) (sealedRefresh context first)
      (sealedRefresh context second) := by
  cases same with
  | none => exact Draw.steady_pure rfl
  | some both =>
    exact Draw.steady_bind (Token.steady_sealed both context) fun _ _ _ => Draw.steady_pure rfl

/-- **What is issued for a grant has one shape**, or issuing fails for one cause. -/
theorem steady_issue (context : Context) (request : GrantRequest) (now : ℤ) (grant : Token) :
    Draw.Steady Issued.SameShape (issue context request now grant)
      (issue context request now grant) := by
  have derives : Draw.Steady (fun left right => Token.SameButId left.access right.access ∧
      Option.Rel Token.SameButId left.refresh right.refresh ∧ left.idToken = right.idToken)
      (derive context request now grant) (derive context request now grant) := by
    rw [derive_eq]
    exact Draw.steady_ofResult_bind _ fun life =>
      Draw.steady_bind (grant.steady_deriveAccess _ life _ true) fun _ _ access =>
      Draw.steady_bind (steady_refreshOf context now grant) fun _ _ refresh =>
      Draw.steady_bind (steady_signedOf context now grant access) fun _ _ signed =>
      Draw.steady_pure ⟨access, refresh, signed⟩
  rw [issue_eq]
  refine Draw.steady_bind derives fun left right same => ?_
  obtain ⟨access, refresh, signed⟩ := same
  exact Draw.steady_bind (Token.steady_sealed access context) fun _ _ _ =>
    Draw.steady_bind (steady_sealedRefresh context refresh) fun _ _ presence =>
    Draw.steady_pure ⟨rfl, rfl, access.scopeText_eq, presence, signed⟩

/-- **Whether a code is issued does not depend on fresh material.** -/
theorem issueCode_steady (context : Context) (now : ℤ) (request : CodeRequest)
    (left right : ServiceState) : SameResult (fun _ _ => True)
      (issueCode context now request left).result (issueCode context now request right).result := by
  have minted : Draw.Steady Token.SameButId (mintCode context now request)
      (mintCode context now request) :=
    Draw.steady_ofResult_bind _ fun _ => Token.steady_mint _ _ _ _
  have both := minted left.supply right.supply
  unfold issueCode
  generalize (mintCode context now request).run left.supply = leftRun at both ⊢
  generalize (mintCode context now request).run right.supply = rightRun at both ⊢
  obtain ⟨leftResult, leftLast⟩ := leftRun
  obtain ⟨rightResult, rightLast⟩ := rightRun
  cases both with
  | error cause => exact .error cause
  | ok same => exact Token.steady_sealed same context leftLast rightLast

/-! ## Reserving -/

theorem sameForm_reserve (policy : Policy) (readings : Readings) (grant : Token)
    (store : ReservationStore) : SameForm store (reserve policy readings grant store).2 := by
  unfold reserve
  split
  · cases reservationSpan policy readings.now grant with
    | error cause => exact SameForm.refl store
    | ok span =>
      have same := store.sameForm_reserve readings.store grant.id span
      dsimp only
      split <;> next ran => rwa [ran] at same
  · exact SameForm.refl store

/-- **Whether a grant can be reserved** depends on the form of the store and on whether it is
reserved already, and so does what the store gains. -/
theorem reserve_steady (policy : Policy) {left right : ReservationStore}
    (form : SameForm left right) (held : reserved (left.live readings.store) grant.id =
      reserved (right.live readings.store) grant.id) :
    (reserve policy readings grant left).1 = (reserve policy readings grant right).1 ∧
      GainAlike (· = grant.id) (left.live readings.store)
        ((reserve policy readings grant left).2.live readings.store) (right.live readings.store)
        ((reserve policy readings grant right).2.live readings.store) := by
  unfold reserve
  cases singleUse policy grant.kind with
  | false => exact ⟨rfl, .kept _ _⟩
  | true =>
    cases reservationSpan policy readings.now grant with
    | error cause => exact ⟨rfl, .kept _ _⟩
    | ok span =>
      have both := form.reserve held span
      simp only [↓reduceIte]
      generalize left.reserve readings.store grant.id span = leftRan at both ⊢
      generalize right.reserve readings.store grant.id span = rightRan at both ⊢
      obtain ⟨answer, leftLater⟩ := leftRan
      obtain ⟨_, rightLater⟩ := rightRan
      obtain ⟨rfl, gain⟩ := both
      cases answer with
      | error cause => exact ⟨rfl, gain⟩
      | ok answer => cases answer <;> exact ⟨rfl, gain⟩

/-! ## Answering -/

theorem sameForm_handle (context : Context) (readings : Readings) (request : GrantRequest)
    (state : ServiceState) :
    SameForm state.store (handle context readings request state).2.store := by
  rcases store_handle context readings request state with kept | ⟨grant, -, kept⟩
  · rw [kept]
    exact SameForm.refl _
  · rw [kept]
    exact sameForm_reserve _ _ _ _

theorem redeem_steady (context : Context) (request : GrantRequest) {left right : ServiceState}
    (form : SameForm left.store right.store)
    (held : reserved (left.store.live readings.store) grant.id =
      reserved (right.store.live readings.store) grant.id) :
    SameAnswer Issued.SameShape (redeem context readings request grant left).1
        (redeem context readings request grant right).1 ∧
      GainAlike (· = grant.id) (left.store.live readings.store)
        ((redeem context readings request grant left).2.store.live readings.store)
        (right.store.live readings.store)
        ((redeem context readings request grant right).2.store.live readings.store) := by
  have both := reserve_steady context.policy form held
  unfold redeem
  generalize reserve context.policy readings grant left.store = leftRan at both ⊢
  generalize reserve context.policy readings grant right.store = rightRan at both ⊢
  obtain ⟨outcome, leftLater⟩ := leftRan
  obtain ⟨_, rightLater⟩ := rightRan
  obtain ⟨rfl, gain⟩ := both
  cases outcome with
  | error cause => exact ⟨.refused _, gain⟩
  | ok done =>
    have issued := steady_issue context request readings.now grant left.supply right.supply
    dsimp only at issued ⊢
    generalize (issue context request readings.now grant).run left.supply = leftRun at issued ⊢
    generalize (issue context request readings.now grant).run right.supply = rightRun at issued ⊢
    obtain ⟨leftResult, leftLast⟩ := leftRun
    obtain ⟨rightResult, rightLast⟩ := rightRun
    cases issued with
    | error cause => exact ⟨.refused _, gain⟩
    | ok shape => exact ⟨.granted shape, gain⟩

/-- **What a request is answered and adds** depends on the form of the store and on whether the
grant that is accepted is reserved. -/
theorem handle_steady {left right : ServiceState} (form : SameForm left.store right.store)
    (held : ∀ grant, accept context readings request = .ok grant →
      reserved (left.store.live readings.store) grant.id =
        reserved (right.store.live readings.store) grant.id) :
    SameAnswer Issued.SameShape (handle context readings request left).1
        (handle context readings request right).1 ∧
      GainAlike (fun id => ∃ grant, accept context readings request = .ok grant ∧ id = grant.id)
        (left.store.live readings.store)
        ((handle context readings request left).2.store.live readings.store)
        (right.store.live readings.store)
        ((handle context readings request right).2.store.live readings.store) := by
  unfold handle
  cases accepted : accept context readings request with
  | error refusal => exact ⟨.refused refusal, .kept _ _⟩
  | ok grant =>
    obtain ⟨same, gain⟩ := redeem_steady context request form (held grant accepted)
    exact ⟨same, gain.mono fun id named => ⟨grant, rfl, named⟩⟩

/-! ## Answering one after the other -/

/-- A request does not change whether another id than its grant's is reserved. -/
theorem reserved_handle {id : String}
    (apart : ∀ grant, accept context readings request = .ok grant → grant.id ≠ id) :
    reserved ((handle context readings request state).2.store.live readings.store) id =
      reserved (state.store.live readings.store) id := by
  obtain ⟨-, gained, named, gains, -⟩ := handle_steady (SameForm.refl state.store)
    (fun grant (_ : accept context readings request = .ok grant) => rfl)
  have foreign : reserved gained id = false := by
    rw [reserved, List.any_eq_false]
    intro reservation member same
    obtain ⟨grant, accepted, equal⟩ := named reservation member
    exact apart grant accepted (equal.symm.trans (of_decide_eq_true same))
  rw [gains, Reservation.reserved_append, foreign, Bool.or_false]

/-- Two requests do not have grants of one id accepted. -/
def Apart (context : Context) (readings : Readings) (request other : GrantRequest) : Prop :=
  ∀ grant found, accept context readings request = .ok grant →
    accept context readings other = .ok found → grant.id ≠ found.id

theorem Apart.symm (apart : Apart context readings request other) :
    Apart context readings other request :=
  fun grant found accepted acceptedToo => (apart found grant acceptedToo accepted).symm

/-- **A request of another grant comes first without a difference**: the answer has one shape, and
one and the same is gained. -/
theorem handle_after (apart : Apart context readings request other) (state : ServiceState) :
    SameAnswer Issued.SameShape (handle context readings request state).1
        (handle context readings request (handle context readings other state).2).1 ∧
      ∃ gained : List Reservation,
        (handle context readings request state).2.store.live readings.store =
          state.store.live readings.store ++ gained ∧
        (handle context readings request
            (handle context readings other state).2).2.store.live readings.store =
          (handle context readings other state).2.store.live readings.store ++ gained := by
  have held : ∀ grant, accept context readings request = .ok grant →
      reserved (state.store.live readings.store) grant.id =
        reserved ((handle context readings other state).2.store.live readings.store) grant.id :=
    fun grant accepted =>
      (reserved_handle fun found acceptedToo => (apart grant found accepted acceptedToo).symm).symm
  obtain ⟨same, gained, -, gains, gainsAfter⟩ :=
    handle_steady (sameForm_handle context readings other state) held
  exact ⟨same, gained, gains, gainsAfter⟩

/-- **Both orders leave the same reservations.** -/
theorem live_handle_perm (apart : Apart context readings request other) (state : ServiceState) :
    ((handle context readings other
        (handle context readings request state).2).2.store.live readings.store).Perm
      ((handle context readings request
        (handle context readings other state).2).2.store.live readings.store) := by
  obtain ⟨-, first, gains, gainsAfter⟩ := handle_after apart state
  obtain ⟨-, second, otherGains, otherGainsAfter⟩ := handle_after apart.symm state
  rw [gainsAfter, otherGainsAfter, gains, otherGains, List.append_assoc, List.append_assoc]
  exact List.perm_append_comm.append_left _

end Grant
end SealedGrant
