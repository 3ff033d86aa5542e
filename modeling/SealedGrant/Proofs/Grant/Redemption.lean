import Mathlib
import SealedGrant.Grant.Redemption
import SealedGrant.Proofs.Grant.Issuance
import SealedGrant.Proofs.Reservation

/-! # Redeeming a grant once

A request is granted when its grant is accepted, then reserved, then issued for
(`SealedGrant.Grant.handle_eq_granted_iff`), and refused for want of one of these
(`SealedGrant.Grant.handle_refused_cases`). A grant that can be used once is held from its
reservation until the last second in which it could be accepted, where the store counts that far
(`SealedGrant.Grant.holds_of_reserve`), so it is not reserved a second time while it is accepted
(`SealedGrant.Grant.le_of_reserve_of_spent`).
-/

namespace SealedGrant

/-- A stage before the reservation, at which a request has changed nothing yet. -/
def Stage.IsEarly (stage : Stage) : Prop :=
  stage = .start ∨ stage = .grantParsed ∨ stage = .tokenUnwrapped

namespace Stage.IsEarly

variable {stage : Stage} (early : stage.IsEarly)

include early

theorem ne_identityVerified : stage ≠ .identityVerified := by
  rintro rfl
  simp [IsEarly] at early

theorem ne_replayReserved : stage ≠ .replayReserved := by
  rintro rfl
  simp [IsEarly] at early

end Stage.IsEarly

namespace Grant

variable {context : Context} {policy : Policy} {readings : Readings} {request : GrantRequest}
  {grant : Token} {state last : ServiceState} {store after : ReservationStore}

/-- What binds a grant to a request: its client, its life and, for a code, the redirect URI, the
challenge that a policy may demand and the verifier. -/
structure Belongs (policy : Policy) (request : GrantRequest) (now : ℤ) (grant : Token) : Prop where
  client : request.clientId = some grant.clientId
  begun : ∃ latest, (Number.int now).sum policy.skew = .ok latest ∧
    latest.lt (.int grant.issuedAt) = false
  alive : grant.isExpired (.int now) policy.skew = .ok false
  code : grant.kind = .authorizationCode → matchCode policy request grant = .ok ()

theorem matchCode_eq_ok_iff : matchCode policy request grant = .ok () ↔
    request.redirectUri = some grant.redirectUri ∧
      (policy.demandsPkce request.publicClient = true → grant.challenge?.isSome = true) ∧
      Pkce.check grant.challenge? request.codeVerifier = .ok () := by
  unfold matchCode
  by_cases redirect : some grant.redirectUri = request.redirectUri
  · rw [if_neg (not_not_intro redirect)]
    cases bound : grant.challenge? with
    | none => cases policy.demandsPkce request.publicClient <;> simp [redirect]
    | some challenge => simp [redirect]
  · rw [if_pos redirect]
    simp [Ne.symm redirect]

/-- Of a grant that is the client's own and in its life, only a code has more to be checked. -/
theorem identify_eq_matchCode {now : ℤ} (client : request.clientId = some grant.clientId)
    (begun : ∃ latest, (Number.int now).sum policy.skew = .ok latest ∧
      latest.lt (.int grant.issuedAt) = false)
    (alive : grant.isExpired (.int now) policy.skew = .ok false) :
    identify policy request now grant =
      if grant.kind = .authorizationCode then matchCode policy request grant else .ok () := by
  obtain ⟨latest, sum, begun⟩ := begun
  unfold identify
  rw [if_neg (not_not_intro client.symm), sum]
  dsimp only
  rw [begun, if_neg Bool.false_ne_true, alive]
  dsimp only
  rw [ite_not]

/-- **A grant is identified exactly when it belongs to the request.** -/
theorem identify_eq_ok_iff {now : ℤ} :
    identify policy request now grant = .ok () ↔ Belongs policy request now grant := by
  constructor
  · intro identified
    unfold identify at identified
    split at identified
    · cases identified
    next client =>
    split at identified
    · cases identified
    next latest sum =>
    split at identified
    · cases identified
    next begun =>
    split at identified
    · cases identified
    · cases identified
    next alive =>
    refine ⟨(not_not.mp client).symm, ⟨latest, sum, Bool.eq_false_iff.mpr begun⟩, alive, ?_⟩
    intro isCode
    rwa [if_neg (not_not_intro isCode)] at identified
  · rintro ⟨client, begun, alive, code⟩
    rw [identify_eq_matchCode client begun alive]
    split
    · next isCode => exact code isCode
    · rfl

/-- A grant is accepted when its text opens as it and it belongs to the request. -/
theorem accept_eq_ok_iff :
    accept context readings request = .ok grant ↔
      ∃ kind text, presented request = .ok (kind, text) ∧
        Token.ofSealed context.ring context.sealSkew readings.sealing kind text = .ok grant ∧
        identify context.policy request readings.now grant = .ok () := by
  unfold accept
  constructor
  · intro accepted
    split at accepted
    · cases accepted
    · next kind text read =>
      split at accepted
      · cases accepted
      · next found opened =>
        split at accepted
        · cases accepted
        · next identified =>
          cases accepted
          exact ⟨kind, text, read, opened, identified⟩
  · intro parts
    obtain ⟨kind, text, read, opened, identified⟩ := parts
    rw [read]
    dsimp only
    rw [opened]
    dsimp only
    rw [identified]

/-- **What is granted** was accepted, then reserved, then issued for. -/
theorem handle_eq_granted_iff {tokens : Issued} :
    handle context readings request state = (.granted tokens, last) ↔
      ∃ grant, accept context readings request = .ok grant ∧
        reserve context.policy readings grant state.store = (.ok (), last.store) ∧
        (issue context request readings.now grant).run state.supply =
          (.ok tokens, last.supply) := by
  unfold handle
  cases accept context readings request with
  | error refusal => simp
  | ok grant =>
    simp only [Except.ok.injEq, exists_eq_left']
    unfold redeem
    cases reserve context.policy readings grant state.store with
    | mk outcome store =>
      cases outcome with
      | error cause => simp
      | ok done =>
        dsimp only
        cases (issue context request readings.now grant).run state.supply with
        | mk result supply =>
          cases result with
          | error cause => simp
          | ok issued =>
            simp only [Prod.mk.injEq, Answer.granted.injEq, Except.ok.injEq, true_and]
            constructor
            · rintro ⟨rfl, rfl⟩
              exact ⟨rfl, rfl, rfl⟩
            · intro parts
              obtain ⟨rfl, rfl, rfl⟩ := parts
              exact ⟨rfl, rfl⟩

theorem isEarly_of_accept {refusal : Refusal}
    (refused : accept context readings request = .error refusal) : refusal.after.IsEarly := by
  unfold accept at refused
  split at refused
  · cases refused
    exact Or.inl rfl
  · split at refused
    · cases refused
      exact Or.inr (Or.inl rfl)
    · split at refused
      · cases refused
        exact Or.inr (Or.inr rfl)
      · cases refused

/-- **What is refused** was not accepted, or not reserved, or nothing could be issued for it. -/
theorem handle_refused_cases {refusal : Refusal}
    (refused : handle context readings request state = (.refused refusal, last)) :
    (refusal.after.IsEarly ∧ last = state) ∨
      ∃ grant, accept context readings request = .ok grant ∧
        ((refusal.after = .identityVerified ∧ last.supply = state.supply ∧
            reserve context.policy readings grant state.store =
              (.error refusal.cause, last.store)) ∨
          (refusal.after = .replayReserved ∧
            reserve context.policy readings grant state.store = (.ok (), last.store) ∧
            (issue context request readings.now grant).run state.supply =
              (.error refusal.cause, last.supply))) := by
  unfold handle at refused
  cases accepted : accept context readings request with
  | error found =>
    rw [accepted] at refused
    cases refused
    exact Or.inl ⟨isEarly_of_accept accepted, rfl⟩
  | ok grant =>
    rw [accepted] at refused
    refine Or.inr ⟨grant, rfl, ?_⟩
    dsimp only [redeem] at refused
    cases reserved : reserve context.policy readings grant state.store with
    | mk outcome store =>
      rw [reserved] at refused
      cases outcome with
      | error cause =>
        cases refused
        exact Or.inl ⟨rfl, rfl, rfl⟩
      | ok done =>
        dsimp only at refused
        cases ran : (issue context request readings.now grant).run state.supply with
        | mk result supply =>
          rw [ran] at refused
          cases result with
          | ok issued => cases refused
          | error cause =>
            cases refused
            exact Or.inr ⟨rfl, rfl, rfl⟩

/-- Once a grant is accepted and reserved, the answer is what comes of issuing for it. -/
theorem answer_of_reserved {supply : Supply} {result : Except Failure Issued}
    (accepted : accept context readings request = .ok grant)
    (reserved : (reserve context.policy readings grant state.store).1 = .ok ())
    (ran : (issue context request readings.now grant).run state.supply = (result, supply)) :
    (∀ tokens, result = .ok tokens →
      (handle context readings request state).1 = .granted tokens) ∧
    ∀ cause, result = .error cause → (handle context readings request state).1 =
      .refused ⟨cause, .replayReserved, some grant.id⟩ := by
  unfold handle redeem
  rw [accepted]
  dsimp only
  generalize reserve context.policy readings grant state.store = reservation at reserved ⊢
  obtain ⟨outcome, store⟩ := reservation
  cases reserved
  dsimp only
  rw [ran]
  constructor
  · rintro tokens rfl
    rfl
  · rintro cause rfl
    rfl

/-- An accepted grant that is not reserved is refused for that. -/
theorem refused_of_reserve_error {cause : Failure}
    (accepted : accept context readings request = .ok grant)
    (refused : (reserve context.policy readings grant state.store).1 = .error cause) :
    (handle context readings request state).1 =
      .refused ⟨cause, .identityVerified, some grant.id⟩ := by
  unfold handle redeem
  rw [accepted]
  dsimp only
  generalize reserve context.policy readings grant state.store = reservation at refused ⊢
  obtain ⟨outcome, store⟩ := reservation
  cases refused
  rfl

/-- A request leaves the reservations alone, unless its grant is accepted and reserved. -/
theorem store_handle (context : Context) (readings : Readings) (request : GrantRequest)
    (state : ServiceState) :
    (handle context readings request state).2.store = state.store ∨
      ∃ grant, accept context readings request = .ok grant ∧
        (handle context readings request state).2.store =
          (reserve context.policy readings grant state.store).2 := by
  unfold handle
  cases accept context readings request with
  | error refusal => exact Or.inl rfl
  | ok grant =>
    refine Or.inr ⟨grant, rfl, ?_⟩
    unfold redeem
    dsimp only
    cases reserve context.policy readings grant state.store with
    | mk outcome store =>
      cases outcome with
      | error cause => rfl
      | ok done =>
        dsimp only
        cases (issue context request readings.now grant).run state.supply with
        | mk result supply => cases result <;> rfl

theorem reaches_handle :
    state.supply.Reaches (handle context readings request state).2.supply := by
  unfold handle
  cases accept context readings request with
  | error refusal => exact Supply.Reaches.refl _
  | ok grant =>
    dsimp only
    unfold redeem
    cases reserve context.policy readings grant state.store with
    | mk outcome store =>
      cases outcome with
      | error cause => exact Supply.Reaches.refl _
      | ok done =>
        have grown : (issue context request readings.now grant).Grows := grows_issue
        specialize grown state.supply
        dsimp only
        cases result : (issue context request readings.now grant).run state.supply with
        | mk outcome supply =>
          rw [result] at grown
          cases outcome <;> exact grown

/-- What is accepted lies inside its life, in whole seconds. -/
theorem lt_of_identify {skew now : ℤ} (whole : policy.skew = .int skew)
    (identified : identify policy request now grant = .ok ()) : now < grant.expiresAt + skew := by
  have alive := (identify_eq_ok_iff.mp identified).alive
  rw [whole, Token.isExpired_eq, Number.sum_int, Except.map, Except.ok.injEq] at alive
  by_contra late
  have expired : (Number.int (grant.expiresAt + skew)).le (.int now) = true :=
    decide_eq_true (by omega)
  rw [expired] at alive
  cases alive

/-- **Reserving a grant** leaves the store alone or is one reservation of the grant's id. -/
theorem reserve_cases {outcome : Except Failure Unit}
    (ran : reserve policy readings grant store = (outcome, after)) :
    after = store ∨ ∃ ttl answer, store.reserve readings.store grant.id ttl = (answer, after) ∧
      (outcome = .ok () ↔ answer = .ok .reserved) := by
  unfold reserve at ran
  split at ran
  · split at ran
    · cases ran
      exact Or.inl rfl
    · next span spans =>
      refine Or.inr ⟨span, ?_⟩
      split at ran <;> next answered => cases ran; exact ⟨_, answered, by simp⟩
  · cases ran
    exact Or.inl rfl

variable {id : String} {ends time earlier : ℤ}

/-- **Redeeming leaves what is spent spent.** -/
theorem spent_reserve (shows : readings.store.whole = .ok time) (order : earlier ≤ time)
    (spent : store.Spent id ends earlier) :
    (reserve policy readings grant store).2.Spent id ends time := by
  rcases reserve_cases (Prod.eta (reserve policy readings grant store)).symm with
    same | ⟨ttl, answer, ran, -⟩
  · rw [same]
    exact spent.mono order
  · exact spent.reserve order shows ran

/-- **A refused reservation** leaves the reservations that hold. -/
theorem live_of_reserve_error {cause : Failure}
    (refused : reserve policy readings grant store = (.error cause, after)) :
    after.live readings.store = store.live readings.store := by
  rcases reserve_cases refused with rfl | ⟨ttl, answer, ran, made⟩
  · rfl
  · refine ReservationStore.live_of_not_reserved ran fun reserved => ?_
    cases made.mpr reserved

section Whole

variable {skew now : ℤ} (whole : policy.skew = .int skew)

include whole

theorem reservationSpan_eq :
    reservationSpan policy now grant = .ok (.int (grant.expiresAt + skew - now)) := by
  unfold reservationSpan
  rw [whole]
  rfl

/-- A grant that can be used once is reserved, in whole seconds, when the store says so. -/
theorem reserve_eq_ok_iff (once : singleUse policy grant.kind = true) :
    reserve policy readings grant store = (.ok (), after) ↔
      store.reserve readings.store grant.id (.int (grant.expiresAt + skew - readings.now)) =
        (.ok .reserved, after) := by
  have spans : reservationSpan policy readings.now grant = _ := reservationSpan_eq whole
  unfold reserve
  rw [if_pos once]
  generalize reservationSpan policy readings.now grant = span at spans ⊢
  subst spans
  dsimp only
  split <;> simp_all

/-- **A reserved grant is held** as long as it can be accepted, and longer by the time that passed
before the store was asked. -/
theorem holds_of_reserve (once : singleUse policy grant.kind = true)
    (shows : readings.store.whole = .ok time) (alive : readings.now < grant.expiresAt + skew)
    (counts : store.CountsTo readings.store (grant.expiresAt + skew + (time - readings.now)))
    (reserved : reserve policy readings grant store = (.ok (), after)) :
    after.Holds grant.id (grant.expiresAt + skew + (time - readings.now)) := by
  have ends : time + (grant.expiresAt + skew - readings.now) =
      grant.expiresAt + skew + (time - readings.now) := by
    omega
  rw [reserve_eq_ok_iff whole once] at reserved
  rw [← ends] at counts ⊢
  exact ReservationStore.Holds.of_reserved shows (by omega) counts reserved

/-- **A spent grant is not reserved while it is accepted.** -/
theorem le_of_reserve_of_spent (once : singleUse policy grant.kind = true)
    (shows : readings.store.whole = .ok time) (order : earlier ≤ time)
    (spent : store.Spent grant.id ends earlier)
    (reserved : reserve policy readings grant store = (.ok (), after)) : ends ≤ time := by
  rw [reserve_eq_ok_iff whole once] at reserved
  exact spent.le_of_reserved order shows reserved

end Whole

end Grant
end SealedGrant
