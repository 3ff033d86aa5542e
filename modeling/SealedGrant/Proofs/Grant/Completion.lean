import Mathlib
import SealedGrant.Proofs.Grant.Decision
import SealedGrant.Proofs.Grant.Redemption
import SealedGrant.Proofs.Policy
import SealedGrant.Proofs.Token.Minting

/-! # When a reserved code yields its tokens

Once a code is reserved and its scope is admitted, one condition remains: the tokens are issued
after the user authenticated (`SealedGrant.Grant.exists_run_issue_iff`). The tolerance for clocks
that run behind admits a code before that time, and then the code is used up for nothing
(`SealedGrant.Grant.granted_iff_authTime_le`).
-/

namespace SealedGrant

namespace Token

variable {token : Token} (formed : token.WellFormed)

include formed in
theorem authTime_nonneg : 0 ≤ token.authTime :=
  time_nonneg formed rfl

end Token

namespace Grant

open Token (Lifetime)

variable {context : Context} {request : GrantRequest} {now : ℤ} {grant : Token}
  {supply last : Supply}

theorem sum_eq {ttl : Duration} (whole : ttl.IsWhole) :
    (Number.int now).sum ttl.amount = .ok (.int (now + ttl.count)) := by
  rw [whole, Number.sum_int]

theorem exists_idToken_of_writable {expiry : Number} (subject : grant.subject.isEmpty = false)
    (sum : (Number.int now).sum context.policy.idTtl.amount = .ok expiry)
    (writable : Json.isWritable expiry = true) :
    ∃ text, idToken context now grant = .ok text := by
  unfold idToken expiryAfter IdToken.assemble
  rw [sum]
  simp only [subject, Bool.false_eq_true, ↓reduceIte]
  change ∃ text, (if Json.isWritable expiry then _ else _) = _
  rw [if_pos writable]
  exact ⟨_, rfl⟩

/-- What issuing for a grant rests on: a checked grant with a subject and finite numbers, a ring
that knows its current secret, and times in whole seconds that fit eight bytes. -/
structure Ready (context : Context) (now : ℤ) (grant : Token) : Prop where
  formed : grant.WellFormed
  kind : grant.kind ≠ .accessToken
  subject : grant.subject.isEmpty = false
  finite : (Json.object grant.claims.members).isFinite = true
  sealing : ∃ secret, context.ring.secret? context.ring.current.id = some secret
  whole : context.policy.IsWhole
  access_small : now + context.policy.accessTtl.count < KeyRing.expiryLimit
  refresh_small : now + context.policy.refreshTtl.count < KeyRing.expiryLimit
  id_small : now + context.policy.idTtl.count < KeyRing.expiryLimit

namespace Ready

variable (ready : Ready context now grant)

include ready

/-- Members that continue the grant and have its numbers make a token that can be sealed. -/
theorem exists_sealed {kind : TokenKind} {members : Members} {id scope : String} {expires : ℤ}
    (continues : Token.Continues grant kind members id now expires scope)
    (numbers : ∀ holds : Number → Bool,
      (Json.object grant.claims.members).allNumbers holds = true → holds (.int now) = true →
        holds (.int expires) = true → (Json.object members).allNumbers holds = true)
    (authenticated : grant.authTime ≤ now) (later : now ≤ expires)
    (small : expires < KeyRing.expiryLimit) :
    ∃ token, Token.build kind members = .ok token ∧
      ∀ supply, ∃ text, (token.sealed context).run supply = (.ok text, supply.afterDraw) := by
  have nonneg : 0 ≤ now := (Token.authTime_nonneg ready.formed).trans authenticated
  have follows := (Token.follows_iff_of_continues ready.formed continues).mpr
    ⟨nonneg, later, authenticated⟩
  have writable := numbers Json.isWritable ready.formed.writable
    (Json.isWritable_of_lt nonneg (by omega)) (Json.isWritable_of_lt (by omega) small)
  obtain ⟨token, built⟩ := Token.exists_build follows writable
  obtain ⟨-, claims, -, -⟩ := Token.build_eq_ok_iff.mp built
  have finite : (Json.object token.claims.members).isFinite = true := by
    rw [claims]
    exact numbers Number.isFinite ready.finite rfl rfl
  have ends : token.expiresAt = expires := by
    rw [Token.expiresAt, claims, ClaimSet.time, continues.value_of_mem_freshClaims (by decide)]
    rfl
  obtain ⟨secret, bound⟩ := ready.sealing
  exact ⟨token, built, fun supply =>
    Token.exists_run_sealedBy (Token.wellFormed_of_build continues.distinct built) finite bound
      (by omega) (by omega) context.random supply⟩

theorem exists_access (authenticated : grant.authTime ≤ now) (id scope : String) :
    ∃ token, Token.build .accessToken (grant.accessMembers id
        (.whole now (now + context.policy.accessTtl.count)) scope) = .ok token ∧
      ∀ supply, ∃ text, (token.sealed context).run supply = (.ok text, supply.afterDraw) := by
  have positive := Duration.count_pos ready.whole.access context.policy.access_positive
  exact ready.exists_sealed (Token.continues_accessMembers ready.formed _ _ _ _)
    (fun holds all first second => Token.allNumbers_accessMembers ready.formed all first second)
    authenticated (by omega) ready.access_small

theorem exists_refresh (authenticated : grant.authTime ≤ now) (id : String) :
    ∃ token, Token.build .refreshToken (grant.refreshMembers id
        (.whole now (now + context.policy.refreshTtl.count))) = .ok token ∧
      ∀ supply, ∃ text, (token.sealed context).run supply = (.ok text, supply.afterDraw) := by
  have nonneg := Duration.count_nonneg ready.whole.refresh context.policy.refresh_nonneg
  exact ready.exists_sealed (Token.continues_refreshMembers ready.formed ready.kind _ _ _)
    (fun holds all first second => Token.allNumbers_refreshMembers ready.formed all first second)
    authenticated (by omega) ready.refresh_small

theorem exists_idToken (authenticated : grant.authTime ≤ now) :
    ∃ text, idToken context now grant = .ok text := by
  have nonneg : 0 ≤ now := (Token.authTime_nonneg ready.formed).trans authenticated
  have positive := Duration.count_pos ready.whole.id context.policy.id_positive
  have writable : Json.isWritable (.int (now + context.policy.idTtl.count)) = true :=
    Json.isWritable_of_lt (by omega) ready.id_small
  exact exists_idToken_of_writable ready.subject (sum_eq ready.whole.id) writable

end Ready

/-- **When tokens are issued** for a grant that is ready and whose scope is admitted: once the user
has authenticated. -/
theorem exists_run_issue_iff (supply : Supply) (ready : Ready context now grant) {scope : String}
    (narrowed : grant.narrow (scopeRequest request) = .ok scope) :
    (∃ issued last, (issue context request now grant).run supply = (.ok issued, last)) ↔
      grant.authTime ≤ now := by
  constructor
  · intro parts
    obtain ⟨issued, last, ran⟩ := parts
    obtain ⟨derived, first, -, -, -, derives, -⟩ := run_issue_eq_ok_iff.mp ran
    obtain ⟨expiry, between, sum, access, -⟩ := run_derive_eq_ok_iff.mp derives
    obtain ⟨-, -, -, -, text, -, built⟩ := Token.run_deriveAccess_eq_ok_iff.mp access
    obtain ⟨-, -, follows, -⟩ := Token.build_eq_ok_iff.mp built
    rw [sum_eq ready.whole.access] at sum
    cases sum
    exact ((Token.follows_iff_of_continues ready.formed
      (Token.continues_accessMembers ready.formed _ text now _)).mp follows).2.2
  · intro authenticated
    obtain ⟨access, accessBuilt, accessSealed⟩ :=
      ready.exists_access authenticated (context.ids.next supply) scope
    have accessRuns := Token.run_deriveAccess_eq_ok_iff.mpr
      ⟨ready.kind, rfl, rfl, rfl, scope, narrowed, accessBuilt⟩
    have refreshRuns : ∃ refresh afterRefresh,
        (refreshOf context now grant).run (supply.afterId context.ids) =
          (.ok refresh, afterRefresh) ∧
        ∀ start, ∃ closed last, (sealedRefresh context refresh).run start = (.ok closed, last) := by
      cases yields : yieldsRefresh context.policy grant.kind with
      | false =>
        exact ⟨none, _, run_refreshOf_eq_ok_iff.mpr (Or.inl ⟨yields, rfl, rfl⟩),
          fun start => ⟨none, start, rfl⟩⟩
      | true =>
        obtain ⟨refresh, refreshBuilt, refreshSealed⟩ := ready.exists_refresh authenticated
          (context.ids.next (supply.afterId context.ids))
        refine ⟨some refresh, _, run_refreshOf_eq_ok_iff.mpr (Or.inr ⟨yields, _, refresh,
          sum_eq ready.whole.refresh, rfl, Token.run_deriveRefresh_eq_ok_iff.mpr
            ⟨ready.kind, rfl, rfl, rfl, refreshBuilt⟩⟩), fun start => ?_⟩
        obtain ⟨text, closed⟩ := refreshSealed start
        exact ⟨_, _, run_sealedRefresh_eq_ok_iff.mpr (Or.inr ⟨refresh, text, rfl, rfl, closed⟩)⟩
    obtain ⟨refresh, afterRefresh, refreshRun, refreshCloses⟩ := refreshRuns
    have signedRuns : ∃ signed, (signedOf context now grant access).run afterRefresh =
        (.ok signed, afterRefresh) := by
      cases yields : yieldsIdToken grant access with
      | false => exact ⟨none, run_signedOf_eq_ok_iff.mpr ⟨rfl, Or.inl ⟨yields, rfl⟩⟩⟩
      | true =>
        obtain ⟨text, signed⟩ := ready.exists_idToken authenticated
        exact ⟨_, run_signedOf_eq_ok_iff.mpr ⟨rfl, Or.inr ⟨yields, text, signed, rfl⟩⟩⟩
    obtain ⟨signed, signedRun⟩ := signedRuns
    obtain ⟨accessText, accessCloses⟩ := accessSealed afterRefresh
    obtain ⟨closed, last, refreshClosed⟩ := refreshCloses afterRefresh.afterDraw
    exact ⟨_, last, run_issue_eq_ok_iff.mpr ⟨⟨access, refresh, signed⟩, afterRefresh, _, accessText,
      closed, run_derive_eq_ok_iff.mpr ⟨_, _, sum_eq ready.whole.access, accessRuns, refreshRun,
        signedRun⟩, accessCloses, refreshClosed, rfl⟩⟩

/-- A code that was issued opens as the code that was minted, wherever its secret has not been
replaced. -/
theorem eq_stored_of_issueCode (exact : RandomSource.Exact context.random) {time : ℤ}
    {codeRequest : CodeRequest} {before : ServiceState} {text : String}
    (issued : (issueCode context time codeRequest before).result = .ok text) {ring : KeyRing}
    (agrees : context.ring.Agrees ring) {skew reading : Number} {kind : TokenKind}
    (opened : Token.ofSealed ring skew reading kind text = .ok grant) :
    ∃ code after, ∃ formed : code.WellFormed,
      (mintCode context time codeRequest).run before.supply = (.ok code, after) ∧
      (∃ plain, code.serialize = .ok plain) ∧
      (∃ secret, context.ring.secret? context.ring.current.id = some secret) ∧
      grant = code.stored formed := by
  obtain ⟨code, after, last, minted, closed⟩ := issueCode_eq_ok_iff.mp issued
  have formed := (wellFormed_of_mintCode minted).1
  obtain ⟨plain, written, -⟩ := Token.run_sealedBy_eq_ok_iff.mp closed
  obtain ⟨secret, seconds, bound, -, holds⟩ := Token.holds_of_sealedBy formed exact closed
  obtain ⟨-, id, found, expiry, foundBound, foundHolds, -⟩ := Token.ofSealed_eq_ok_iff.mp opened
  obtain rfl := Token.Holds.id_eq foundHolds holds
  obtain rfl := agrees _ _ _ bound foundBound
  exact ⟨code, after, formed, minted, ⟨plain, written⟩, ⟨secret, bound⟩, foundHolds.unique holds⟩

/-- What opens of an issued code has the id that was drawn for it. -/
theorem id_of_issueCode (exact : RandomSource.Exact context.random) {time : ℤ}
    {codeRequest : CodeRequest} {before : ServiceState} {text : String}
    (issued : (issueCode context time codeRequest before).result = .ok text) {skew reading : Number}
    {kind : TokenKind}
    (opened : Token.ofSealed context.ring skew reading kind text = .ok grant) :
    grant.id = context.ids.next before.supply := by
  obtain ⟨code, after, formed, minted, -, -, rfl⟩ :=
    eq_stored_of_issueCode exact issued (.refl context.ring) opened
  rw [Token.id_stored, (id_of_mintCode minted).1]

/-- What opens of an issued code is ready for issuing. -/
theorem ready_of_issueCode (exact : RandomSource.Exact context.random)
    (whole : context.policy.IsWhole) {time : ℤ} {codeRequest : CodeRequest}
    {before : ServiceState} {text : String}
    (issued : (issueCode context time codeRequest before).result = .ok text) {skew reading : Number}
    {kind : TokenKind}
    (opened : Token.ofSealed context.ring skew reading kind text = .ok grant)
    (accessSmall : now + context.policy.accessTtl.count < KeyRing.expiryLimit)
    (refreshSmall : now + context.policy.refreshTtl.count < KeyRing.expiryLimit)
    (idSmall : now + context.policy.idTtl.count < KeyRing.expiryLimit) :
    Ready context now grant := by
  obtain ⟨code, after, formed, minted, written, sealing, rfl⟩ :=
    eq_stored_of_issueCode exact issued (.refl context.ring) opened
  obtain ⟨-, codeKind, subject⟩ := wellFormed_of_mintCode minted
  exact {
    formed := Token.wellFormed_stored formed
    kind := by
      rw [Token.kind_stored, codeKind]
      decide
    subject := by rwa [Token.subject_stored]
    finite := written.elim fun _ text => Json.allNumbers_canon (Token.isFinite_of_serialize text)
    sealing
    whole
    access_small := accessSmall
    refresh_small := refreshSmall
    id_small := idSmall }

/-- An accepted and reserved grant that is ready yields tokens exactly when its user had
authenticated by then. -/
theorem handle_of_ready {readings : Readings} {state : ServiceState}
    (ready : Ready context readings.now grant)
    (accepted : accept context readings request = .ok grant)
    (reserved : (reserve context.policy readings grant state.store).1 = .ok ())
    (within : asksWithin request grant = true) :
    ((∃ tokens, (handle context readings request state).1 = .granted tokens) ↔
        grant.authTime ≤ readings.now) ∧
      (readings.now < grant.authTime → ∃ refusal,
        (handle context readings request state).1 = .refused refusal ∧
          refusal.code = .serverError ∧ refusal.after = .replayReserved) := by
  rcases narrow_eq request grant with ⟨-, scope, narrowed⟩ | ⟨beyond, -⟩
  · have yields := exists_run_issue_iff state.supply ready narrowed
    have fails : (issue context request readings.now grant).FailsWith IsServerError :=
      failsWith_issue narrowed
    specialize fails state.supply
    cases ran : (issue context request readings.now grant).run state.supply with
    | mk result last =>
      have answers := answer_of_reserved accepted reserved ran
      rw [ran] at yields fails
      cases result with
      | ok tokens =>
        have authenticated := yields.mp ⟨tokens, last, rfl⟩
        exact ⟨iff_of_true ⟨tokens, answers.1 tokens rfl⟩ authenticated,
          fun early => absurd early (by omega)⟩
      | error cause =>
        have early : ¬ grant.authTime ≤ readings.now := by
          intro authenticated
          obtain ⟨tokens, _, equal⟩ := yields.mpr authenticated
          cases equal
        rw [answers.2 cause rfl]
        exact ⟨iff_of_false (by simp) early, fun _ => ⟨_, rfl, fails cause last rfl, rfl⟩⟩
  · rw [within] at beyond
    cases beyond

/-- A request that asks for more than its grant has is refused once the grant is reserved. -/
theorem refused_of_not_asksWithin {readings : Readings} {state : ServiceState}
    (accepted : accept context readings request = .ok grant)
    (reserved : (reserve context.policy readings grant state.store).1 = .ok ())
    (beyond : asksWithin request grant = false) : ∃ refusal,
      (handle context readings request state).1 = .refused refusal ∧
        refusal.after = .replayReserved := by
  cases ran : (issue context request readings.now grant).run state.supply with
  | mk result last =>
    have answers := answer_of_reserved accepted reserved ran
    cases result with
    | error cause => exact ⟨_, answers.2 cause rfl, rfl⟩
    | ok tokens =>
      rcases issue_decided context request readings.now grant ran with passes | ⟨-, _, same, -⟩
      · have within := firstFailing_eq_none_iff.mp passes
          ⟨asksWithin request grant, .invalidScope, .replayReserved⟩ (by simp [issueChecks])
        rw [beyond] at within
        cases within
      · cases same

/-- **When a reserved code yields its tokens.** A code that was issued in a context, that is
accepted and reserved there and whose scope is admitted, yields tokens exactly when its user had
authenticated by then; otherwise the code is used up and the answer is a server error. -/
theorem granted_iff_authTime_le (exact : RandomSource.Exact context.random)
    (whole : context.policy.IsWhole) {time : ℤ} {codeRequest : CodeRequest}
    {before state : ServiceState} {text : String}
    (issued : (issueCode context time codeRequest before).result = .ok text) {readings : Readings}
    (presents : presented request = .ok (.authorizationCode, text))
    (accepted : accept context readings request = .ok grant)
    (reserved : (reserve context.policy readings grant state.store).1 = .ok ())
    (within : asksWithin request grant = true)
    (accessSmall : readings.now + context.policy.accessTtl.count < KeyRing.expiryLimit)
    (refreshSmall : readings.now + context.policy.refreshTtl.count < KeyRing.expiryLimit)
    (idSmall : readings.now + context.policy.idTtl.count < KeyRing.expiryLimit) :
    ((∃ tokens, (handle context readings request state).1 = .granted tokens) ↔
        grant.authTime ≤ readings.now) ∧
      (readings.now < grant.authTime → ∃ refusal,
        (handle context readings request state).1 = .refused refusal ∧
          refusal.code = .serverError ∧ refusal.after = .replayReserved) := by
  obtain ⟨kind, found, read, opened, -⟩ := accept_eq_ok_iff.mp accepted
  rw [presents] at read
  cases read
  exact handle_of_ready
    (ready_of_issueCode exact whole issued opened accessSmall refreshSmall idSmall) accepted
    reserved within

/-- A code that opens and belongs to the client's request is accepted. -/
theorem accept_of_ofSealed {text : String} {readings : Readings}
    (opened : Token.ofSealed context.ring context.sealSkew readings.sealing .authorizationCode
      text = .ok grant)
    (identified : identify context.policy (codeGrant text) readings.now grant = .ok ()) :
    accept context readings (codeGrant text) = .ok grant :=
  accept_eq_ok_iff.mpr
    ⟨_, text, presented_codeGrant (text_ne_of_ofSealed opened), opened, identified⟩

theorem accept_codeGrant {text : String}
    (issued : (issueCode Sample.context 1700000000 Sample.codeRequest Sample.state).result =
      .ok text) {now : ℤ} (early : now < 1700000360)
    (identified : identify Sample.context.policy (codeGrant text) now Sample.code = .ok ()) :
    accept Sample.context ⟨now, .int now, .int now⟩ (codeGrant text) = .ok Sample.readCode :=
  accept_of_ofSealed (Sample.ofSealed_code issued early)
    (by rw [Sample.readCode, identify_stored, identified])

theorem reserve_stored (formed : grant.WellFormed) (policy : Policy) (readings : Readings)
    (store : ReservationStore) :
    reserve policy readings (grant.stored formed) store = reserve policy readings grant store := by
  simp only [reserve, reservationSpan, Token.kind_stored, Token.id_stored, Token.expiresAt_stored]

theorem isWhole_policy : Sample.context.policy.IsWhole := ⟨rfl, rfl, rfl, rfl, rfl⟩

/-- Ten seconds after its issue the code yields tokens. -/
theorem granted_codeGrant : ∃ text, (issueCode Sample.context 1700000000 Sample.codeRequest
      Sample.state).result = .ok text ∧
    ∃ tokens, (handle Sample.context ⟨1700000010, 1700000010, 1700000010⟩ (codeGrant text)
      Sample.state).1 = .granted tokens := by
  obtain ⟨text, issued⟩ := Sample.exists_issueCode
  have presents := presented_codeGrant (Sample.text_ne_of_issueCode issued)
  have accepted : accept Sample.context ⟨1700000010, 1700000010, 1700000010⟩ (codeGrant text) =
      .ok Sample.readCode := accept_codeGrant issued (by norm_num) rfl
  have reserved : (reserve Sample.context.policy ⟨1700000010, 1700000010, 1700000010⟩
      Sample.readCode Sample.state.store).1 = .ok () := by
    rw [Sample.readCode, reserve_stored]
    rfl
  have decided := granted_iff_authTime_le Sample.exact_random isWhole_policy issued presents
    accepted reserved rfl (by decide) (by decide) (by decide)
  refine ⟨text, issued, decided.1.mpr ?_⟩
  rw [Sample.readCode, Token.authTime_stored]
  decide

/-- **A reserved code can be lost.** Half a minute before its issue the code is accepted, because
clocks may differ by a minute, and reserved; then the answer is a server error. -/
theorem refused_codeGrant : ∃ text, (issueCode Sample.context 1700000000 Sample.codeRequest
      Sample.state).result = .ok text ∧
    presented (codeGrant text) = .ok (.authorizationCode, text) ∧
    accept Sample.context ⟨1699999970, 1699999970, 1699999970⟩ (codeGrant text) =
      .ok Sample.readCode ∧
    (reserve Sample.context.policy ⟨1699999970, 1699999970, 1699999970⟩ Sample.readCode
      Sample.state.store).1 = .ok () ∧
    asksWithin (codeGrant text) Sample.readCode = true ∧
    ∃ refusal, (handle Sample.context ⟨1699999970, 1699999970, 1699999970⟩ (codeGrant text)
        Sample.state).1 = .refused refusal ∧
      refusal.code = .serverError ∧ refusal.after = .replayReserved := by
  obtain ⟨text, issued⟩ := Sample.exists_issueCode
  have presents := presented_codeGrant (Sample.text_ne_of_issueCode issued)
  have accepted : accept Sample.context ⟨1699999970, 1699999970, 1699999970⟩ (codeGrant text) =
      .ok Sample.readCode := accept_codeGrant issued (by norm_num) rfl
  have reserved : (reserve Sample.context.policy ⟨1699999970, 1699999970, 1699999970⟩
      Sample.readCode Sample.state.store).1 = .ok () := by
    rw [Sample.readCode, reserve_stored]
    rfl
  have opened : Token.ofSealed Sample.context.ring Sample.context.sealSkew (.int 1699999970)
      .authorizationCode text = .ok Sample.readCode := Sample.ofSealed_code issued (by norm_num)
  have ready : Ready Sample.context 1699999970 Sample.readCode :=
    ready_of_issueCode Sample.exact_random isWhole_policy issued
      opened (by decide) (by decide) (by decide)
  refine ⟨text, issued, presents, accepted, reserved, rfl,
    (handle_of_ready ready accepted reserved rfl).2 ?_⟩
  rw [Sample.readCode, Token.authTime_stored]
  decide

end Grant
end SealedGrant
