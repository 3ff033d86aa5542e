import Mathlib
import SealedGrant.Proofs.Grant.Redemption
import SealedGrant.Proofs.Token.Minting
import SealedGrant.Proofs.Token.Opened
import SealedGrant.Server

/-! # What the bodies of answers say

The body of an answer is JSON text, and whoever reads it finds what was written. This holds of every
refusal (`SealedGrant.Server.read_refusal`). Of issued tokens the lifetime has to be short enough to
be read back, and it is, because the access token tells when it ends
(`SealedGrant.Server.read_granted`). The body has an error exactly when it is a refusal.
-/

namespace SealedGrant

open SealedGrant.Json (isReadable)

theorem HttpResponse.read_ofJson {value : Json} (readable : value.allNumbers isReadable = true)
    (distinct : value.Distinct) (status : Nat) (headers : List (String × String)) :
    Json.read .strict (ofJson status value headers).body = .ok value := by
  rw [ofJson, Json.read_render Json.Style.separates_compact .strict readable,
    Json.settled_of_distinct value distinct]

/-! ## Refusals -/

theorem ErrorCode.get?_error {code : ErrorCode} {members : Members}
    (same : code.body = .object members) : members.get? "error" = some (.string code.text) := by
  cases same
  rfl

/-- **A refusal is read back.** -/
theorem Server.read_refusal (code : ErrorCode) :
    Json.read .strict (refusal code).body = .ok code.body := by
  apply HttpResponse.read_ofJson
  · cases code <;> rfl
  · cases code <;> simp [ErrorCode.body, ErrorCode.description?, Json.Distinct,
      Json.DistinctMembers]

/-! ## Issued tokens -/

theorem Issued.get?_error {issued : Issued} {members : Members}
    (same : issued.body = .object members) : members.get? "error" = none := by
  obtain ⟨grantId, accessToken, accessId, expiresIn, scope, refresh, idToken⟩ := issued
  cases same
  cases refresh <;> cases idToken <;> rfl

theorem Issued.distinct_body (issued : Issued) : issued.body.Distinct := by
  obtain ⟨grantId, accessToken, accessId, expiresIn, scope, refresh, idToken⟩ := issued
  have span : expiresIn.toJson.Distinct := by cases expiresIn <;> trivial
  cases refresh <;> cases idToken <;> simp [body, Json.Distinct, Json.DistinctMembers, span]

/-- The body of an answer has no numbers but the lifetime. -/
theorem Issued.allNumbers_body {holds : Number → Bool} {issued : Issued}
    (span : issued.expiresIn.toJson.allNumbers holds = true) :
    issued.body.allNumbers holds = true := by
  obtain ⟨grantId, accessToken, accessId, expiresIn, scope, refresh, idToken⟩ := issued
  cases refresh <;> cases idToken <;> simp [body, Json.allNumbers, Json.allNumbersOf, span]

/-- What is closer to zero than a number that is read back is read back. -/
theorem Json.isReadable_of_natAbs_le {m n : ℤ} (order : m.natAbs ≤ n.natAbs)
    (readable : isReadable (.int n) = true) : isReadable (.int m) = true := by
  have positive : 0 < Text.digitLimit := by decide
  simp only [isReadable, decide_eq_true_eq] at readable ⊢
  rw [Nat.length_toDigits_le_iff (by norm_num) positive] at readable ⊢
  exact lt_of_le_of_lt order readable

/-- A span is no longer than the time at which it ends, if it starts at a time that is not
negative. -/
theorem Duration.isReadable_of_sum {ttl : Duration} {now ends : ℤ} (nonneg : 0 ≤ now)
    (order : now ≤ ends) (sum : (Number.int now).sum ttl.amount = .ok (.int ends))
    (readable : isReadable (.int ends) = true) : ttl.toJson.allNumbers isReadable = true := by
  cases ttl with
  | flag on => rfl
  | seconds count =>
    cases count with
    | int n =>
      have whole : now + n = ends := Number.int.inj (Except.ok.inj sum)
      exact Json.isReadable_of_natAbs_le (by omega) readable
    | double d =>
      unfold Number.sum at sum
      split at sum
      · cases sum
      · cases sum

namespace Token

/-- A time of a checked token is read back. -/
theorem isReadable_time {token : Token} (formed : token.WellFormed) {claim : Claim}
    (required : claim.presence token.kind = .required) (shape : claim.shape = .time) :
    isReadable (.int (token.claims.time claim)) = true := by
  have found := get?_eq_time formed required shape
  have all := formed.writable
  rw [Json.allNumbers, Json.allNumbersOf_eq_all, List.all_eq_true] at all
  have writable := all _ ((Members.get?_eq_some_iff formed.distinct).mp found)
  simp only [Json.allNumbers] at writable
  exact Json.isReadable_iff.mpr ⟨rfl, writable⟩

end Token

namespace Grant

variable {context : Context} {request : GrantRequest} {now : ℤ} {grant : Token}
  {supply last : Supply} {tokens : Issued}

/-- **The lifetime that an answer tells is read back.** -/
theorem isReadable_of_issue
    (ran : (issue context request now grant).run supply = (.ok tokens, last)) :
    tokens.expiresIn.toJson.allNumbers isReadable = true := by
  obtain ⟨derived, first, second, accessText, closed, derives, -, -, rfl⟩ :=
    run_issue_eq_ok_iff.mp ran
  obtain ⟨expiry, between, sum, accessRun, -⟩ := run_derive_eq_ok_iff.mp derives
  obtain ⟨-, -, -, -, scope, -, built⟩ := Token.run_deriveAccess_eq_ok_iff.mp accessRun
  have formed := Token.wellFormed_of_build (grant.nodup_accessMembers _ _ _) built
  obtain ⟨kind, claims, follows, -⟩ := Token.build_eq_ok_iff.mp built
  -- both times are fresh members, and the token was checked to have times there
  have told (claim : Claim) (own : claim ∉ Token.inheritedClaims ++ [.delivery, .deliveryUi])
      (other : claim ≠ .acr) (required : claim.presence .accessToken = .required)
      (shape : claim.shape = .time) :
      Token.fresh? .accessToken (context.ids.next supply) ⟨.number (.int now), .number expiry⟩ scope
        claim = some (.number (.int (derived.access.claims.time claim))) := by
    rw [← Token.get?_eq_time formed (by rw [kind, required]) shape, claims,
      Token.get?_accessMembers, if_neg own, if_neg other]
  have ends : expiry = .int (derived.access.claims.time .expiresAt) :=
    Json.number.inj (Option.some.inj (told .expiresAt (by decide) (by decide) rfl rfl))
  have starts : now = derived.access.claims.time .issuedAt :=
    Number.int.inj (Json.number.inj (Option.some.inj
      (told .issuedAt (by decide) (by decide) rfl rfl)))
  rw [starts, ends] at sum
  exact Duration.isReadable_of_sum (Token.time_nonneg formed rfl) formed.follows.issued_le sum
    (Token.isReadable_time formed (by rw [kind]; rfl) rfl)

end Grant

/-- **Issued tokens are read back.** -/
theorem Server.read_granted {context : Context} {readings : Readings} {request : GrantRequest}
    {state last : ServiceState} {tokens : Issued}
    (granted : Grant.handle context readings request state = (.granted tokens, last)) :
    Json.read .strict (answerResponse (.granted tokens)).body = .ok tokens.body := by
  obtain ⟨grant, -, -, ran⟩ := Grant.handle_eq_granted_iff.mp granted
  exact HttpResponse.read_ofJson (Issued.allNumbers_body (Grant.isReadable_of_issue ran))
    tokens.distinct_body 200 _

end SealedGrant
