import Mathlib
import SealedGrant.Proofs.ClaimSet.RoundTrip
import SealedGrant.Proofs.Token.Minting

/-! # Sealing and opening again

Whatever a builder gives was checked (`SealedGrant.Token.IsMade.wellFormed`). So it can be sealed,
and until it expires its sealed form opens as an equal token of its kind, with every member at every
depth; asked for as another kind it is refused as a claim set, and after its time it does not open
at all (`SealedGrant.Token.ofSealed_of_isMade`).
-/

namespace SealedGrant.Token

/-- A token that one of the builders gives. -/
inductive IsMade (token : Token) : Prop where
  | minted (ids : Option IdSource) (kind : TokenKind) (request : TokenRequest)
      (options : TokenOptions) (supply last : Supply)
      (ran : (mint ids kind request options).run supply = (.ok token, last))
  | access (parent : Token) (ids : Option IdSource) (request : ScopeRequest) (life : Lifetime)
      (withAcr : Bool) (supply last : Supply)
      (ran : (parent.deriveAccess request life ids withAcr).run supply = (.ok token, last))
  | refresh (parent : Token) (ids : Option IdSource) (request : ScopeRequest) (life : Lifetime)
      (supply last : Supply)
      (ran : (parent.deriveRefresh request life ids).run supply = (.ok token, last))

/-- What every derivation begins with: what is inherited and what is fresh. -/
theorem exists_of_run_inherit {parent : Token} {kind : TokenKind} {scope : String} {life : Lifetime}
    {ids : Option IdSource} {supply last : Supply} {members : Members}
    (ran : (parent.inherit kind scope life ids).run supply = (.ok members, last)) :
    ∃ id, members = parent.carried inheritedClaims ++ freshMembers kind id life scope := by
  cases ids with
  | some source =>
    obtain ⟨-, -, -, -, same⟩ := run_inherit_eq_ok_iff.mp ran
    exact ⟨source.next supply, same⟩
  | none =>
    unfold inherit at ran
    split at ran
    · cases ran
    · cases ran

section Built

variable {token parent : Token} {ids : Option IdSource} {supply last : Supply}

theorem exists_build_of_mint {kind : TokenKind} {request : TokenRequest} {options : TokenOptions}
    (ran : (mint ids kind request options).run supply = (.ok token, last)) :
    ∃ id scope, scopeInput request.scope = .ok scope ∧
      build kind (newMembers kind id request scope options) = .ok token := by
  cases ids with
  | some source =>
    obtain ⟨-, -, -, -, scope, normal, built⟩ := run_mint_eq_ok_iff.mp ran
    exact ⟨_, scope, normal, built⟩
  | none =>
    unfold mint at ran
    cases ran

theorem exists_build_of_deriveAccess {request : ScopeRequest} {life : Lifetime} {withAcr : Bool}
    (ran : (parent.deriveAccess request life ids withAcr).run supply = (.ok token, last)) :
    ∃ id scope, parent.narrow request = .ok scope ∧
      build .accessToken (parent.carried inheritedClaims ++
        freshMembers .accessToken id life scope ++ parent.acrIfAny withAcr ++
          parent.carried [.delivery, .deliveryUi]) = .ok token := by
  simp only [deriveAccess, Draw.run_bind_eq_ok_iff, Draw.run_ofResult, Prod.mk.injEq] at ran
  obtain ⟨scope, _, ⟨narrowed, -⟩, members, _, inherited, built, -⟩ := ran
  obtain ⟨id, rfl⟩ := exists_of_run_inherit inherited
  exact ⟨id, scope, narrowed, built⟩

theorem exists_build_of_deriveRefresh {request : ScopeRequest} {life : Lifetime}
    (ran : (parent.deriveRefresh request life ids).run supply = (.ok token, last)) :
    ∃ id scope, parent.narrow request = .ok scope ∧
      build .refreshToken (parent.carried inheritedClaims ++
        freshMembers .refreshToken id life scope ++ parent.acrAlways) = .ok token := by
  simp only [deriveRefresh, Draw.run_bind_eq_ok_iff, Draw.run_ofResult, Prod.mk.injEq] at ran
  obtain ⟨scope, _, ⟨narrowed, -⟩, members, _, inherited, built, -⟩ := ran
  obtain ⟨id, rfl⟩ := exists_of_run_inherit inherited
  exact ⟨id, scope, narrowed, built⟩

end Built

/-- **Whatever a builder gives was checked.** -/
theorem IsMade.wellFormed {token : Token} (made : token.IsMade) : token.WellFormed := by
  cases made with
  | minted ids kind request options supply last ran =>
    obtain ⟨id, scope, -, built⟩ := exists_build_of_mint ran
    exact wellFormed_of_build (nodup_newMembers _ _) built
  | access parent ids request life withAcr supply last ran =>
    obtain ⟨id, scope, -, built⟩ := exists_build_of_deriveAccess ran
    exact wellFormed_of_build
      (parent.nodup_derived (parent.names_acrIfAny withAcr) (by decide)) built
  | refresh parent ids request life supply last ran =>
    obtain ⟨id, scope, -, built⟩ := exists_build_of_deriveRefresh ran
    exact wellFormed_of_build (parent.nodup_refreshed id life scope) built

variable {token : Token}

/-- What is read back has the members of the token, sorted at every depth. -/
theorem members_stored (formed : token.WellFormed)
    (distinct : (Json.object token.claims.members).Distinct) :
    Json.object (token.stored formed).claims.members =
      (Json.object token.claims.members).sorted :=
  ClaimSet.object_stored distinct

/-- What is read back is an equal token. -/
theorem same_stored (formed : token.WellFormed)
    (distinct : (Json.object token.claims.members).Distinct) :
    (token.stored formed).claims.same token.claims = true :=
  ClaimSet.same_stored distinct

/-- **What was sealed opens again.** A token that a builder gave, with finite numbers and an expiry
time of eight bytes, is sealed by every ring that knows its current secret. At any reading of the
clock the sealed form is refused once the token has expired; before, it opens as an equal token of
its kind, member by member at every depth, and is refused as a claim set of any other kind. -/
theorem ofSealed_of_isMade (made : token.IsMade)
    (distinct : (Json.object token.claims.members).Distinct)
    (finite : (Json.object token.claims.members).isFinite = true)
    (small : token.expiresAt < 2 ^ 64) {ring : KeyRing} {secret : Bytes}
    (bound : ring.secret? ring.current.id = some secret) {random : RandomSource}
    (exact : RandomSource.Exact random) (supply : Supply) :
    ∃ text, (token.sealedBy ring random).run supply = (.ok text, supply.afterDraw) ∧
      ∀ (skew : ℤ) (now : Number) (kind : TokenKind),
        ((Number.int (token.expiresAt + skew)).le now = true →
          ofSealed ring (.int skew) now kind text = .error (.fault (.sealing .expired))) ∧
        ((Number.int (token.expiresAt + skew)).le now = false →
          (token.kind = kind → ∃ found, ofSealed ring (.int skew) now kind text = .ok found ∧
            found.kind = token.kind ∧ found.claims.same token.claims = true ∧
            Json.object found.claims.members = (Json.object token.claims.members).sorted) ∧
          (token.kind ≠ kind → ∃ cause,
            ofSealed ring (.int skew) now kind text = .error (.fault (.claims cause)))) := by
  have formed := made.wellFormed
  obtain ⟨text, closed⟩ := exists_run_sealedBy formed finite bound (time_nonneg formed rfl) small
    random supply
  refine ⟨text, closed, ?_⟩
  intro skew now kind
  obtain ⟨plain, written, wrapped⟩ := run_sealedBy_eq_ok_iff.mp closed
  obtain ⟨known, seconds, knows, whole, opens⟩ := KeyRing.opens_of_wrap exact wrapped
  rw [whole]
  refine ⟨?_, ?_⟩
  · intro passed
    have refused : ring.unwrap (.int skew) now text = .error .expired :=
      KeyRing.unwrap_eq_expired_of_opens opens knows passed
    rw [ofSealed, refused]
  · intro ahead
    have unwrapped : ring.unwrap (.int skew) now text = .ok (Utf8.encode plain) :=
      KeyRing.unwrap_eq_ok_iff.mpr ⟨_, known, seconds, knows, opens, ahead⟩
    rw [ofSealed, unwrapped]
    refine ⟨?_, ?_⟩
    · rintro rfl
      exact ⟨token.stored formed, readBytes_serialize formed written, rfl,
        same_stored formed distinct, members_stored formed distinct⟩
    · intro other
      obtain ⟨found, refused⟩ := readBytes_serialize_of_ne formed written other
      exact ⟨_, refused⟩

end SealedGrant.Token

namespace SealedGrant.Sample

/-- What an access token is minted from. -/
def tokenRequest : TokenRequest where
  clientId := .string "app"
  issuer := .string context.issuer
  subject := .string "user"
  principal := .string "user@example"
  issuedAt := .number 1700000000
  expiresAt := .number 1700000300
  authTime := .number 1700000000
  redirectUri := .string "https://app.example/cb"
  scope := .string "read write"

/-- The access token asks for claims in nested objects whose names are not in order. -/
def tokenOptions : TokenOptions :=
  { TokenOptions.none with
    claimsRequest := .object [("userinfo", .object [("name", .null), ("age", .number 30)]),
      ("id_token", .array [.bool true])] }

/-- The access token. -/
def accessToken : Token where
  kind := .accessToken
  claims := ⟨Token.newMembers .accessToken "id-1" tokenRequest "read write" tokenOptions⟩
  kind_eq := rfl

theorem allNumbers_accessToken (holds : Number → Bool) :
    (Json.object accessToken.claims.members).allNumbers holds =
      (holds 1700000000 && (holds 1700000300 && (holds 1700000000 &&
        (((holds 30 && true) && true) && true)))) := rfl

theorem run_mint_accessToken :
    (Token.mint (some .numbered) .accessToken tokenRequest tokenOptions).run .fresh =
      (.ok accessToken, ⟨1, 0⟩) := by
  have follows : accessToken.claims.Follows .accessToken := ClaimSet.check_eq_ok_iff.mp rfl
  have short (n : ℤ) (nonneg : 0 ≤ n) (small : n < 2 ^ 64) : Json.isWritable (.int n) = true :=
    Json.isWritable_of_lt nonneg small
  have writable :
      (Json.object accessToken.claims.members).allNumbers Json.isWritable = true := by
    have issued : Json.isWritable 1700000000 = true := short _ (by norm_num) (by norm_num)
    have expires : Json.isWritable 1700000300 = true := short _ (by norm_num) (by norm_num)
    have age : Json.isWritable 30 = true := short _ (by norm_num) (by norm_num)
    rw [allNumbers_accessToken, issued, expires, age]
    rfl
  exact Token.run_mint_eq_ok_iff.mpr ⟨rfl, rfl, rfl, rfl, "read write", rfl,
    Token.build_eq_ok_iff.mpr ⟨rfl, rfl, follows, writable⟩⟩

theorem isMade_accessToken : accessToken.IsMade :=
  .minted (some .numbered) .accessToken tokenRequest tokenOptions .fresh ⟨1, 0⟩
    run_mint_accessToken

theorem distinct_accessToken : (Json.object accessToken.claims.members).Distinct := by
  refine ⟨Token.nodup_newMembers _ _, ?_⟩
  simp [accessToken, Token.newMembers, tokenRequest, TokenOptions.members, tokenOptions,
    TokenOptions.none, ClaimSet.isNull, Json.DistinctMembers, Json.Distinct, Json.DistinctItems]

/-- The access token opens in the last second of the tolerance and not later, and never as a refresh
token. -/
theorem ofSealed_accessToken : ∃ text,
    (accessToken.sealedBy context.ring context.random).run .fresh = (.ok text, ⟨0, 1⟩) ∧
      (∃ found, Token.ofSealed context.ring (.int 60) (.int 1700000359) .accessToken text =
          .ok found ∧
        Json.object found.claims.members = (Json.object accessToken.claims.members).sorted) ∧
      (∃ cause, Token.ofSealed context.ring (.int 60) (.int 1700000359) .refreshToken text =
        .error (.fault (.claims cause))) ∧
      Token.ofSealed context.ring (.int 60) (.int 1700000360) .accessToken text =
        .error (.fault (.sealing .expired)) := by
  have finite : (Json.object accessToken.claims.members).isFinite = true := rfl
  have bound : context.ring.secret? context.ring.current.id = some key.secret := rfl
  obtain ⟨text, closed, opens⟩ := Token.ofSealed_of_isMade isMade_accessToken distinct_accessToken
    finite (by decide) bound exact_random .fresh
  obtain ⟨found, opened, -, -, members⟩ :=
    ((opens 60 (.int 1700000359) .accessToken).2 rfl).1 rfl
  obtain ⟨cause, refused⟩ := ((opens 60 (.int 1700000359) .refreshToken).2 rfl).2 (by decide)
  exact ⟨text, closed, ⟨found, opened, members⟩, ⟨cause, refused⟩,
    (opens 60 (.int 1700000360) .accessToken).1 rfl⟩

end SealedGrant.Sample
