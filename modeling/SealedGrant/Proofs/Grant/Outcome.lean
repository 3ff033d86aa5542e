import Mathlib
import SealedGrant.Proofs.Grant.Issuance
import SealedGrant.Proofs.Token.Minting

/-! # The tokens that are issued for a grant

What issuing gives is known token by token (`SealedGrant.Grant.issues_of_issue`): each token was
built of members that are read off the grant, and its text holds it until it expires; the ID token
is the signed one of the grant. All that is proved of issued tokens is proved from this.
-/

namespace SealedGrant

/-- A text holds a built token of finite numbers, as it is read, until the token expires and under
the secret that a context seals with. -/
def Context.Closes (context : Context) (text : String) (token : Token) : Prop :=
  ∃ (formed : token.WellFormed) (secret : Bytes) (seconds : ℕ),
    context.ring.secret? context.ring.current.id = some secret ∧ token.expiresAt = seconds ∧
      (Json.object token.claims.members).isFinite = true ∧
      Token.Holds context.ring.current.id secret text (token.stored formed) seconds

theorem Context.closes_of_sealed {context : Context} (exact : RandomSource.Exact context.random)
    {token : Token} (formed : token.WellFormed) {supply last : Supply} {text : String}
    (closed : (token.sealed context).run supply = (.ok text, last)) :
    context.Closes text token := by
  obtain ⟨plain, written, -⟩ := Token.run_sealedBy_eq_ok_iff.mp closed
  have finite := Token.isFinite_of_serialize written
  obtain ⟨secret, seconds, bound, expires, holds⟩ := Token.holds_of_sealedBy formed exact closed
  exact ⟨formed, secret, seconds, bound, expires, finite, holds⟩

namespace Grant

variable {context : Context} {request : GrantRequest} {now : ℤ} {grant : Token}
  {supply last : Supply} {tokens : Issued}

/-- An access token that is built for a grant, with a scope that the grant admits. -/
structure BuildsAccess (context : Context) (request : GrantRequest) (now : ℤ) (grant : Token)
    (id : String) (token : Token) : Prop where
  notAccess : grant.kind ≠ .accessToken
  built : ∃ scope expiry, grant.narrow (scopeRequest request) = .ok scope ∧
    (Number.int now).sum context.policy.accessTtl.amount = .ok expiry ∧
    Token.build .accessToken (grant.accessMembers id ⟨.number (.int now), .number expiry⟩ scope) =
      .ok token

/-- A refresh token that is built for a grant. -/
structure BuildsRefresh (context : Context) (now : ℤ) (grant : Token) (id : String)
    (token : Token) : Prop where
  due : yieldsRefresh context.policy grant.kind = true
  built : ∃ expiry, (Number.int now).sum context.policy.refreshTtl.amount = .ok expiry ∧
    Token.build .refreshToken (grant.refreshMembers id ⟨.number (.int now), .number expiry⟩) =
      .ok token

/-- **The tokens that are issued for a grant**: an access token and perhaps a refresh token, each
closed in its text, and perhaps an ID token. The ids are drawn one after the other. -/
structure Issues (context : Context) (request : GrantRequest) (now : ℤ) (grant : Token)
    (supply : Supply) (tokens : Issued) (last : Supply) (access : Token)
    (refresh : Option Token) : Prop where
  accessBuilt : BuildsAccess context request now grant (context.ids.next supply) access
  accessCloses : context.Closes tokens.accessToken access
  refreshBuilt : ∀ token, refresh = some token →
    BuildsRefresh context now grant (context.ids.next (supply.afterId context.ids)) token
  refreshCloses : Option.Rel (fun closed token => context.Closes closed.1 token) tokens.refresh
    refresh
  idToken : (yieldsIdToken grant access = false ∧ tokens.idToken = none) ∨
    (yieldsIdToken grant access = true ∧ ∃ text, idToken context now grant = .ok text ∧
      tokens.idToken = some text)
  drawn : context.ids.Drawn supply (context.ids.next supply :: refresh.toList.map fun _ =>
    context.ids.next (supply.afterId context.ids)) last

/-- **What issuing gives** are the tokens that are issued for the grant. -/
theorem issues_of_issue (exact : RandomSource.Exact context.random)
    (ran : (issue context request now grant).run supply = (.ok tokens, last)) :
    ∃ access refresh, Issues context request now grant supply tokens last access refresh := by
  obtain ⟨derived, first, second, accessText, closed, derives, accessCloses, refreshCloses, rfl⟩ :=
    run_issue_eq_ok_iff.mp ran
  obtain ⟨expiry, between, sum, accessRun, refreshRun, signedRun⟩ :=
    run_derive_eq_ok_iff.mp derives
  obtain ⟨notAccess, -, -, rfl, scope, narrowed, accessBuilt⟩ :=
    Token.run_deriveAccess_eq_ok_iff.mp accessRun
  have access : BuildsAccess context request now grant (context.ids.next supply) derived.access :=
    ⟨notAccess, scope, expiry, narrowed, sum, accessBuilt⟩
  have accessFormed := Token.wellFormed_of_build (grant.nodup_accessMembers _ _ _) accessBuilt
  have accessGrows : first.Reaches second := by
    have grows : (derived.access.sealed context).Grows := grows_sealed _
    have grown := grows first
    rwa [accessCloses] at grown
  have signed := (run_signedOf_eq_ok_iff.mp signedRun).2
  rcases run_refreshOf_eq_ok_iff.mp refreshRun with
      ⟨-, none_due, rfl⟩ | ⟨due, refreshExpiry, refresh, refreshSum, some_due, refreshRun⟩
  · rw [none_due] at refreshCloses
    rcases run_sealedRefresh_eq_ok_iff.mp refreshCloses with
        ⟨-, rfl, rfl⟩ | ⟨token, text, absent, -⟩
    · exact ⟨derived.access, none, access, Context.closes_of_sealed exact accessFormed accessCloses,
        fun _ absent => (nomatch absent), .none, signed, supply, Supply.Reaches.refl _, rfl,
        accessGrows⟩
    · cases absent
  · rw [some_due] at refreshCloses
    obtain ⟨-, -, -, rfl, refreshBuilt⟩ := Token.run_deriveRefresh_eq_ok_iff.mp refreshRun
    have refreshFormed := Token.wellFormed_of_build (grant.nodup_refreshMembers _ _) refreshBuilt
    rcases run_sealedRefresh_eq_ok_iff.mp refreshCloses with
        ⟨absent, -⟩ | ⟨token, text, same, rfl, closes⟩
    · cases absent
    · cases same
      have refreshGrows : second.Reaches last := by
        have grows : (refresh.sealed context).Grows := grows_sealed _
        have grown := grows second
        rwa [closes] at grown
      refine ⟨derived.access, some refresh, access,
        Context.closes_of_sealed exact accessFormed accessCloses, fun token same => ?_,
        .some (Context.closes_of_sealed exact refreshFormed closes), signed, supply,
        Supply.Reaches.refl _, rfl, _, Supply.Reaches.refl _, rfl,
        accessGrows.trans refreshGrows⟩
      cases same
      exact ⟨due, refreshExpiry, refreshSum, refreshBuilt⟩

end Grant
end SealedGrant
