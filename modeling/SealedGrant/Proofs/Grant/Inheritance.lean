import Mathlib
import SealedGrant.Proofs.Grant.Outcome
import SealedGrant.Proofs.Token.Derived

/-! # What derived tokens inherit

A token that continues another one has its inherited members and its context class
(`SealedGrant.Token.Inherits`). Both are kept from a parent, as it is read, to a derived token, as
it is read (`SealedGrant.Token.inherits_access`, `SealedGrant.Token.inherits_refresh`). What is
issued for a grant is thereby known up to its fresh id and times
(`SealedGrant.Grant.yields_of_issue`).
-/

namespace SealedGrant

namespace Token

/-- The members of a token are in the form in which they are read. -/
def Canonical (token : Token) : Prop :=
  ∀ name, (token.claims.members.get? name).map Json.canon = token.claims.members.get? name

/-- **A token that is read is canonical.** -/
theorem canonical_stored {token : Token} (formed : token.WellFormed) :
    (token.stored formed).Canonical := by
  intro name
  rw [get?_stored formed, Option.map_map]
  congr 1
  funext value
  exact Json.canon_canon value

/-- What a token has in common with the one that it continues. -/
structure Inherits (origin token : Token) : Prop where
  members : ∀ claim ∈ inheritedClaims,
    token.claims.members.get? claim.name = origin.claims.members.get? claim.name
  acr : token.acr? = origin.acr?

theorem Inherits.refl (token : Token) : Inherits token token :=
  ⟨fun _ _ => rfl, rfl⟩

theorem Inherits.trans {first second third : Token} (left : Inherits first second)
    (right : Inherits second third) : Inherits first third :=
  ⟨fun claim member => (right.members claim member).trans (left.members claim member),
    right.acr.trans left.acr⟩

/-- The times of a token that is issued at a time for a span. -/
structure IssuedAt (token : Token) (now : ℤ) (ttl : Duration) : Prop where
  issued : token.claims.members.get? Claim.issuedAt.name = some (.number (.int now))
  expires : token.claims.members.get? Claim.expiresAt.name =
    some (.number ((Number.int now).add ttl.amount))

section Built

variable {parent token : Token} {id scope : String} {now : ℤ} {ttl : Duration}

/-- The life of a token that is issued at a time for a span. -/
def lifeOf (now : ℤ) (ttl : Duration) : Lifetime :=
  ⟨.number (.int now), .number ((Number.int now).add ttl.amount)⟩

theorem text?_of_get? {claims : ClaimSet} {claim : Claim} {value : Option Json}
    (found : claims.members.get? claim.name = value) :
    claims.text? claim = value.bind Json.string? := by
  rw [ClaimSet.text?, ClaimSet.value, Members.getD, found]
  cases value <;> rfl

theorem scopeText_of_get? {token : Token} {scope : String}
    (found : token.claims.members.get? Claim.scope.name = some (.string scope)) :
    token.scopeText = scope := by
  rw [scopeText, text, text?_of_get? found]
  rfl

/-- The scope of a derived token is the one that it was built with. -/
theorem scopeText_of_build {kind : TokenKind} {life : Lifetime} {kept : Members}
    (built : build kind
      (parent.carried inheritedClaims ++ freshMembers kind id life scope ++ kept) = .ok token) :
    token.scopeText = scope := by
  obtain ⟨-, claims, -, -⟩ := build_eq_ok_iff.mp built
  apply scopeText_of_get?
  rw [claims, Members.get?_append, Members.get?_append, get?_carried, get?_freshMembers]
  rfl

/-- **An access token inherits** from its parent. -/
theorem inherits_access (canonical : parent.Canonical) {life : Lifetime}
    (built : build .accessToken (parent.accessMembers id life scope) = .ok token)
    (formed : token.WellFormed) : Inherits parent (token.stored formed) := by
  obtain ⟨-, claims, -, -⟩ := build_eq_ok_iff.mp built
  constructor
  · intro claim member
    rw [get?_stored formed, claims, get?_accessMembers, if_pos (List.mem_append_left _ member)]
    exact canonical claim.name
  · have found : token.claims.members.get? Claim.acr.name = parent.acr?.map .string := by
      rw [claims, get?_accessMembers]
      rfl
    rw [acr?_stored, acr?, text?_of_get? found]
    cases parent.acr? <;> rfl

/-- **A refresh token inherits** from its parent. -/
theorem inherits_refresh (canonical : parent.Canonical) {life : Lifetime}
    (built : build .refreshToken (parent.refreshMembers id life) = .ok token)
    (formed : token.WellFormed) : Inherits parent (token.stored formed) := by
  obtain ⟨-, claims, -, -⟩ := build_eq_ok_iff.mp built
  constructor
  · intro claim member
    rw [get?_stored formed, claims, get?_refreshMembers, if_pos member]
    exact canonical claim.name
  · have found : token.claims.members.get? Claim.acr.name =
        some (parent.acr?.elim .null .string) := by
      rw [claims, get?_refreshMembers]
      rfl
    rw [acr?_stored, acr?, text?_of_get? found]
    cases parent.acr? <;> rfl

/-- The id, the scope and the times of a token with fresh members, as it is read. -/
theorem fresh_stored (formed : token.WellFormed) (kind : TokenKind)
    (fresh : ∀ claim ∈ freshClaims,
      token.claims.members.get? claim.name = fresh? kind id (lifeOf now ttl) scope claim) :
    (token.stored formed).id = id ∧ (token.stored formed).scopeText = scope ∧
      (token.stored formed).IssuedAt now ttl := by
  refine ⟨?_, ?_, ?_, ?_⟩
  · rw [id_stored, Token.id, text, text?_of_get? (fresh .id (by decide))]
    rfl
  · rw [scopeText_stored]
    exact scopeText_of_get? (fresh .scope (by decide))
  · rw [get?_stored formed, fresh .issuedAt (by decide)]
    rfl
  · rw [get?_stored formed, fresh .expiresAt (by decide)]
    rfl

theorem fresh_access (built : build .accessToken
      (parent.accessMembers id (lifeOf now ttl) scope) = .ok token) (formed : token.WellFormed) :
    (token.stored formed).id = id ∧ (token.stored formed).scopeText = scope ∧
      (token.stored formed).IssuedAt now ttl := by
  obtain ⟨-, claims, -, -⟩ := build_eq_ok_iff.mp built
  refine fresh_stored formed .accessToken fun claim member => ?_
  rw [claims, get?_accessMembers]
  revert member
  cases claim <;> simp [freshClaims, inheritedClaims]

theorem fresh_refresh (built : build .refreshToken
      (parent.refreshMembers id (lifeOf now ttl)) = .ok token) (formed : token.WellFormed) :
    (token.stored formed).id = id ∧ (token.stored formed).scopeText = parent.scopeText ∧
      (token.stored formed).IssuedAt now ttl := by
  obtain ⟨-, claims, -, -⟩ := build_eq_ok_iff.mp built
  refine fresh_stored formed .refreshToken fun claim member => ?_
  rw [claims, get?_refreshMembers]
  revert member
  cases claim <;> simp [freshClaims, inheritedClaims]

end Built

/-- The one element of a checked audience is the client. -/
theorem get?_audience {token : Token} (formed : token.WellFormed) :
    token.claims.members.get? Claim.audience.name = some (.array [.string token.clientId]) := by
  have audience : Claim.audience.presence token.kind = .required := rfl
  obtain ⟨value, found, client, rfl⟩ := exists_of_required formed audience
  have named : token.clientId = client := by
    rw [clientId, ClaimSet.value, Members.getD, found]
    rfl
  rw [found, named]

end Token

/-- A text holds a token under the secret that a context seals with. -/
def Context.Seals (context : Context) (text : String) (token : Token) : Prop :=
  ∃ secret expiry, context.ring.secret? context.ring.current.id = some secret ∧
    Token.Holds context.ring.current.id secret text token expiry

theorem Context.Seals.unique {context : Context} {text : String} {first second : Token}
    (left : context.Seals text first) (right : context.Seals text second) : first = second := by
  obtain ⟨secret₁, expiry₁, bound₁, holds₁⟩ := left
  obtain ⟨secret₂, expiry₂, bound₂, holds₂⟩ := right
  rw [bound₁] at bound₂
  cases bound₂
  exact holds₁.unique holds₂

/-- What is closed in a context holds the token as it is read. -/
theorem Context.Closes.exists_seals {context : Context} {text : String} {token : Token}
    (closes : context.Closes text token) :
    ∃ formed : token.WellFormed, context.Seals text (token.stored formed) := by
  obtain ⟨formed, secret, seconds, bound, -, -, holds⟩ := closes
  exact ⟨formed, secret, seconds, bound, holds⟩

/-- What is sealed in a context holds the token as it is read. -/
theorem Context.seals_of_sealed {context : Context} (exact : RandomSource.Exact context.random)
    {token : Token} (formed : token.WellFormed) {supply last : Supply} {text : String}
    (closed : (token.sealed context).run supply = (.ok text, last)) :
    context.Seals text (token.stored formed) := by
  obtain ⟨_, seals⟩ := (Context.closes_of_sealed exact formed closed).exists_seals
  exact seals

/-- There is no closed token, or there is one and it is read. -/
theorem Context.closes_cases {context : Context} {closed : Option (String × String)}
    {built : Option Token}
    (closes : Option.Rel (fun closed token => context.Closes closed.1 token) closed built) :
    (closed = none ∧ built = none) ∨ ∃ text token, ∃ formed : token.WellFormed,
      closed = some text ∧ built = some token ∧ context.Seals text.1 (token.stored formed) := by
  cases closes with
  | none => exact Or.inl ⟨rfl, rfl⟩
  | some closes =>
    obtain ⟨formed, seals⟩ := closes.exists_seals
    exact Or.inr ⟨_, _, formed, rfl, rfl, seals⟩

namespace Grant

variable {context : Context} {request : GrantRequest} {now : ℤ} {grant : Token}
  {supply last : Supply}

theorem lifeOf_of_sum {ttl : Duration} {expiry : Number}
    (sum : (Number.int now).sum ttl.amount = .ok expiry) :
    Token.lifeOf now ttl = ⟨.number (.int now), .number expiry⟩ := by
  unfold Number.sum at sum
  split at sum
  · cases sum
    rfl
  · cases sum

/-- A token that is issued for a grant: it continues the grant and has the times of its span. -/
structure Yields (grant token : Token) (now : ℤ) (ttl : Duration) : Prop where
  formed : token.WellFormed
  canonical : token.Canonical
  inherits : Token.Inherits grant token
  times : token.IssuedAt now ttl

/-- **What is issued for a grant** is an access token within its scope and, if any, a refresh token
with its scope; both continue the grant and have ids that were drawn for them. -/
theorem yields_of_issue (exact : RandomSource.Exact context.random) (canonical : grant.Canonical)
    {tokens : Issued} (ran : (issue context request now grant).run supply = (.ok tokens, last)) :
    ∃ access refresh, context.Seals tokens.accessToken access ∧
      Option.Rel (fun closed token => context.Seals closed.1 token) tokens.refresh refresh ∧
      Yields grant access now context.policy.accessTtl ∧ access.scope ⊆ grant.scope ∧
      (∀ token, refresh = some token → Yields grant token now context.policy.refreshTtl ∧
        token.scopeText = grant.scopeText) ∧
      context.ids.Drawn supply (access.id :: refresh.toList.map Token.id) last := by
  obtain ⟨access, refresh, issues⟩ := issues_of_issue exact ran
  obtain ⟨scope, expiry, narrowed, sum, accessBuilt⟩ := issues.accessBuilt.built
  rw [← lifeOf_of_sum sum] at accessBuilt
  obtain ⟨accessFormed, accessSeals⟩ := issues.accessCloses.exists_seals
  obtain ⟨accessId, accessScope, accessTimes⟩ := Token.fresh_access accessBuilt accessFormed
  have accessYields : Yields grant (access.stored accessFormed) now context.policy.accessTtl :=
    ⟨Token.wellFormed_stored accessFormed, Token.canonical_stored accessFormed,
      Token.inherits_access canonical accessBuilt accessFormed, accessTimes⟩
  have within : (access.stored accessFormed).scope ⊆ grant.scope := by
    rw [Token.scope, accessScope]
    exact Token.items_subset_of_narrow narrowed
  have drawn := issues.drawn
  rw [← accessId] at drawn
  rcases Context.closes_cases issues.refreshCloses with
      ⟨noText, rfl⟩ | ⟨closed, refresh, refreshFormed, someText, rfl, refreshSeals⟩
  · rw [noText]
    exact ⟨_, none, accessSeals, .none, accessYields, within, fun _ absent => (nomatch absent),
      drawn⟩
  · obtain ⟨-, refreshExpiry, refreshSum, refreshBuilt⟩ := issues.refreshBuilt refresh rfl
    rw [← lifeOf_of_sum refreshSum] at refreshBuilt
    obtain ⟨refreshId, refreshScope, refreshTimes⟩ :=
      Token.fresh_refresh refreshBuilt refreshFormed
    rw [someText]
    refine ⟨_, some _, accessSeals, .some refreshSeals, accessYields, within,
      fun token same => ?_, ?_⟩
    · cases same
      exact ⟨⟨Token.wellFormed_stored refreshFormed, Token.canonical_stored refreshFormed,
        Token.inherits_refresh canonical refreshBuilt refreshFormed, refreshTimes⟩,
        refreshScope⟩
    · rw [Option.toList_some, List.map_singleton, ← refreshId] at drawn
      exact drawn

end Grant
end SealedGrant
