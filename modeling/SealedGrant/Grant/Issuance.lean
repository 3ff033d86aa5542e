import SealedGrant.Grant.Answer
import SealedGrant.Grant.Context
import SealedGrant.Text.Blank
import SealedGrant.Token.Derive

/-! # Issuing tokens for a grant

An access token is always derived. A code also yields a refresh token, and a refresh token does
when it rotates, unless their lifetime is nothing. A code whose access token covers `openid` yields
an ID token. All tokens are derived and signed before the first one is sealed.
-/

namespace SealedGrant.Grant

/-- The scope that a request asks for: none when it is absent or blank. -/
def scopeRequest (request : GrantRequest) : ScopeRequest :=
  match request.scope with
  | some scope => if Text.trim scope = "" then .inherit else .text scope
  | none => .inherit

/-- The time at which a life that starts now ends. -/
def expiryAfter (now : Int) (ttl : Duration) : Except Failure Number :=
  ((Number.int now).sum ttl.amount).mapError (.defect <| .arithmetic ·)

/-- The life of a token that is issued now. -/
def lifetime (now : Int) (ttl : Duration) : Except Failure Token.Lifetime := do
  return ⟨.number (.int now), .number (← expiryAfter now ttl)⟩

/-- Whether a grant yields a refresh token. -/
def yieldsRefresh (policy : Policy) (kind : TokenKind) : Bool :=
  policy.refreshTtl.isPositive &&
    (kind = .authorizationCode || (kind = .refreshToken && policy.rotates))

/-- The scope item that asks for an ID token. -/
def openidItem : String := "openid"

/-- Whether a grant yields an ID token beside an access token. -/
def yieldsIdToken (grant access : Token) : Bool :=
  grant.kind = .authorizationCode && access.scope.contains openidItem

/-- The signed ID token of a code, for the client that the code belongs to. -/
def idToken (context : Context) (now : Int) (grant : Token) : Except Failure String := do
  let expiresAt ← expiryAfter now context.policy.idTtl
  let claims ← (IdToken.assemble grant {
    issuer := context.issuer
    clientId := grant.clientId
    subject := grant.subject
    issuedAt := .number (.int now)
    expiresAt := .number expiresAt }).mapError .fault
  if Json.isWritable expiresAt then return context.signer.sign claims
  else throw (.defect .tooManyDigits)

/-- The tokens that a grant yields, before they are sealed. -/
structure Derived where
  access : Token
  refresh : Option Token
  idToken : Option String

def derive (context : Context) (request : GrantRequest) (now : Int) (grant : Token) :
    Draw Failure Derived := do
  let policy := context.policy
  let life ← Draw.ofResult (lifetime now policy.accessTtl)
  let access ← grant.deriveAccess (scopeRequest request) life (some context.ids) true
  let refresh ←
    if yieldsRefresh policy grant.kind then do
      let life ← Draw.ofResult (lifetime now policy.refreshTtl)
      some <$> grant.deriveRefresh .inherit life (some context.ids)
    else pure none
  let signed ←
    if yieldsIdToken grant access then some <$> Draw.ofResult (idToken context now grant)
    else pure none
  return ⟨access, refresh, signed⟩

def issue (context : Context) (request : GrantRequest) (now : Int) (grant : Token) :
    Draw Failure Issued := do
  let derived ← derive context request now grant
  let accessToken ← derived.access.sealed context
  let refresh ← match derived.refresh with
    | some token => do pure (some ((← token.sealed context), token.id))
    | none => pure none
  return {
    grantId := grant.id
    accessToken
    accessId := derived.access.id
    expiresIn := context.policy.accessTtl
    scope := derived.access.scopeText
    refresh
    idToken := derived.idToken }

end SealedGrant.Grant
