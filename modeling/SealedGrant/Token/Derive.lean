import SealedGrant.Token.Basic
import SealedGrant.Supply

/-! # Deriving tokens

A derived token continues its parent: it inherits the parent's identity and authorization context,
takes a fresh id and lifetime, and never widens the scope. Members that belong to another kind, and
members that the schema does not know, stay behind.
-/

namespace SealedGrant

/-- The scope that a derivation asks for. -/
inductive ScopeRequest where
  | inherit
  | text (scope : String)
  | items (scope : List String)
  deriving DecidableEq, Repr

/-- Read a scope request: null inherits, a text or a collection of texts narrows. -/
def ScopeRequest.ofJson : Json → Except Failure ScopeRequest
  | .null => .ok .inherit
  | .string scope => .ok (.text scope)
  | input => do
      let elements ← ClaimSet.elements input
      match elements.mapM Json.string? with
      | some named => return .items named
      | none => throw (.defect .typeMismatch)

namespace Token

/-- The items that a request names: nothing when it inherits. -/
def wanted? : ScopeRequest → Option (List String)
  | .inherit => none
  | .text scope => some (Scope.items scope)
  | .items scope => some scope.eraseDups

/-- The scope of a derived token: the parent's, or a part of it. -/
def narrow (parent : Token) (request : ScopeRequest) : Except Failure String :=
  match wanted? request with
  | none => .ok parent.scopeText
  | some items =>
      let extra := items.filter fun item => !parent.scope.contains item
      if extra.isEmpty then .ok (Scope.text items) else .error (.fault (.scope extra))

/-- The members that every derived token inherits. -/
def inheritedClaims : List Claim :=
  [.issuer, .subject, .principal, .audience, .nonce, .authTime, .redirectUri, .claimsRequest,
    .consentable, .consented]

/-- The members of a parent among some, in their order. -/
def carried (parent : Token) (claims : List Claim) : Members :=
  claims.filterMap fun claim => (parent.claims.members.get? claim.name).map (claim.name, ·)

/-- The lifetime of a derived token; null stands for a time that is not given. -/
structure Lifetime where
  issuedAt : Json
  expiresAt : Json

def freshMembers (kind : TokenKind) (id : String) (life : Lifetime) (scope : String) : Members :=
  [(Claim.kind.name, .string kind.code), (Claim.id.name, .string id),
    (Claim.issuedAt.name, life.issuedAt), (Claim.expiresAt.name, life.expiresAt),
    (Claim.scope.name, .string scope)]

/-- The common start of a derivation: the inherited members and the fresh ones. -/
def inherit (parent : Token) (kind : TokenKind) (scope : String) (life : Lifetime)
    (ids : Option IdSource) : Draw Failure Members := do
  if parent.kind = .accessToken then throw (.fault (.build (.fromAccessToken kind)))
  else
    match ids with
    | none => throw (.fault (.build .incomplete))
    | some source =>
        if ClaimSet.isNull life.issuedAt || ClaimSet.isNull life.expiresAt then
          throw (.fault (.build .incomplete))
        else
          let id ← drawId source
          return parent.carried inheritedClaims ++ freshMembers kind id life scope

/-- The context class of an access token: the parent's, if it has one and it is asked for. -/
def acrIfAny (parent : Token) (wanted : Bool) : Members :=
  match parent.acr? with
  | some acr => if wanted then [(Claim.acr.name, .string acr)] else []
  | none => []

/-- Derive an access token. Attributes for both consumers and for UserInfo go along. -/
def deriveAccess (parent : Token) (request : ScopeRequest) (life : Lifetime)
    (ids : Option IdSource) (withAcr : Bool) : Draw Failure Token := do
  let scope ← Draw.ofResult (parent.narrow request)
  let members ← parent.inherit .accessToken scope life ids
  Draw.ofResult (build .accessToken
    (members ++ parent.acrIfAny withAcr ++ parent.carried [.delivery, .deliveryUi]))

/-- The context class of a refresh token, null when the parent has none. -/
def acrAlways (parent : Token) : Members :=
  [(Claim.acr.name, match parent.acr? with | some acr => .string acr | none => .null)]

def deriveRefresh (parent : Token) (request : ScopeRequest) (life : Lifetime)
    (ids : Option IdSource) : Draw Failure Token := do
  let scope ← Draw.ofResult (parent.narrow request)
  let members ← parent.inherit .refreshToken scope life ids
  Draw.ofResult (build .refreshToken (members ++ parent.acrAlways))

end Token
end SealedGrant
