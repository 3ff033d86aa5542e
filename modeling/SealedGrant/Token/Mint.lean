import SealedGrant.Token.Basic
import SealedGrant.Supply

/-! # Minting tokens

A token is minted from its required inputs and the optional members that its kind may carry. Inputs
are JSON values, as callers hand them over, so the builder refuses what the schema does not allow.
-/

namespace SealedGrant

/-- The optional members of a new token; null stands for an absent one. -/
structure TokenOptions where
  acr : Json
  nonce : Json
  claimsRequest : Json
  delivery : Json
  deliveryId : Json
  deliveryUi : Json
  consentable : Json
  consented : Json
  codeChallenge : Option CodeChallenge

def TokenOptions.none : TokenOptions :=
  ⟨.null, .null, .null, .null, .null, .null, .null, .null, Option.none⟩

/-- The members that options set, in their fixed order. -/
def TokenOptions.members (options : TokenOptions) : Members :=
  let challenge := match options.codeChallenge with
    | some challenge => Json.string challenge.text
    | Option.none => .null
  [(Claim.acr.name, options.acr), (Claim.nonce.name, options.nonce),
    (Claim.claimsRequest.name, options.claimsRequest), (Claim.delivery.name, options.delivery),
    (Claim.deliveryId.name, options.deliveryId), (Claim.deliveryUi.name, options.deliveryUi),
    (Claim.consentable.name, options.consentable), (Claim.consented.name, options.consented),
    (Claim.codeChallenge.name, challenge)].filter fun member => !ClaimSet.isNull member.2

/-- The required inputs of a new token. -/
structure TokenRequest where
  clientId : Json
  issuer : Json
  subject : Json
  principal : Json
  issuedAt : Json
  expiresAt : Json
  authTime : Json
  redirectUri : Json
  scope : Json

namespace Token

/-- The scope text of an input: a text in its normal form, or the elements of a collection. Empty
elements are dropped; any other element must be a text. -/
def scopeInput : Json → Except Failure String
  | .string text => .ok (Scope.normalize text)
  | input => do
      let elements ← ClaimSet.elements input
      let items ← (elements.filter fun item => !item.isEmpty).mapM fun item =>
        match item with
        | .string text => Except.ok text
        | _ => .error (Failure.defect .typeMismatch)
      return Scope.text items

/-- The names of the required inputs that are missing. -/
def missingInputs (ids : Option IdSource) (request : TokenRequest) : List String :=
  (if ids.isNone then ["id_generator"] else []) ++
    ([("client_id", request.clientId), ("issuer", request.issuer), ("subject", request.subject),
      ("principal", request.principal), ("redirect_uri", request.redirectUri)].filter
        fun input => input.2.isEmpty).map Prod.fst

/-- Whether the scope or one of the times is missing. -/
def lacksTimeOrScope (request : TokenRequest) : Bool :=
  [request.scope, request.issuedAt, request.expiresAt, request.authTime].any ClaimSet.isNull

def newMembers (kind : TokenKind) (id : String) (request : TokenRequest) (scope : String)
    (options : TokenOptions) : Members :=
  [(Claim.kind.name, .string kind.code), (Claim.id.name, .string id),
    (Claim.audience.name, .array [request.clientId]), (Claim.issuer.name, request.issuer),
    (Claim.subject.name, request.subject), (Claim.principal.name, request.principal),
    (Claim.issuedAt.name, request.issuedAt), (Claim.expiresAt.name, request.expiresAt),
    (Claim.authTime.name, request.authTime), (Claim.redirectUri.name, request.redirectUri),
    (Claim.scope.name, .string scope)] ++ options.members

/-- Mint a token. The id is drawn once the inputs are present. -/
def mint (ids : Option IdSource) (kind : TokenKind) (request : TokenRequest)
    (options : TokenOptions) : Draw Failure Token := do
  let missing := missingInputs ids request
  match ids with
  | none => throw (.fault (.build (.missing missing)))
  | some source =>
      if !missing.isEmpty || lacksTimeOrScope request then
        throw (.fault (.build (.missing missing)))
      else if request.clientId.string?.isNone then
        throw (.fault (.build .clientNotText))
      else
        let id ← drawId source
        let scope ← Draw.ofResult (scopeInput request.scope)
        Draw.ofResult (build kind (newMembers kind id request scope options))

end Token
end SealedGrant
