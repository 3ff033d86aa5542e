import SealedGrant.TokenKind

/-! # The schema of claim sets

A claim set has twenty known members and any number of others. For every known member the schema
fixes its name, the shape of its value and, for each kind of token, whether it must, may or must
not be present.
-/

namespace SealedGrant

/-- A known member of a claim set. -/
inductive Claim where
  | kind
  | issuer
  | subject
  | audience
  | expiresAt
  | issuedAt
  | id
  | authTime
  | redirectUri
  | scope
  | acr
  | principal
  | nonce
  | claimsRequest
  | delivery
  | deliveryId
  | deliveryUi
  | consentable
  | consented
  | codeChallenge
  deriving DecidableEq, Repr

/-- The shape of a member's value. -/
inductive Shape where
  | text
  | time
  | object
  | texts
  | singleText
  deriving DecidableEq, Repr

/-- Whether a kind of token carries a member. -/
inductive Presence where
  | required
  | optional
  | forbidden
  deriving DecidableEq, Repr

namespace Claim

/-- All known members, the required ones first and in the order in which they are asked for. -/
def all : List Claim :=
  [.kind, .issuer, .subject, .audience, .expiresAt, .issuedAt, .id, .authTime, .redirectUri, .scope,
    .acr, .principal, .nonce, .claimsRequest, .delivery, .deliveryId, .deliveryUi, .consentable,
    .consented, .codeChallenge]

def name : Claim → String
  | .kind => "type"
  | .issuer => "iss"
  | .subject => "sub"
  | .audience => "aud"
  | .expiresAt => "exp"
  | .issuedAt => "iat"
  | .id => "jti"
  | .authTime => "auth_time"
  | .redirectUri => "redirect_uri"
  | .scope => "scope"
  | .acr => "acr"
  | .principal => "principal"
  | .nonce => "nonce"
  | .claimsRequest => "claims"
  | .delivery => "dl_claims"
  | .deliveryId => "dl_claims_id"
  | .deliveryUi => "dl_claims_ui"
  | .consentable => "cnsntl_claims"
  | .consented => "cnsntd_claims"
  | .codeChallenge => "code_challenge"

def ofName? (name : String) : Option Claim :=
  all.find? fun claim => claim.name = name

def shape : Claim → Shape
  | .kind | .issuer | .subject | .id | .redirectUri | .scope | .acr | .principal | .nonce
  | .codeChallenge => .text
  | .expiresAt | .issuedAt | .authTime => .time
  | .claimsRequest | .delivery | .deliveryId | .deliveryUi => .object
  | .consentable | .consented => .texts
  | .audience => .singleText

/-- Whether a kind of token carries a member. An access token may do without the context class;
attributes for the ID token alone and the challenge stay with the code. -/
def presence : Claim → TokenKind → Presence
  | .kind, _ | .issuer, _ | .subject, _ | .audience, _ | .expiresAt, _ | .issuedAt, _ | .id, _
  | .authTime, _ | .redirectUri, _ | .scope, _ => .required
  | .acr, .accessToken => .optional
  | .acr, _ => .required
  | .principal, _ | .nonce, _ | .claimsRequest, _ | .consentable, _ | .consented, _ => .optional
  | .delivery, .refreshToken | .deliveryUi, .refreshToken => .forbidden
  | .delivery, _ | .deliveryUi, _ => .optional
  | .deliveryId, .authorizationCode | .codeChallenge, .authorizationCode => .optional
  | .deliveryId, _ | .codeChallenge, _ => .forbidden

/-- The members that a kind of token must carry, in the order in which they are asked for. -/
def required (kind : TokenKind) : List Claim :=
  all.filter fun claim => claim.presence kind = .required

theorem ofName?_name (claim : Claim) : ofName? claim.name = some claim := by
  cases claim <;> decide

theorem name_of_ofName? {name : String} {claim : Claim} (found : ofName? name = some claim) :
    claim.name = name := by
  simpa using List.find?_some found

theorem mem_all (claim : Claim) : claim ∈ all := by
  cases claim <;> decide

theorem name_injective {left right : Claim} (equal : left.name = right.name) : left = right := by
  have found := ofName?_name left
  rw [equal, ofName?_name] at found
  exact (Option.some.inj found).symm

end Claim
end SealedGrant
