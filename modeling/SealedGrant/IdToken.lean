import SealedGrant.Rsa.Signature
import SealedGrant.Token.Basic

/-! # ID tokens

An ID token tells a client who the user is. Its claims are the attributes that the code delivers
for it, under the protocol members, which no attribute can replace. It is signed as three parts of
URL-safe text: header, claims and signature.
-/

namespace SealedGrant

namespace IdToken

/-- The protocol members, which delivered attributes may never set. -/
def protectedNames : List String :=
  ["iss", "sub", "aud", "exp", "iat", "auth_time", "nonce", "acr", "azp", "jti", "at_hash"]

/-- The attributes that a grant delivers to the ID token; those for the ID token alone win. -/
def attributes (grant : Token) : Members :=
  ((Members.merge [] (grant.delivered .delivery)).merge (grant.delivered .deliveryId)).filter
    fun member => !protectedNames.contains member.1

/-- What the issuer sets in an ID token. Times are JSON values, as callers hand them over. -/
structure Frame where
  issuer : String
  clientId : String
  subject : String
  issuedAt : Json
  expiresAt : Json

/-- A member that is set only when there is a value. -/
def ifGiven (name : String) (value : Option String) : Members :=
  match value with
  | some text => [(name, .string text)]
  | none => []

/-- The claims of an ID token for a grant. -/
def assemble (grant : Token) (frame : Frame) : Except Fault Members :=
  if frame.subject.isEmpty then .error .noSubject
  else
    .ok (attributes grant ++
      [("iss", .string frame.issuer), ("sub", .string frame.subject),
        ("aud", .array [.string frame.clientId]), ("iat", frame.issuedAt), ("exp", frame.expiresAt),
        ("auth_time", .number (.int grant.authTime))] ++
      ifGiven "nonce" grant.nonce? ++ ifGiven "acr" grant.acr?)

end IdToken

/-- What signs ID tokens: a key and the id under which its public half is known. -/
structure Signer where
  key : Rsa.PrivateKey
  keyId : String

namespace Signer

def header (signer : Signer) : Json :=
  .object [("alg", .string "RS256"), ("kid", .string signer.keyId), ("typ", .string "JWT")]

/-- A part of a signed text: the URL-safe text of a value. -/
def part (value : Json) : String :=
  Base64.encodeUrl (Utf8.encode (value.render .compactAscii))

def sign (signer : Signer) (claims : Members) : String :=
  let signed := part signer.header ++ "." ++ part (.object claims)
  signed ++ "." ++ Base64.encodeUrl (signer.key.sign (Utf8.encode signed))

end Signer
end SealedGrant
