import SealedGrant.ClaimSet.Schema
import SealedGrant.Json.Writer
import SealedGrant.Number.Basic
import SealedGrant.RedirectUri.Basic
import SealedGrant.Text.Quoted

/-! # Faults

A fault is a foreseen failure of the token life cycle. It says what went wrong; its wording is for
logs only. Each fault answers with one OAuth error code, and is the client's doing or the server's.
A defect is a failure outside that taxonomy: the request that meets one ends as a server error.
-/

namespace SealedGrant

/-- An OAuth error code. -/
inductive ErrorCode where
  | invalidRequest
  | invalidClient
  | invalidGrant
  | invalidScope
  | serverError
  deriving DecidableEq, Repr

/-- The wire form of an error code. -/
def ErrorCode.text : ErrorCode → String
  | .invalidRequest => "invalid_request"
  | .invalidClient => "invalid_client"
  | .invalidGrant => "invalid_grant"
  | .invalidScope => "invalid_scope"
  | .serverError => "server_error"

/-- Why a text or an object is no claim set of the expected kind. -/
inductive ClaimFault where
  | notJson
  | notObject
  /-- The kind is none of the three. -/
  | unknownKind
  /-- A required member is absent or null. -/
  | missing (claim : Claim)
  | null (claim : Claim)
  /-- The kind may not carry a member. -/
  | forbidden (claim : Claim) (kind : TokenKind)
  /-- A member's value does not have its shape. -/
  | shape (claim : Claim)
  | issuedAfterExpiry
  | authenticatedAfterIssue
  | redirectUri (cause : RedirectUri.Error)
  | codeChallenge
  /-- An accessor met a value of another JSON type. -/
  | accessed (claim : Claim)
  /-- The claim set backs another kind of token. -/
  | otherKind (expected : TokenKind) (found : String)
  deriving DecidableEq, Repr

def Shape.message (claim : Claim) : Shape → String
  | .text => "claim " ++ claim.name ++ " must be a string"
  | .time => "claim " ++ claim.name ++ " must be a non-negative integer"
  | .object => "claim " ++ claim.name ++ " must be a JSON object"
  | .texts => "claim " ++ claim.name ++ " must be an array of strings"
  | .singleText => "claim " ++ claim.name ++ " must be an array holding exactly one client id"

def ClaimFault.message : ClaimFault → String
  | .notJson => "claim set is not valid JSON"
  | .notObject => "claim set must be a JSON object"
  | .unknownKind =>
      "claim type must be one of " ++ ", ".intercalate (TokenKind.all.map TokenKind.code)
  | .missing claim => "claim " ++ claim.name ++ " must exist and not be null"
  | .null claim => "claim " ++ claim.name ++ " must be omitted rather than null"
  | .forbidden claim kind =>
      "claim " ++ claim.name ++ " is not allowed in a token of type " ++ kind.code
  | .shape claim => claim.shape.message claim
  | .issuedAfterExpiry => "claim iat must not be after exp"
  | .authenticatedAfterIssue => "claim auth_time must not be after iat"
  | .redirectUri cause => cause.message
  | .codeChallenge => "code_challenge must have the form value:method"
  | .accessed claim => "claim " ++ claim.name ++ " has the wrong JSON type"
  | .otherKind expected found => "expected a token of type " ++ expected.code ++ ", got " ++ found

/-- Why a token could not be built. -/
inductive BuildFault where
  | missing (names : List String)
  | clientNotText
  /-- A derivation lacks a time or an id source. -/
  | incomplete
  /-- The members do not follow the schema. -/
  | claims (kind : TokenKind) (cause : ClaimFault)
  /-- A member cannot be written as JSON. -/
  | unwritable (kind : TokenKind)
  /-- Nothing is derived from an access token. -/
  | fromAccessToken (kind : TokenKind)
  /-- A claim set of one kind cannot back a token of another. -/
  | otherKind (found : String) (kind : TokenKind)
  deriving DecidableEq, Repr

def BuildFault.message : BuildFault → String
  | .missing names =>
      let listed := if names.isEmpty then "time/scope" else ", ".intercalate names
      "Invalid parameters, programming error (missing: " ++ listed ++ ")"
  | .clientNotText => "client_id must be a string"
  | .incomplete => "Invalid parameters, programming error"
  | .claims kind cause => "cannot build " ++ kind.code ++ " token: " ++ cause.message
  | .unwritable kind =>
      "cannot build " ++ kind.code ++ " token: claim values must be JSON serializable"
  | .fromAccessToken kind =>
      "a " ++ kind.code ++ " token cannot be derived from an access token"
  | .otherKind found kind =>
      "claim set of type " ++ found ++ " cannot back a " ++ kind.code ++ " token"

/-- Why a sealed text does not open. -/
inductive SealFault where
  | notBase64
  | unsupportedVersion
  | truncated
  | malformedKeyId
  | unknownKey (kid : String)
  | expired
  | tampered
  deriving DecidableEq, Repr

def SealFault.message : SealFault → String
  | .notBase64 => "wrapped value is not base64url"
  | .unsupportedVersion => "unsupported sealer envelope version"
  | .truncated => "sealer envelope truncated"
  | .malformedKeyId => "sealer key id is not utf-8"
  | .unknownKey kid => "unknown sealer key id " ++ Text.quote kid
  | .expired => "sealed value expired"
  | .tampered => "sealer tag mismatch"

/-- Why a grant does not belong to the request that presents it. -/
inductive IdentityFault where
  | otherClient (owner : String) (presenter : Option String)
  | issuedInFuture
  | expired
  | otherRedirectUri
  /-- The policy asks for a challenge and the code has none. -/
  | challengeRequired
  /-- A verifier was sent for a code without challenge. -/
  | unexpectedVerifier
  | verifierMismatch
  deriving DecidableEq, Repr

def IdentityFault.message : IdentityFault → String
  | .otherClient owner presenter =>
      "token issued to " ++ Text.quote owner ++ ", presented by " ++
        presenter.elim "None" Text.quote
  | .issuedInFuture => "token issued in the future"
  | .expired => "token expired"
  | .otherRedirectUri => "redirect_uri does not match the authorization request"
  | .challengeRequired =>
      "authorization code issued without code_challenge but PKCE is required"
  | .unexpectedVerifier => "code_verifier sent for a code issued without code_challenge"
  | .verifierMismatch => "PKCE verification failed"

/-- Why a request is malformed. -/
inductive RequestFault where
  | noGrantType
  | noCode
  | noRedirectUri
  | noRefreshToken
  | noVerifier
  | unsupportedMethod (method : String)
  deriving DecidableEq, Repr

def RequestFault.message : RequestFault → String
  | .noGrantType => "grant_type is required"
  | .noCode => "code is required for the authorization_code grant"
  | .noRedirectUri => "redirect_uri is required for the authorization_code grant"
  | .noRefreshToken => "refresh_token is required for the refresh_token grant"
  | .noVerifier => "code_verifier is required for this authorization code"
  | .unsupportedMethod method => "unsupported code_challenge_method " ++ Text.quote method

/-- Why a client is not authenticated. -/
inductive ClientFault where
  | noClientId
  | unknown (id : String)
  | wrongSecret (id : String)
  deriving DecidableEq, Repr

def ClientFault.message : ClientFault → String
  | .noClientId => "client_id is required"
  | .unknown id => "unknown client " ++ Text.quote id
  | .wrongSecret id => "invalid credentials for client " ++ Text.quote id

/-- A foreseen failure. -/
inductive Fault where
  /-- A builder or a derivation refused its inputs. -/
  | build (cause : BuildFault)
  /-- A claim set is malformed or of another kind. -/
  | claims (cause : ClaimFault)
  | sealing (cause : SealFault)
  /-- The grant does not match the request. -/
  | identity (cause : IdentityFault)
  /-- The requested scope exceeds the granted one. -/
  | scope (extra : List String)
  | replayed (kind : TokenKind)
  /-- The reservation store is out of order. -/
  | store (detail : String)
  /-- There is no subject for the ID token. -/
  | noSubject
  | request (cause : RequestFault)
  | client (cause : ClientFault)
  /-- The grant type is none of the two. -/
  | unsupportedGrant (grantType : String)
  deriving DecidableEq, Repr

namespace Fault

/-- The error code that a fault answers with. -/
def code : Fault → ErrorCode
  | .build _ | .store _ | .noSubject => .serverError
  | .claims _ | .sealing _ | .identity _ | .replayed _ | .unsupportedGrant _ => .invalidGrant
  | .scope _ => .invalidScope
  | .request _ => .invalidRequest
  | .client _ => .invalidClient

def clientCaused : Fault → Bool
  | .build _ | .store _ | .noSubject => false
  | _ => true

/-- The name of the sort of a fault. -/
def name : Fault → String
  | .build _ => "InvalidArgument"
  | .claims _ => "ParseError"
  | .sealing _ => "SealerError"
  | .identity _ => "IdentityMismatch"
  | .scope _ => "ScopeViolation"
  | .replayed _ => "Replayed"
  | .store _ => "StoreError"
  | .noSubject => "MissingProfileContext"
  | .request _ => "InvalidRequest"
  | .client _ => "InvalidClient"
  | .unsupportedGrant _ => "UnsupportedGrantType"

def message : Fault → String
  | .build cause => cause.message
  | .claims cause => cause.message
  | .sealing cause => cause.message
  | .identity cause => cause.message
  | .scope extra => "scope not granted to the parent token: " ++ " ".intercalate extra
  | .replayed kind => kind.code ++ " token already redeemed"
  | .store detail => detail
  | .noSubject => "no subject available for the ID token"
  | .request cause => cause.message
  | .client cause => cause.message
  | .unsupportedGrant grantType => "unsupported grant_type " ++ Text.quote grantType

end Fault

/-- The error code of the sort of faults that has a name. -/
def Fault.codeOfName? (name : String) : Option ErrorCode :=
  let samples : List Fault :=
    [.build .incomplete, .claims .notJson, .sealing .tampered, .identity .expired, .scope [],
      .replayed .refreshToken, .store "", .noSubject, .request .noCode, .client .noClientId,
      .unsupportedGrant ""]
  (samples.find? fun fault => fault.name = name).map code

/-- Why a request does not reach the service. -/
inductive TransferFault where
  /-- A header field has a character beyond Latin-1. -/
  | headerNotLatin
  /-- The target is neither a path nor an address. -/
  | invalidTarget
  /-- The scheme of an address has no usual port. -/
  | unknownScheme
  /-- What is taken for the port of an address is no number. -/
  | port (cause : Text.WholeNumberError)
  /-- The address asks for a web socket. -/
  | webSocket
  /-- The place to which a request is sent again is no place. -/
  | invalidRedirect
  deriving DecidableEq, Repr

/-- A failure outside the taxonomy. -/
inductive Defect where
  /-- A value does not have the type that an operation needs. -/
  | typeMismatch
  /-- A member or a parameter is absent. -/
  | absent
  | outside
  | notObject
  /-- A store does not offer an operation. -/
  | notOffered
  /-- The pair at a position has another length than two. -/
  | pairLength (position length : Nat)
  /-- Numbers have no sum or no integer part. -/
  | arithmetic (cause : ArithmeticFault)
  /-- A number that is not finite cannot be written. -/
  | notFinite
  /-- An integer has too many digits to be written. -/
  | tooManyDigits
  | negativeExpiry
  /-- An expiry time does not fit its field. -/
  | expiryTooLarge
  /-- An integer does not fit a table column. -/
  | integerTooLarge
  | noTable
  /-- Base64 text has a character beyond ASCII. -/
  | base64NotAscii
  /-- A verifier has a character beyond ASCII. -/
  | verifierNotAscii
  /-- A verifier has a surrogate, which has no form in UTF-8. -/
  | verifierNotUnicode
  | malformedHash
  /-- A request does not reach the service. -/
  | transfer (cause : TransferFault)
  /-- A store failed in an unforeseen way. -/
  | unforeseen
  deriving DecidableEq, Repr

/-- The defect of a value that cannot be written. -/
def Defect.ofWriteError : Json.WriteError → Defect
  | .notFinite => .notFinite
  | .tooManyDigits => .tooManyDigits

/-- The wording of the defects that have one. -/
def Defect.message? : Defect → Option String
  | .notFinite => some Json.WriteError.notFinite.message
  | .tooManyDigits => some Json.WriteError.tooManyDigits.message
  | .pairLength position length =>
      some <| "dictionary update sequence element #" ++ toString position ++ " has length " ++
        toString length ++ "; 2 is required"
  | .arithmetic cause => cause.message?
  | .transfer (.port cause) => some cause.message
  | .negativeExpiry => some "expiry must be non-negative"
  | .base64NotAscii => some "string argument should contain only ASCII characters"
  | .malformedHash => some "Invalid salt"
  | _ => none

/-- A failure: a fault of the taxonomy or a defect. -/
inductive Failure where
  | fault (cause : Fault)
  | defect (cause : Defect)
  deriving DecidableEq, Repr

end SealedGrant
