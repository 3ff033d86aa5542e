import SealedGrant.Fault
import SealedGrant.Log
import SealedGrant.Policy
import SealedGrant.Text.Wide

/-! # Requests and answers of the token endpoint

A request presents a grant, a code or a refresh token. The answer holds fresh tokens or refuses
with an error code; its description depends on the code alone, so no answer tells why.
-/

namespace SealedGrant

/-- The type of grant that presents a code. -/
def codeGrantType : String := "authorization_code"

/-- The type of grant that presents a refresh token. -/
def refreshGrantType : String := "refresh_token"

/-- A request of a client that is known already. -/
structure GrantRequest where
  grantType : Option String
  clientId : Option String
  code : Option String
  refreshToken : Option String
  redirectUri : Option String
  codeVerifier : Option WideText
  scope : Option String
  publicClient : Bool
  deriving DecidableEq, Repr

namespace ErrorCode

/-- What an answer says about an error code. -/
def description? : ErrorCode → Option String
  | .invalidRequest =>
      some "The request is missing a required parameter or is otherwise malformed"
  | .invalidClient => some "Client authentication failed"
  | .invalidGrant =>
      some "The provided grant is invalid, expired, already used or was issued to another client"
  | .invalidScope => some "The requested scope exceeds the scope originally granted"
  | .serverError => none

/-- The status of an answer with an error code. -/
def status : ErrorCode → Nat
  | .invalidClient => 401
  | .serverError => 500
  | .invalidRequest | .invalidGrant | .invalidScope => 400

/-- The body of an answer with an error code. -/
def body (code : ErrorCode) : Json :=
  .object (("error", .string code.text) ::
    match code.description? with
    | some description => [("error_description", .string description)]
    | none => [])

end ErrorCode

/-- How far a request has come. -/
inductive Stage where
  | start
  | grantParsed
  | tokenUnwrapped
  | identityVerified
  | replayReserved
  | issued
  | done
  | failed (code : ErrorCode)
  deriving DecidableEq, Repr

namespace Stage

def name : Stage → String
  | .start => "START"
  | .grantParsed => "GRANT_PARSED"
  | .tokenUnwrapped => "TOKEN_UNWRAPPED"
  | .identityVerified => "IDENTITY_VERIFIED"
  | .replayReserved => "REPLAY_RESERVED"
  | .issued => "ISSUED"
  | .done => "DONE"
  | .failed .invalidRequest => "INVALID_REQUEST"
  | .failed .invalidClient => "INVALID_CLIENT"
  | .failed .invalidGrant => "INVALID_GRANT"
  | .failed .invalidScope => "INVALID_SCOPE"
  | .failed .serverError => "SERVER_ERROR"

def all : List Stage :=
  [.start, .grantParsed, .tokenUnwrapped, .identityVerified, .replayReserved, .issued, .done,
    .failed .invalidRequest, .failed .invalidClient, .failed .invalidGrant, .failed .invalidScope,
    .failed .serverError]

def ofName? (name : String) : Option Stage :=
  all.find? fun stage => stage.name = name

end Stage

/-- A refusal: why, and the last stage that the request had reached. -/
structure Refusal where
  cause : Failure
  after : Stage
  /-- The id of the presented token, once it is known. -/
  grantId : Option String
  deriving DecidableEq, Repr

/-- The error code of a failure; a defect is the server's. -/
def Failure.code : Failure → ErrorCode
  | .fault cause => cause.code
  | .defect _ => .serverError

def Refusal.code (refusal : Refusal) : ErrorCode := refusal.cause.code

/-- Fresh tokens for a grant. -/
structure Issued where
  grantId : String
  accessToken : String
  accessId : String
  expiresIn : Duration
  scope : String
  refresh : Option (String × String)
  idToken : Option String

namespace Issued

/-- The body of an answer with fresh tokens. -/
def body (issued : Issued) : Json :=
  .object ([("access_token", .string issued.accessToken), ("token_type", .string "Bearer"),
      ("expires_in", issued.expiresIn.toJson), ("scope", .string issued.scope)] ++
    (issued.refresh.toList.map fun refresh => ("refresh_token", .string refresh.1)) ++
    (issued.idToken.toList.map fun idToken => ("id_token", .string idToken)))

def listed (issued : Issued) : String :=
  ", ".intercalate (["at jti=" ++ issued.accessId] ++
    (issued.refresh.toList.map fun refresh => "rt jti=" ++ refresh.2) ++
    (issued.idToken.toList.map fun _ => "id_token"))

end Issued

/-- The answer to a request. -/
inductive Answer where
  | granted (issued : Issued)
  | refused (refusal : Refusal)

namespace Answer

/-- The values that a log entry about a request carries. -/
def logFields (request : GrantRequest) (grantId : Option String) (stage : Stage) : Members :=
  let given : Option String → Json := fun text => text.elim .null .string
  [("client_id", given request.clientId), ("jti", given grantId),
    ("grant_type", given request.grantType), ("state", .string stage.name)]

/-- The level and the text of the log entry about a refusal. -/
def refusalText (refusal : Refusal) : LogLevel × String :=
  let after := refusal.after.name
  match refusal.cause with
  | .defect _ => (.error, "Unexpected failure in token endpoint after " ++ after)
  | .fault (.build cause) => (.error, "Programming error while issuing tokens: " ++ cause.message)
  | .fault cause =>
      if cause.clientCaused then
        (.warning, "Token request rejected after " ++ after ++ ": " ++ cause.code.text ++ " (" ++
          cause.message ++ ")")
      else
        (.error, "Token request failed after " ++ after ++ ": " ++ cause.name ++ " (" ++
          cause.message ++ ")")

def logEntry (request : GrantRequest) : Answer → LogEntry
  | .granted issued =>
      { source := .grants
        level := .info
        text := request.grantType.getD "None" ++ " grant: issued " ++ issued.listed ++
          " for client_id=" ++ request.clientId.getD "None"
        fields := logFields request (some issued.grantId) .done }
  | .refused refusal =>
      let (level, text) := refusalText refusal
      { source := .grants
        level, text
        fields := logFields request refusal.grantId refusal.after }

end Answer
end SealedGrant
