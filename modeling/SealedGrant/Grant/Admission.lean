import SealedGrant.Grant.Answer
import SealedGrant.Grant.Context
import SealedGrant.Pkce

/-! # Admission of a grant

Before anything changes, a request has to name its grant, the grant has to open as a token of the
right kind, and the token has to belong to the request: same client, inside its life, and for a
code the same redirect URI and a matching verifier. What is refused here leaves no trace in the
state of the service.
-/

namespace SealedGrant.Grant

/-- A parameter that was sent and is not empty. -/
def given? (parameter : Option String) : Option String :=
  parameter.filter (· ≠ "")

/-- The kind of token that a request presents, and its sealed form. -/
def presented (request : GrantRequest) : Except Fault (TokenKind × String) :=
  match given? request.grantType with
  | none => .error (.request .noGrantType)
  | some grantType =>
      if grantType = codeGrantType then
        match given? request.code, given? request.redirectUri with
        | none, _ => .error (.request .noCode)
        | some _, none => .error (.request .noRedirectUri)
        | some code, some _ => .ok (.authorizationCode, code)
      else if grantType = refreshGrantType then
        match given? request.refreshToken with
        | none => .error (.request .noRefreshToken)
        | some token => .ok (.refreshToken, token)
      else .error (.unsupportedGrant grantType)

/-- Check that a code goes with the redirect URI and the verifier of a request. -/
def matchCode (policy : Policy) (request : GrantRequest) (code : Token) : Except Failure Unit :=
  if some code.redirectUri ≠ request.redirectUri then
    .error (.fault (.identity .otherRedirectUri))
  else if code.challenge?.isNone && policy.demandsPkce request.publicClient then
    .error (.fault (.identity .challengeRequired))
  else Pkce.check code.challenge? request.codeVerifier

/-- Check that a grant belongs to the request that presents it. -/
def identify (policy : Policy) (request : GrantRequest) (now : Int) (grant : Token) :
    Except Failure Unit :=
  if some grant.clientId ≠ request.clientId then
    .error (.fault (.identity (.otherClient grant.clientId request.clientId)))
  else
    match (Number.int now).sum policy.skew with
    | .error cause => .error (.defect (.arithmetic cause))
    | .ok latest =>
        if latest.lt (.int grant.issuedAt) then .error (.fault (.identity .issuedInFuture))
        else
          match grant.isExpired (.int now) policy.skew with
          | .error cause => .error (.defect (.arithmetic cause))
          | .ok true => .error (.fault (.identity .expired))
          | .ok false =>
              if grant.kind ≠ .authorizationCode then .ok ()
              else matchCode policy request grant

/-- The grant of a request, or how far the request came and why not further. -/
def accept (context : Context) (readings : Readings) (request : GrantRequest) :
    Except Refusal Token :=
  match presented request with
  | .error cause => .error ⟨.fault cause, .start, none⟩
  | .ok (kind, text) =>
      match Token.ofSealed context.ring context.sealSkew readings.sealing kind text with
      | .error cause => .error ⟨cause, .grantParsed, none⟩
      | .ok grant =>
          match identify context.policy request readings.now grant with
          | .error cause => .error ⟨cause, .tokenUnwrapped, some grant.id⟩
          | .ok () => .ok grant

end SealedGrant.Grant
