import SealedGrant.Grant.Redemption
import SealedGrant.Token.Mint

/-! # Issuing authorization codes

Once a user has signed in and agreed, a code is minted and sealed. Whoever authorizes has checked
the request; the builder still refuses what the schema does not allow.
-/

namespace SealedGrant.Grant

/-- What a code is issued for. -/
structure CodeRequest where
  clientId : Json
  subject : Json
  principal : Json
  authTime : Json
  redirectUri : Json
  scope : Json
  options : TokenOptions

/-- Mint a code whose life starts now. -/
def mintCode (context : Context) (now : Int) (request : CodeRequest) :
    Draw Failure Token := do
  let life ← Draw.ofResult (lifetime now context.policy.codeTtl)
  Token.mint (some context.ids) .authorizationCode {
    clientId := request.clientId
    issuer := .string context.issuer
    subject := request.subject
    principal := request.principal
    issuedAt := life.issuedAt
    expiresAt := life.expiresAt
    authTime := request.authTime
    redirectUri := request.redirectUri
    scope := request.scope } request.options

/-- The log entry about a minted code. -/
def codeEntry (code : Token) : LogEntry where
  source := .authorization
  level := .info
  text := "Authorization code issued for client_id=" ++ code.clientId
  fields := [("client_id", .string code.clientId), ("jti", .string code.id)]

/-- What came of issuing a code. -/
structure CodeOutcome where
  result : Except Failure String
  log : List LogEntry
  state : ServiceState

/-- Issue a code at a time: mint it, tell the log, seal it. -/
def issueCode (context : Context) (now : Int) (request : CodeRequest) (state : ServiceState) :
    CodeOutcome :=
  match (mintCode context now request).run state.supply with
  | (.error cause, supply) => ⟨.error cause, [], { state with supply }⟩
  | (.ok code, supply) =>
      let (result, supply) := (code.sealed context).run supply
      ⟨result, [codeEntry code], { state with supply }⟩

end SealedGrant.Grant
