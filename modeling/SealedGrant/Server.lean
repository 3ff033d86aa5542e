import SealedGrant.Audit
import SealedGrant.Client.Authentication
import SealedGrant.Grant.Code
import SealedGrant.Http.Delivery
import SealedGrant.Http.Form
import SealedGrant.UserInfo

/-! # The server

The server joins the parts that do not change during a request with those that do: fresh material,
reservations, clients and the audit log. Every operation gives its result, what it tells the log,
and the server after it. An operation that fails in an unforeseen way keeps what it changed before.
-/

namespace SealedGrant

/-- A running server. -/
structure Server where
  context : Context
  service : ServiceState
  /-- How the secrets of new clients are hashed. -/
  secretSetting : Bcrypt.Setting
  registry : Registry
  audit : AuditLog
  /-- Whether there is a table of reservations beside a store that keeps them elsewhere. -/
  spareTable : Bool

/-- What came of an operation. -/
structure Reply (α : Type) where
  result : Except Failure α
  log : List LogEntry
  server : Server

namespace Server

/-! ## Operations beside HTTP -/

/-- An operation with a reading of the clock; without one nothing happens. -/
def timed {α τ : Type} (server : Server) (reading : Except Failure τ) (operation : τ → Reply α) :
    Reply α :=
  match reading with
  | .ok time => operation time
  | .error cause => ⟨.error cause, [], server⟩

def issueCode (server : Server) (clock : Clock) (request : Grant.CodeRequest) : Reply String :=
  server.timed clock.now fun now =>
    let outcome := Grant.issueCode server.context now request server.service
    ⟨outcome.result, outcome.log, { server with service := outcome.state }⟩

/-- Answer a request of a client that is known already. -/
def handle (server : Server) (clock : Clock) (request : GrantRequest) : Reply Answer :=
  server.timed clock.readings fun readings =>
    let (answer, service) := Grant.handle server.context readings request server.service
    ⟨.ok answer, [answer.logEntry request], { server with service }⟩

def drawn {α : Type} (server : Server) (draw : Draw Failure α) : Reply α :=
  let (result, supply) := draw.run server.service.supply
  ⟨result, [], { server with service := { server.service with supply } }⟩

def wrap (server : Server) (plain : Bytes) (expiry : Number) : Reply String :=
  server.drawn (Token.ofDefect (server.context.ring.wrap server.context.random plain expiry))

def unwrap (server : Server) (clock : Clock) (text : String) : Except Fault Bytes :=
  (server.context.ring.unwrap server.context.sealSkew clock.sealing text).mapError .sealing

def sealToken (server : Server) (token : Token) : Reply String :=
  server.drawn (token.sealedBy server.context.ring server.context.random)

/-- Open the sealed form of a token. -/
def inspect (server : Server) (clock : Clock) (kind : TokenKind) (text : String) :
    Except Failure Token :=
  Token.ofSealed server.context.ring server.context.sealSkew clock.sealing kind text

/-- Put a key ring in place of the one there is. -/
def withRing (server : Server) (ring : KeyRing) : Server :=
  { server with context := { server.context with ring } }

def rotationEntry (old new : SealingKey) : LogEntry where
  source := .keys
  level := .info
  text := "Sealer key rotated: current kid=" ++ new.id ++ ", previous kid=" ++ old.id ++
    " kept for decryption"
  fields := []

/-- Make a new key the current one; the log entries and the server after it. -/
def rotate (server : Server) (key : SealingKey) : Except KeyFault (List LogEntry × Server) := do
  let ring ← server.context.ring.rotate key
  return ([rotationEntry server.context.ring.current key], server.withRing ring)

def retire (server : Server) (id : String) : Except KeyFault Server := do
  return server.withRing (← server.context.ring.retire id)

/-- Put a policy in place of the one there is. -/
def withPolicy (server : Server) (policy : Policy) : Server :=
  { server with context := { server.context with policy } }

def register (server : Server) (id : String) (redirectUris : List String)
    (secret : Option String) : Reply Client :=
  match server.registry.register server.secretSetting id redirectUris secret with
  | .ok outcome => ⟨.ok outcome.client, outcome.log, { server with registry := outcome.registry }⟩
  | .error cause => ⟨.error cause, [], server⟩

def record (server : Server) (entry : AuditRecord) : List LogEntry × Server :=
  let (log, audit) := server.audit.append entry
  (log, { server with audit })

/-- Add the audit record of its parts, which may lack what every record must have. -/
def offerRecord (server : Server) (event clientId error outcome : Option String) : Reply Unit :=
  let (log, audit) := server.audit.offer event clientId error outcome
  ⟨.ok (), log, { server with audit }⟩

def purge (server : Server) (now : Number) : Reply Nat :=
  let (result, store) := server.service.store.purge now
  ⟨result, [], { server with service := { server.service with store } }⟩

/-- A table of the server. -/
inductive Table where
  | reservations
  | clients
  | audit
  deriving DecidableEq, Repr

def Table.name : Table → String
  | .reservations => "replay_records"
  | .clients => "clients"
  | .audit => "audit_log"

/-- The table of a name; case does not matter. -/
def Table.ofName? (name : String) : Option Table :=
  [Table.reservations, .clients, .audit].find? fun table => table.name = Text.lower name

/-- Drop a table that exists. A store that keeps its reservations elsewhere does not need the
table. -/
def dropTable? (server : Server) : Table → Option Server
  | .clients => server.registry.map fun _ => { server with registry := none }
  | .audit => server.audit.map fun _ => { server with audit := none }
  | .reservations =>
      match server.service.store with
      | .table rows =>
          rows.map fun _ => { server with service := { server.service with store := .table none } }
      | .memory _ | .down _ =>
          if server.spareTable then some { server with spareTable := false } else none

/-! ## The token endpoint -/

def refusal (code : ErrorCode) : HttpResponse :=
  let challenge := if code.status = 401 then [("www-authenticate", "Basic realm=\"token\"")] else []
  .ofJson code.status code.body (HttpResponse.noStore ++ challenge)

/-- The log entry about a client that is not authenticated. -/
def clientEntry (formId : Option String) (cause : Fault) : LogEntry where
  source := .endpoint
  level := .warning
  text := "Client authentication failed: " ++ cause.message
  fields := [("client_id", formId.elim .null .string)]

def grantRequest (request : HttpRequest) (client : Client) : GrantRequest where
  grantType := request.field? "grant_type"
  clientId := some client.id
  code := request.field? "code"
  refreshToken := request.field? "refresh_token"
  redirectUri := request.field? "redirect_uri"
  codeVerifier := (request.field? "code_verifier").map .ofString
  scope := request.field? "scope"
  publicClient := !client.isConfidential

/-- The client that a request comes from. -/
def clientOf (server : Server) (request : HttpRequest) : Except Failure Client := do
  let credentials ← Credentials.ofRequest ((request.header? "authorization").getD "")
    (request.field? "client_id") (request.field? "client_secret")
  Client.authenticate server.registry credentials

def answerRecord (request : GrantRequest) : Answer → AuditRecord
  | .refused refusal => .denied request.clientId refusal.code
  | .granted _ => .issued request.clientId (request.grantType == some refreshGrantType)

def answerResponse : Answer → HttpResponse
  | .refused cause => refusal cause.code
  | .granted issued => .ofJson 200 issued.body HttpResponse.noStore

def answerClient (server : Server) (clock : Clock) (request : GrantRequest) :
    Reply HttpResponse :=
  server.timed clock.readings fun readings =>
    let (answer, service) := Grant.handle server.context readings request server.service
    let (lost, server) := { server with service }.record (answerRecord request answer)
    ⟨.ok (answerResponse answer), answer.logEntry request :: lost, server⟩

/-- Answer a request at the token endpoint. -/
def token (server : Server) (clock : Clock) (request : HttpRequest) : Reply HttpResponse :=
  match server.clientOf request with
  | .ok client => server.answerClient clock (grantRequest request client)
  | .error (.defect cause) => ⟨.error (.defect cause), [], server⟩
  | .error (.fault cause) =>
      let formId := request.field? "client_id"
      let (lost, server) := server.record (.denied formId cause.code)
      ⟨.ok (refusal cause.code), clientEntry formId cause :: lost, server⟩

/-! ## The other endpoints -/

def userInfo (server : Server) (clock : Clock) (request : HttpRequest) :
    Except Failure HttpResponse := do
  match ← UserInfo.answer server.context clock (request.header? "authorization") with
  | .error cause =>
      return .detail 401 cause.detail [("www-authenticate", cause.challenge)]
  | .ok claims =>
      let body := Json.object (UserInfo.publishedMembers claims)
      match body.renderFinite .compact with
      | .ok text => return ⟨200, [], text⟩
      | .error cause => throw (.defect (.ofWriteError cause))

/-- The answer of a server that works. -/
def health : HttpResponse :=
  .ofJson 200 (.object [("status", .string "ok"), ("service", .string "op_server")]) []

/-- What the server offers. -/
inductive Endpoint where
  | token
  | userInfo
  | health
  deriving DecidableEq, Repr

namespace Endpoint

def path : Endpoint → String
  | .token => "/token"
  | .userInfo => "/userinfo"
  | .health => "/health"

def method : Endpoint → String
  | .token => "POST"
  | .userInfo | .health => "GET"

def all : List Endpoint := [.token, .userInfo, .health]

/-- The endpoint at a path; slashes at the end do not matter, nor does a line feed before them. -/
def at? (path : String) : Option Endpoint :=
  let bare := path.toList.reverse.dropWhile (· = '/')
  let name := if bare.head? = some '\n' then bare.tail else bare
  all.find? fun endpoint => endpoint.path.toList = name.reverse

end Endpoint

/-- The response to a request that no endpoint answers. -/
def rejection (request : HttpRequest) (status : Nat) (text : String) : HttpResponse :=
  let response := HttpResponse.detail status text []
  if request.hasMethod "HEAD" then response.headOnly else response

def answerAt (server : Server) (clock : Clock) (endpoint : Endpoint) (request : HttpRequest) :
    Reply HttpResponse :=
  if !request.hasMethod endpoint.method then
    ⟨.ok (rejection request 405 "Method Not Allowed"), [], server⟩
  else
    match endpoint with
    | .token =>
        match Form.fault? request.fields with
        | some cause => ⟨.ok (.detail 400 cause.message []), [], server⟩
        | none => server.token clock request
    | .userInfo => ⟨server.userInfo clock request, [], server⟩
    | .health => ⟨.ok health, [], server⟩

/-- Answer an HTTP request, if it reaches the service. -/
def answer (server : Server) (clock : Clock) (request : HttpRequest) : Reply HttpResponse :=
  match Delivery.ofRequest request with
  | .error cause => ⟨.error (.defect (.transfer cause)), [], server⟩
  | .ok delivery =>
      match Endpoint.at? delivery.target.path with
      | none => ⟨.ok (rejection request 404 "Not Found"), [], server⟩
      | some endpoint =>
          match delivery.final with
          | .error cause => ⟨.error (.defect (.transfer cause)), [], server⟩
          | .ok arrived => server.answerAt clock endpoint arrived

end Server
end SealedGrant
