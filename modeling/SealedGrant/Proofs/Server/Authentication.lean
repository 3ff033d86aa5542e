import Mathlib
import SealedGrant.Proofs.Client.Authentication
import SealedGrant.Proofs.Grant.Agreement
import SealedGrant.Proofs.Server.Effects
import SealedGrant.Proofs.Text.Percent

/-! # Authentication before issuance

A request to the token endpoint is answered in one of three ways
(`SealedGrant.Server.answerAt_token_cases`): it is turned away before anyone looks at who asks, or
the client is refused, or the grant of an authenticated client is handled. So tokens are issued to
authenticated clients alone, and they are for the client that asked
(`SealedGrant.Server.authentication_gates_issuance`).
-/

namespace SealedGrant

namespace Grant

variable {context : Context} {readings : Readings} {request : GrantRequest}
  {state last : ServiceState}

/-- **A refusal as another client changes nothing.** -/
theorem eq_of_handle_invalidClient {refusal : Refusal}
    (refused : handle context readings request state = (.refused refusal, last))
    (code : refusal.code = .invalidClient) : last = state := by
  rcases handle_refused_cases refused with ⟨-, same⟩ |
      ⟨grant, -, ⟨-, -, reserved⟩ | ⟨-, -, ran⟩⟩
  · exact same
  · have step := stepBy_reserve context.policy readings grant state.store
    rw [reserved] at step
    obtain ⟨check, failing, same, -⟩ := step
    have member := List.mem_of_find?_eq_some failing
    rw [Refusal.code, same] at code
    unfold reservationChecks at member
    split at member
    · simp only [List.mem_cons, List.not_mem_nil, or_false] at member
      rcases member with rfl | rfl <;> cases code
    · cases member
  · rw [Refusal.code] at code
    rcases issue_decided context request readings.now grant ran with
        ⟨check, failing, same, -⟩ | ⟨-, found, same, server⟩
    · have member := List.mem_of_find?_eq_some failing
      rw [same] at code
      simp only [issueChecks, List.mem_cons, List.not_mem_nil, or_false] at member
      rcases member with rfl | rfl <;> cases code
    · cases same
      rw [server] at code
      cases code

end Grant

namespace Server

variable {server : Server} {clock : Clock} {request : HttpRequest}

/-! ## Registering -/

/-- The server after registrations, each with its own way of hashing secrets. -/
def registerAll (server : Server) (registrations : List Registration) : Server :=
  registrations.foldl (fun server registration =>
    ({ server with secretSetting := registration.setting }.register registration.id
      registration.redirectUris registration.secret).server) server

/-- Registering changes the registry, and how secrets are hashed. -/
theorem registerAll_eq (server : Server) (registrations : List Registration) :
    ∃ secretSetting, server.registerAll registrations = { server with
      secretSetting
      registry := Registry.afterAll server.registry registrations } := by
  induction registrations generalizing server with
  | nil => exact ⟨server.secretSetting, rfl⟩
  | cons registration rest ih =>
    obtain ⟨secretSetting, same⟩ := ih
      ({ server with secretSetting := registration.setting }.register registration.id
        registration.redirectUris registration.secret).server
    refine ⟨secretSetting, same.trans ?_⟩
    unfold register Registry.afterAll
    rw [List.foldl_cons, Registry.after]
    dsimp only
    cases server.registry.register registration.setting registration.id
      registration.redirectUris registration.secret <;> rfl

/-! ## Authenticating -/

/-- A request is authenticated as the client of an id. -/
def AuthenticatesAs (server : Server) (request : HttpRequest) (id : String) : Prop :=
  ∃ client, server.clientOf request = .ok client ∧ client.id = id

/-- The id and the secret that a request presents. -/
def presented (request : HttpRequest) : String × Option String :=
  Credentials.presented ((request.header? "authorization").getD "") (request.field? "client_id")
    (request.field? "client_secret")

section Registered

variable {registrations : List Registration}
  (fresh : server.registry = Registry.empty)
  (ascii : ∀ header, request.header? "authorization" = some header → Text.IsAscii header)

include fresh ascii

/-- **The client that a request comes from** is the one of the first registration of the presented
id, if it accepts the secret. -/
theorem clientOf_registerAll_iff {client : Client} :
    (server.registerAll registrations).clientOf request = .ok client ↔
      (presented request).1 ≠ "" ∧ ∃ registration,
        Registration.first? registrations (presented request).1 = some registration ∧
        registration.client = client ∧ registration.Accepts (presented request).2 := by
  obtain ⟨setting, same⟩ := server.registerAll_eq registrations
  have written : Text.IsAscii ((request.header? "authorization").getD "") := by
    cases found : request.header? "authorization" with
    | none =>
      intro c member
      simp at member
    | some header => exact ascii header found
  obtain ⟨credentials, read, filtered⟩ := Credentials.exists_ofRequest
    (Credentials.not_isForeign_of_isAscii written) (request.field? "client_id")
    (request.field? "client_secret")
  have bound : (server.registerAll registrations).clientOf request =
      Client.authenticate (Registry.afterAll Registry.empty registrations) credentials := by
    rw [same, clientOf, read, fresh]
    rfl
  rw [bound]
  change (credentials.filter fun found => found.id ≠ "") =
    (some ⟨(presented request).1, (presented request).2⟩ : Option Credentials).filter
      fun found => found.id ≠ "" at filtered
  generalize presented request = shown at filtered ⊢
  exact Client.authenticate_afterAll_iff filtered

/-- **A request is authenticated as the client that the registrations admit.** -/
theorem authenticatesAs_registerAll_iff (id : String) :
    (server.registerAll registrations).AuthenticatesAs request id ↔
      Registration.Admits registrations (presented request) id := by
  constructor
  · rintro ⟨client, authenticated, rfl⟩
    obtain ⟨filled, registration, first, rfl, accepts⟩ :=
      (clientOf_registerAll_iff fresh ascii).mp authenticated
    have named : registration.client.id = (presented request).1 :=
      Registration.id_of_first? first
    rw [named]
    exact ⟨filled, rfl, registration, first, accepts⟩
  · rintro ⟨filled, rfl, registration, first, accepts⟩
    exact ⟨registration.client, (clientOf_registerAll_iff fresh ascii).mpr
      ⟨filled, registration, first, rfl, accepts⟩, Registration.id_of_first? first⟩

end Registered

/-! ## Answering -/

/-- **How the token endpoint answers**: it turns the request away, or it refuses the client, or it
handles the grant of an authenticated client. -/
theorem answerAt_token_cases {response : HttpResponse}
    (answered : (server.answerAt clock .token request).result = .ok response) :
    ((response.status = 405 ∨ response.status = 400) ∧
        (server.answerAt clock .token request).server = server) ∨
      (∃ cause, server.clientOf request = .error (.fault cause) ∧ response = refusal cause.code ∧
        (server.answerAt clock .token request).server.service = server.service) ∨
      ∃ client readings answer, server.clientOf request = .ok client ∧
        clock.readings = .ok readings ∧
        Grant.handle server.context readings (grantRequest request client) server.service =
          (answer, (server.answerAt clock .token request).server.service) ∧
        response = answerResponse answer := by
  unfold answerAt at answered ⊢
  split at answered
  · next other =>
    rw [if_pos other]
    obtain rfl := Except.ok.inj answered
    refine Or.inl ⟨Or.inl ?_, rfl⟩
    unfold rejection
    dsimp only
    split <;> rfl
  · next post =>
    rw [if_neg post]
    dsimp only at answered ⊢
    cases form : Form.fault? request.fields with
    | some cause =>
      rw [form] at answered
      obtain rfl := Except.ok.inj answered
      exact Or.inl ⟨Or.inr rfl, rfl⟩
    | none =>
      rw [form] at answered
      refine Or.inr ?_
      dsimp only at answered ⊢
      unfold token at answered ⊢
      cases authenticated : server.clientOf request with
      | error failure =>
        rw [authenticated] at answered
        cases failure with
        | defect cause => cases answered
        | fault cause =>
          obtain rfl := Except.ok.inj answered
          exact Or.inl ⟨cause, rfl, rfl, rfl⟩
      | ok client =>
        rw [authenticated] at answered
        dsimp only at answered ⊢
        unfold answerClient timed at answered ⊢
        cases reads : clock.readings with
        | error cause =>
          rw [reads] at answered
          cases answered
        | ok readings =>
          rw [reads] at answered
          obtain rfl := Except.ok.inj answered
          exact Or.inr ⟨client, readings, _, rfl, rfl, rfl, rfl⟩

/-- The grant of an authenticated client is handled, if its form is taken. -/
theorem answerAt_of_clientOf {client : Client}
    (authenticated : server.clientOf request = .ok client)
    (post : request.hasMethod Endpoint.token.method = true)
    (form : Form.fault? request.fields = none) : server.answerAt clock .token request =
      server.answerClient clock (grantRequest request client) := by
  rw [answerAt, post]
  simp only [Bool.not_true, Bool.false_eq_true, ↓reduceIte, form]
  rw [token, authenticated]

/-- **A response grants tokens to a client**: they are issued for a grant that is accepted for it,
and the access token and the refresh token, if there is one, have it as their audience. A code has a
challenge where the policy demands one of a client that is public, or of one that is not. -/
def GrantsTo (server : Server) (clock : Clock) (request : HttpRequest) (client : Client)
    (response : HttpResponse) : Prop :=
  ∃ (readings : Readings) (grant : Token) (tokens : Issued) (access : Token)
      (refresh : Option Token), clock.readings = .ok readings ∧
    Grant.accept server.context readings (grantRequest request client) = .ok grant ∧
    response = .ofJson 200 tokens.body HttpResponse.noStore ∧
    server.context.Seals tokens.accessToken access ∧
    Option.Rel (fun closed token => server.context.Seals closed.1 token) tokens.refresh refresh ∧
    (∀ token ∈ access :: refresh.toList,
      token.claims.members.get? Claim.audience.name = some (.array [.string client.id])) ∧
    (grant.kind = .authorizationCode →
      server.context.policy.demandsPkce (!client.isConfidential) = true →
      grant.challenge?.isSome = true)

/-- **What is granted to a client names it.** -/
theorem grantsTo_of_handle (exact : RandomSource.Exact server.context.random) {client : Client}
    {readings : Readings} (reads : clock.readings = .ok readings) {tokens : Issued}
    {last : ServiceState} (handled : Grant.handle server.context readings
      (grantRequest request client) server.service = (.granted tokens, last)) :
    server.GrantsTo clock request client (answerResponse (.granted tokens)) := by
  obtain ⟨grant, accepted, -, ran⟩ := Grant.handle_eq_granted_iff.mp handled
  obtain ⟨_, _, -, opened, identified⟩ := Grant.accept_eq_ok_iff.mp accepted
  have formed := Token.wellFormed_of_isRead (Token.isRead_of_ofSealed opened)
  obtain ⟨access, refresh, issues⟩ := Grant.issues_of_issue exact ran
  obtain ⟨accessFormed, read, accessSeals, refreshSeals, accessShares, refreshShares⟩ :=
    issues.exists_shares formed
  have belongs := Grant.identify_eq_ok_iff.mp identified
  have owner : grant.clientId = client.id := (Option.some.inj belongs.client).symm
  have audience {token : Token} (shares : token.claims.members.Share grant) :
      token.claims.members.get? Claim.audience.name = some (.array [.string client.id]) := by
    rw [shares .audience (by decide), Token.get?_audience formed, owner]
  refine ⟨readings, grant, tokens, _, read, reads, accepted, rfl, accessSeals, refreshSeals,
    fun token member => ?_, fun isCode =>
      (Grant.matchCode_eq_ok_iff.mp (belongs.code isCode)).2.1⟩
  rcases List.mem_cons.mp member with rfl | member
  · exact audience accessShares
  · exact audience (refreshShares token (Option.mem_toList.mp member))

/-- **A 401 answer changes nothing in the service.** -/
theorem service_of_unauthorized {response : HttpResponse}
    (answered : (server.answerAt clock .token request).result = .ok response)
    (status : response.status = 401) :
    (server.answerAt clock .token request).server.service = server.service := by
  rcases answerAt_token_cases answered with ⟨-, same⟩ | ⟨cause, -, -, same⟩ |
      ⟨client, readings, answer, -, -, handled, rfl⟩
  · rw [same]
  · exact same
  · cases answer with
    | granted tokens => cases status
    | refused found =>
      refine Grant.eq_of_handle_invalidClient handled ?_
      have code : found.code.status = 401 := status
      cases same : found.code <;> rw [same] at code <;> first | rfl | cases code

/-- **A 200 answer grants tokens** to the client that the request comes from. -/
theorem exists_grantsTo (exact : RandomSource.Exact server.context.random)
    {response : HttpResponse}
    (answered : (server.answerAt clock .token request).result = .ok response)
    (status : response.status = 200) :
    ∃ client, server.clientOf request = .ok client ∧
      server.GrantsTo clock request client response := by
  rcases answerAt_token_cases answered with ⟨turned, -⟩ | ⟨cause, -, rfl, -⟩ |
      ⟨client, readings, answer, authenticated, reads, handled, rfl⟩
  · rw [status] at turned
    rcases turned with other | other <;> cases other
  · have code : cause.code.status = 200 := status
    cases same : cause.code <;> rw [same] at code <;> cases code
  · cases answer with
    | granted tokens => exact ⟨client, authenticated, grantsTo_of_handle exact reads handled⟩
    | refused found =>
      have code : found.code.status = 200 := status
      cases same : found.code <;> rw [same] at code <;> cases code

/-! ## The whole gate -/

/-- **Authentication gates issuance.** After any registrations a request is authenticated as the
client of an id exactly when it presents this id, which is not empty, and a secret that the first
registration of the id accepts; registering it again never changes this. The grant of an
authenticated client is handled as that of a public one exactly when its first registration had no
secret. A 401 answer changes nothing in the service, and a 200 answer grants tokens for the client
that was authenticated. -/
theorem authentication_gates_issuance (fresh : server.registry = Registry.empty)
    (exact : RandomSource.Exact server.context.random) (registrations : List Registration)
    (ascii : ∀ header, request.header? "authorization" = some header → Text.IsAscii header) :
    (∀ id, (server.registerAll registrations).AuthenticatesAs request id ↔
      Registration.Admits registrations (presented request) id) ∧
    (∀ id registration more, Registration.first? registrations id = some registration →
      ((server.registerAll (registrations ++ more)).AuthenticatesAs request id ↔
        (server.registerAll registrations).AuthenticatesAs request id)) ∧
    (∀ id, (server.registerAll registrations).AuthenticatesAs request id → ∃ registration,
      Registration.first? registrations id = some registration ∧
      (grantRequest request registration.client).clientId = some id ∧
      (grantRequest request registration.client).publicClient = registration.secret?.isNone ∧
      (request.hasMethod Endpoint.token.method = true → Form.fault? request.fields = none →
        ∀ clock, (server.registerAll registrations).answerAt clock .token request =
          (server.registerAll registrations).answerClient clock
            (grantRequest request registration.client))) ∧
    ∀ clock response,
      ((server.registerAll registrations).answerAt clock .token request).result = .ok response →
      (response.status = 401 →
        ((server.registerAll registrations).answerAt clock .token request).server.service =
          (server.registerAll registrations).service) ∧
      (response.status = 200 → ∃ id registration,
        (server.registerAll registrations).AuthenticatesAs request id ∧
        Registration.first? registrations id = some registration ∧ registration.client.id = id ∧
        (server.registerAll registrations).GrantsTo clock request registration.client
          response) := by
  have exactAfter : RandomSource.Exact (server.registerAll registrations).context.random := by
    obtain ⟨setting, same⟩ := server.registerAll_eq registrations
    rwa [same]
  refine ⟨authenticatesAs_registerAll_iff fresh ascii, fun id registration more first => ?_,
    fun id authenticated => ?_,
    fun clock response answered => ⟨service_of_unauthorized answered, fun status => ?_⟩⟩
  · rw [authenticatesAs_registerAll_iff fresh ascii, authenticatesAs_registerAll_iff fresh ascii,
      Registration.Admits, Registration.Admits, Registration.first?_append first more, first]
  · obtain ⟨client, found, rfl⟩ := authenticated
    obtain ⟨-, registration, first, rfl, -⟩ := (clientOf_registerAll_iff fresh ascii).mp found
    have named := Registration.id_of_first? first
    refine ⟨registration, ?_, rfl, ?_, fun post form clock =>
      answerAt_of_clientOf found post form⟩
    · rw [← named] at first
      exact first
    · have isPublic : (grantRequest request registration.client).publicClient =
          !registration.client.isConfidential := rfl
      rw [isPublic, Registration.isConfidential_client]
      cases registration.secret? <;> rfl
  · obtain ⟨client, found, granted⟩ := exists_grantsTo exactAfter answered status
    obtain ⟨-, registration, first, rfl, -⟩ := (clientOf_registerAll_iff fresh ascii).mp found
    have named := Registration.id_of_first? first
    refine ⟨registration.client.id, registration, ⟨_, found, rfl⟩, ?_, rfl, granted⟩
    rw [← named] at first
    exact first

/-! ## A public client and a confidential one -/

/-- A server with a table of clients. -/
def openSample : Server := { sample with registry := Registry.empty }

/-- A public and a confidential client; the public one is registered again with a secret. -/
def twoClients : List Registration :=
  [⟨sample.secretSetting, "app", ["https://app.example/cb"], none⟩,
    ⟨sample.secretSetting, "web", ["https://web.example/cb"], some "secret"⟩,
    ⟨sample.secretSetting, "app", [], some "secret"⟩]

/-- A request that presents a code and names its client in the form. -/
def tokenRequest (id text : String) : HttpRequest where
  method := Endpoint.token.method
  path := Endpoint.token.path
  headers := []
  form := [("grant_type", codeGrantType), ("client_id", id), ("code", text),
    ("redirect_uri", "https://app.example/cb")]

theorem field?_tokenRequest (id text name : String) : (tokenRequest id text).field? name =
    ([("redirect_uri", "https://app.example/cb"), ("code", text), ("client_id", id),
      ("grant_type", codeGrantType)].lookup name).filter (· ≠ "") := rfl

/-- The request presents the id in its form, and no secret. -/
theorem presented_tokenRequest {id : String} (given : id ≠ "") (text : String) :
    presented (tokenRequest id text) = (Text.trim id, none) := by
  have header : ((tokenRequest id text).header? "authorization").getD "" = "" := rfl
  have nothing : Credentials.parseBasic "" = .ok none := by
    simp [Credentials.parseBasic, Credentials.basicScheme, Text.trim, Text.trimBy]
  have own : (tokenRequest id text).field? "client_id" = some id := by
    rw [field?_tokenRequest]
    simp [List.lookup, given]
  have secret : (tokenRequest id text).field? "client_secret" = none := by
    rw [field?_tokenRequest]
    simp [List.lookup]
  rw [presented, header, own, secret, Credentials.presented, nothing]
  rfl

/-- The client asks for what its code grants. -/
theorem grantRequest_tokenRequest {text : String} (given : text ≠ "")
    {registration : Registration} (named : registration.client.id = "app")
    (isPublic : registration.secret? = none) :
    grantRequest (tokenRequest " app " text) registration.client =
      { Grant.codeGrant text with publicClient := true } := by
  have confidential : registration.client.isConfidential = false := by
    rw [Registration.isConfidential_client, isPublic]
    rfl
  simp [grantRequest, field?_tokenRequest, List.lookup, named, confidential, Grant.codeGrant, given,
    codeGrantType]

/-- The public client gets tokens for its code. -/
theorem exists_granted_publicClient {text : String} (issued : (Grant.issueCode Sample.context
    1700000000 Sample.codeRequest Sample.state).result = .ok text) :
    ∃ tokens, (Grant.handle Sample.context (readingsAt 1700000010)
      { Grant.codeGrant text with publicClient := true } Sample.state).1 = .granted tokens := by
  have opened : Token.ofSealed Sample.context.ring Sample.context.sealSkew (.int 1700000010)
      .authorizationCode text = .ok Sample.readCode := Sample.ofSealed_code issued (by norm_num)
  have ready : Grant.Ready Sample.context 1700000010 Sample.readCode :=
    Grant.ready_of_issueCode Sample.exact_random Grant.isWhole_policy issued opened (by decide)
      (by decide) (by decide)
  have identified : Grant.identify Sample.context.policy
      { Grant.codeGrant text with publicClient := true } 1700000010 Sample.readCode = .ok () := by
    rw [Sample.readCode, Grant.identify_stored]
    rfl
  have accepted : Grant.accept Sample.context (readingsAt 1700000010)
      { Grant.codeGrant text with publicClient := true } = .ok Sample.readCode :=
    Grant.accept_eq_ok_iff.mpr ⟨_, text,
      Grant.presented_codeGrant (Sample.text_ne_of_issueCode issued), opened, identified⟩
  have reserved : (Grant.reserve Sample.context.policy (readingsAt 1700000010) Sample.readCode
      Sample.state.store).1 = .ok () := by
    rw [Sample.readCode, Grant.reserve_stored]
    rfl
  have authenticated : Sample.readCode.authTime ≤ 1700000010 := by
    rw [Sample.readCode, Token.authTime_stored]
    decide
  exact (Grant.handle_of_ready ready accepted reserved rfl).1.mpr authenticated

/-- The members of the code in the order of their names. -/
def sortedCode : Members :=
  [("acr", .string "basic"), ("aud", .array [.string "app"]), ("auth_time", .number 1700000000),
    ("exp", .number 1700000300), ("iat", .number 1700000000),
    ("iss", .string "https://op.example"), ("jti", .string "id-1"),
    ("principal", .string "user@example"), ("redirect_uri", .string "https://app.example/cb"),
    ("scope", .string "read write"), ("sub", .string "user"), ("type", .string "ac")]

theorem sorted_code :
    (Json.object Sample.code.claims.members).sorted = .object sortedCode := by
  rw [Json.sorted, Json.sortedMembers_eq_map]
  simp [Sample.code, Sample.codeRequest, Sample.context, sortedCode, Token.newMembers,
    TokenOptions.members, TokenOptions.none, TokenKind.code, Claim.name, ClaimSet.isNull,
    Json.sorted, Json.sortedItems, List.mergeSort]

theorem length_le_of_issueCode {text : String}
    (issued : (Grant.issueCode Sample.context 1700000000 Sample.codeRequest Sample.state).result =
      .ok text) : text.length ≤ 1400 := by
  obtain ⟨found, after, last, minted, closed⟩ := Grant.issueCode_eq_ok_iff.mp issued
  have made : (Grant.mintCode Sample.context 1700000000 Sample.codeRequest).run
      Sample.state.supply = (.ok Sample.code, ⟨1, 0⟩) := Sample.run_mintCode
  rw [made] at minted
  cases minted
  obtain ⟨plain, written, wrapped⟩ := Token.run_sealedBy_eq_ok_iff.mp closed
  obtain ⟨-, rfl⟩ := Json.canonical_eq_ok_iff.mp (Token.encode_of_serialize written)
  have chars : ((Json.object sortedCode).write .compact).length = 239 := by decide +kernel
  have bytes := Utf8.length_encode_le ((Json.object sortedCode).render .compact)
  rw [Json.render, String.toList_ofList, chars] at bytes
  have id : (Utf8.encode Sample.context.ring.current.id).length = 2 := by decide
  rw [KeyRing.length_of_wrap Sample.exact_random wrapped, sorted_code, id, Json.render]
  omega

/-- The form of the request is taken. -/
theorem fault?_tokenRequest {text : String} (short : text.length ≤ 1400) :
    Form.fault? (tokenRequest " app " text).fields = none := by
  have few : (tokenRequest " app " text).fields.length = 4 := rfl
  refine (Form.fault?_eq_none_iff _).mpr ⟨few.trans_le (by decide), fun field listed => ?_⟩
  have small : field.1.length + field.2.length ≤ 1500 := by
    change field ∈ (tokenRequest " app " text).form at listed
    simp only [tokenRequest, List.mem_cons, List.not_mem_nil, or_false] at listed
    rcases listed with rfl | rfl | rfl | rfl
    · decide
    · decide
    · have named : "code".length = 4 := by decide
      dsimp only
      omega
    · decide
  have name := Text.formLength_le field.1
  have value := Text.formLength_le field.2
  unfold Form.fieldSize Form.sizeLimit
  omega

/-- Without a secret the public client is authenticated and gets tokens for its code; the
confidential client is not authenticated. -/
theorem authentication_gates_issuance_sample : ∃ text,
    (Grant.issueCode Sample.context 1700000000 Sample.codeRequest Sample.state).result =
        .ok text ∧
      (openSample.registerAll twoClients).AuthenticatesAs (tokenRequest " app " text) "app" ∧
      (∀ id, ¬ (openSample.registerAll twoClients).AuthenticatesAs (tokenRequest "web" text) id) ∧
      ∃ response, ((openSample.registerAll twoClients).answerAt (.still 1700000010) .token
        (tokenRequest " app " text)).result = .ok response ∧ response.status = 200 := by
  obtain ⟨text, issued⟩ := Sample.exists_issueCode
  have fresh : openSample.registry = Registry.empty := rfl
  have unsigned (id : String) : ∀ header,
      (tokenRequest id text).header? "authorization" = some header → Text.IsAscii header := by
    intro header found
    cases found
  obtain ⟨admitted, -, handled, -⟩ := authentication_gates_issuance fresh
    Sample.exact_random twoClients (unsigned " app ")
  obtain ⟨refused, -⟩ := authentication_gates_issuance fresh Sample.exact_random twoClients
    (unsigned "web")
  have isApp : (openSample.registerAll twoClients).AuthenticatesAs (tokenRequest " app " text)
      "app" := by
    rw [admitted, presented_tokenRequest (by decide)]
    refine ⟨by decide, rfl, _, rfl, fun own present => ?_⟩
    cases present
  have notWeb (id : String) :
      ¬ (openSample.registerAll twoClients).AuthenticatesAs (tokenRequest "web" text) id := by
    rw [refused, presented_tokenRequest (by decide)]
    rintro ⟨-, rfl, registration, first, accepts⟩
    obtain rfl := Option.some.inj first
    obtain ⟨plain, given, -⟩ := accepts "secret" rfl
    cases given
  refine ⟨text, issued, isApp, notWeb, ?_⟩
  have form := fault?_tokenRequest (length_le_of_issueCode issued)
  obtain ⟨registration, first, named, isPublic, answers⟩ := handled "app" isApp
  obtain rfl := Option.some.inj first
  obtain ⟨tokens, granted⟩ := exists_granted_publicClient issued
  obtain ⟨setting, same⟩ := openSample.registerAll_eq twoClients
  have capitals : Text.upper Endpoint.token.method = Endpoint.token.method := by decide
  refine ⟨answerResponse (.granted tokens), ?_, rfl⟩
  rw [answers (decide_eq_true capitals) form,
    grantRequest_tokenRequest (Sample.text_ne_of_issueCode issued) rfl rfl, same]
  exact congrArg (Except.ok ∘ answerResponse) granted

end Server
end SealedGrant
