import Mathlib
import SealedGrant.Proofs.Server.Authentication
import SealedGrant.Proofs.Server.Body

/-! # The audit log mirrors the answers

A request that comes to the token endpoint is handled there, and every other one leaves the server
as it is (`SealedGrant.Server.answer_eq_token`, `SealedGrant.Server.server_answer_of_not`). The
endpoint has many ways to answer, and each of them leaves one record that tells what was answered
(`SealedGrant.Server.token_cases`). So whatever happens to a server, at every point of time its log
holds the records of the answers up to then, in their order
(`SealedGrant.Server.audit_log_mirrors_answers`).
-/

namespace SealedGrant

theorem ErrorCode.status_ne (code : ErrorCode) : code.status ≠ 200 := by
  cases code <;> decide

namespace Server

variable {server : Server} {clock : Clock} {request arrived : HttpRequest}
  {response : HttpResponse}

/-! ## Requests that come to the token endpoint -/

/-- A request comes to the token endpoint: so it arrives there, and its method and form are
taken. -/
structure ComesToToken (request arrived : HttpRequest) : Prop where
  arrives : ∃ delivery, Delivery.ofRequest request = .ok delivery ∧
    Endpoint.at? delivery.target.path = some .token ∧ delivery.final = .ok arrived
  post : arrived.hasMethod Endpoint.token.method = true
  taken : Form.fault? arrived.fields = none

theorem ComesToToken.unique {other : HttpRequest} (comes : ComesToToken request arrived)
    (too : ComesToToken request other) : arrived = other := by
  obtain ⟨delivery, sent, -, last⟩ := comes.arrives
  obtain ⟨_, again, -, lastAgain⟩ := too.arrives
  cases sent.symm.trans again
  exact Except.ok.inj (last.symm.trans lastAgain)

theorem comesToToken_of_path (path : request.path = Endpoint.token.path)
    (ascii : ∀ field ∈ request.headers, Text.IsAscii field.1 ∧ Text.IsAscii field.2)
    (post : request.hasMethod Endpoint.token.method = true)
    (taken : Form.fault? request.fields = none) : ComesToToken request request :=
  ⟨exists_delivery path ascii, post, taken⟩

/-- **The token endpoint answers** what comes to it. -/
theorem answer_eq_token (comes : ComesToToken request arrived) :
    server.answer clock request = server.token clock arrived := by
  obtain ⟨⟨delivery, sent, there, last⟩, post, taken⟩ := comes
  simp only [answer, sent, there, last, answerAt, post, taken, Bool.not_true, Bool.false_eq_true,
    ↓reduceIte]

/-- **Other requests change nothing.** -/
theorem server_answer_of_not (other : ∀ arrived, ¬ ComesToToken request arrived) :
    (server.answer clock request).server = server := by
  unfold answer
  cases sent : Delivery.ofRequest request with
  | error cause => rfl
  | ok delivery =>
    dsimp only
    cases there : Endpoint.at? delivery.target.path with
    | none => rfl
    | some endpoint =>
      dsimp only
      cases last : delivery.final with
      | error cause => rfl
      | ok arrived =>
        dsimp only
        unfold answerAt
        split
        · rfl
        · next method =>
          cases endpoint with
          | userInfo => rfl
          | health => rfl
          | token =>
            cases taken : Form.fault? arrived.fields with
            | some cause => rfl
            | none =>
              have post : arrived.hasMethod Endpoint.token.method = true := by simpa using method
              exact absurd ⟨⟨delivery, sent, there, last⟩, post, taken⟩ (other arrived)

/-! ## The record of an answer -/

/-- What an answer of the token endpoint is called in the audit log. -/
def answerEvent (arrived : HttpRequest) (response : HttpResponse) : String :=
  if response.status = 200 then
    if arrived.field? "grant_type" = some refreshGrantType then "token_refreshed"
    else "token_issued"
  else "token_denied"

/-- **A record mirrors an answer**: it tells whether tokens were granted and by which grant, the
error that stands in the body, if there is one, and the client, if it was authenticated. -/
structure Mirrors (server : Server) (arrived : HttpRequest) (response : HttpResponse)
    (record : AuditRecord) : Prop where
  event : record.event = answerEvent arrived response
  outcome : record.outcome =
    if response.status = 200 then AuditRecord.success else AuditRecord.failure
  error : ∃ members : Members, Json.read .strict response.body = .ok (.object members) ∧
    members.get? "error" = record.error.map .string
  errorless : record.error = none ↔ response.status = 200
  client : ∀ client, server.clientOf arrived = .ok client → record.clientId = some client.id

theorem mirrors_denied {clientId : Option String} (code : ErrorCode)
    (client : ∀ client, server.clientOf arrived = .ok client → clientId = some client.id) :
    server.Mirrors arrived (refusal code) (.denied clientId code) where
  event := (if_neg code.status_ne).symm
  outcome := (if_neg code.status_ne).symm
  error := ⟨_, read_refusal code, ErrorCode.get?_error rfl⟩
  errorless := iff_of_false (Option.some_ne_none _) code.status_ne
  client := client

/-- The answer to the grant of an authenticated client is mirrored by its record. -/
theorem mirrors_answer {client : Client} (authenticated : server.clientOf arrived = .ok client)
    {readings : Readings} {answer : Answer} {last : ServiceState}
    (handled : Grant.handle server.context readings (grantRequest arrived client) server.service =
      (answer, last)) :
    server.Mirrors arrived (answerResponse answer)
      (answerRecord (grantRequest arrived client) answer) := by
  have named : ∀ found, server.clientOf arrived = .ok found → some client.id = some found.id := by
    intro found same
    rw [authenticated] at same
    cases same
    rfl
  cases answer with
  | refused cause => exact mirrors_denied cause.code named
  | granted tokens =>
    have event : (AuditRecord.issued (some client.id)
        (arrived.field? "grant_type" == some refreshGrantType)).event =
          answerEvent arrived (answerResponse (.granted tokens)) := by
      unfold answerEvent AuditRecord.issued
      simp only [beq_iff_eq]
      rfl
    exact ⟨event, rfl, ⟨_, read_granted handled, Issued.get?_error rfl⟩, iff_of_true rfl rfl, named⟩

/-- **The token endpoint leaves one record of each answer**, and nothing when it gives none. -/
theorem token_cases (server : Server) (clock : Clock) (arrived : HttpRequest) :
    (∃ cause, (server.token clock arrived).result = .error cause ∧
        (server.token clock arrived).server = server) ∨
      ∃ response record, (server.token clock arrived).result = .ok response ∧
        server.Mirrors arrived response record ∧
        (server.token clock arrived).server.audit = (server.audit.append record).2 := by
  unfold token
  cases authenticated : server.clientOf arrived with
  | error failure =>
    cases failure with
    | defect cause => exact Or.inl ⟨_, rfl, rfl⟩
    | fault cause =>
      refine Or.inr ⟨_, _, rfl, mirrors_denied cause.code fun client found => ?_, rfl⟩
      rw [authenticated] at found
      cases found
  | ok client =>
    dsimp only
    unfold answerClient timed
    cases clock.readings with
    | error cause => exact Or.inl ⟨_, rfl, rfl⟩
    | ok readings =>
      exact Or.inr ⟨_, _, rfl, mirrors_answer authenticated (Prod.eta (Grant.handle server.context
        readings (grantRequest arrived client) server.service)).symm, rfl⟩

/-! ## What happens to a server -/

/-- What happens to a running server: an HTTP request comes in, or something is done beside
HTTP. -/
inductive Happening where
  | visit (clock : Clock) (request : HttpRequest)
  | operate (event : Event)

/-- The server after something happened. -/
def serve (server : Server) : Happening → Server
  | .visit clock request => (server.answer clock request).server
  | .operate event => server.step event

def serveAll (server : Server) (happenings : List Happening) : Server :=
  happenings.foldl serve server

/-- Something that happens and the server that it happens to. -/
structure Moment where
  before : Server
  happening : Happening

/-- The moments of what happens, one after the other. -/
def moments (server : Server) : List Happening → List Moment
  | [] => []
  | happening :: rest => ⟨server, happening⟩ :: (server.serve happening).moments rest

/-- The token endpoint answers a request, as it arrives there. -/
def Moment.Answers (moment : Moment) (arrived : HttpRequest) (response : HttpResponse) : Prop :=
  ∃ clock request, moment.happening = .visit clock request ∧ ComesToToken request arrived ∧
    (moment.before.answer clock request).result = .ok response

theorem Moment.Answers.unique {moment : Moment} {other : HttpRequest} {answer : HttpResponse}
    (answers : moment.Answers arrived response) (too : moment.Answers other answer) :
    arrived = other ∧ response = answer := by
  obtain ⟨clock, request, same, comes, answered⟩ := answers
  obtain ⟨_, _, again, comesAgain, answeredAgain⟩ := too
  cases same.symm.trans again
  exact ⟨comes.unique comesAgain, Except.ok.inj (answered.symm.trans answeredAgain)⟩

/-- **What the log gains**: a record that mirrors the answer if the token endpoint answers, and
nothing otherwise. -/
def Moment.Logs (moment : Moment) (entries : List AuditRecord) : Prop :=
  (∃ arrived response record, moment.Answers arrived response ∧
      moment.before.Mirrors arrived response record ∧ entries = [record]) ∨
    ((∀ arrived response, ¬ moment.Answers arrived response) ∧ entries = [])

/-- What is done beside HTTP leaves no record. -/
theorem audit_step (server : Server) (event : Event) :
    (server.step event).audit = server.audit := by
  obtain ⟨clock, operation⟩ := event
  cases operation with
  | issueCode request =>
    rcases step_issueCode server clock request with same | ⟨_, same⟩ <;> rw [same]
  | handle request =>
    rcases step_handle server clock request with same | ⟨_, -, same⟩ <;> rw [same]
  | purge => rfl
  | rotate key =>
    obtain ⟨ring, same⟩ := step_rotate server clock key
    rw [same]
    rfl
  | retire id =>
    obtain ⟨ring, same⟩ := step_retire server clock id
    rw [same]
    rfl

/-- **One step adds what it logs.** -/
theorem exists_logs {log : List AuditRecord} (kept : server.audit = some log)
    (happening : Happening) : ∃ entries, (Moment.mk server happening).Logs entries ∧
      (server.serve happening).audit = some (log ++ entries) := by
  cases happening with
  | operate event =>
    refine ⟨[], Or.inr ⟨fun arrived response answers => ?_, rfl⟩, ?_⟩
    · obtain ⟨clock, request, same, -⟩ := answers
      cases same
    · rw [List.append_nil, ← kept]
      exact audit_step server event
  | visit clock request =>
    by_cases comes : ∃ arrived, ComesToToken request arrived
    · obtain ⟨arrived, comes⟩ := comes
      have handled : server.answer clock request = server.token clock arrived :=
        answer_eq_token comes
      rcases token_cases server clock arrived with
          ⟨cause, failed, same⟩ | ⟨response, record, answered, mirrors, audit⟩
      · refine ⟨[], Or.inr ⟨fun other response answers => ?_, rfl⟩, ?_⟩
        · obtain ⟨_, _, same, -, answered⟩ := answers
          cases same
          rw [handled, failed] at answered
          cases answered
        · rw [serve, handled, same, kept, List.append_nil]
      · refine ⟨[record], Or.inl ⟨arrived, response, record, ⟨clock, request, rfl, comes, ?_⟩,
          mirrors, rfl⟩, ?_⟩
        · rw [handled, answered]
        · rw [serve, handled, audit, kept]
          rfl
    · have other := not_exists.mp comes
      refine ⟨[], Or.inr ⟨fun arrived response answers => ?_, rfl⟩, ?_⟩
      · obtain ⟨_, _, same, found, -⟩ := answers
        cases same
        exact other arrived found
      · rw [serve, server_answer_of_not other, kept, List.append_nil]

/-- **The audit log mirrors the answers.** Whatever happens to a server with an audit log, each
answer of the token endpoint adds one record that mirrors it, and nothing else adds any: after any
number of happenings the log is what it was before, followed by what they added, in their order. -/
theorem audit_log_mirrors_answers {log : List AuditRecord} (kept : server.audit = some log)
    (happenings : List Happening) : ∃ entries : List (List AuditRecord),
      List.Forall₂ Moment.Logs (server.moments happenings) entries ∧
      ∀ count, (server.serveAll (happenings.take count)).audit =
        some (log ++ (entries.take count).flatten) := by
  induction happenings generalizing server log with
  | nil =>
    refine ⟨[], List.Forall₂.nil, fun count => ?_⟩
    rw [List.take_nil, List.take_nil, List.flatten_nil, List.append_nil]
    exact kept
  | cons happening rest ih =>
    obtain ⟨first, logs, gained⟩ := exists_logs kept happening
    obtain ⟨others, mirrored, grows⟩ := ih gained
    refine ⟨first :: others, List.Forall₂.cons logs mirrored, fun count => ?_⟩
    cases count with
    | zero =>
      rw [List.take_zero, List.take_zero, List.flatten_nil, List.append_nil]
      exact kept
    | succ count =>
      rw [List.take_succ_cons, List.take_succ_cons, List.flatten_cons, ← List.append_assoc]
      exact grows count

/-! ## A refusal and a look at the health -/

/-- A server with a public client and an empty audit log. -/
def auditedSample : Server :=
  { sample with registry := some [⟨"app", [], none⟩], audit := AuditLog.empty }

/-- The client presents a text that is no code. -/
def brokenVisit : Happening := .visit (.still 1700000010) (tokenRequest "app" "code")

def healthVisit : Happening := .visit (.still 1700000020) ⟨"GET", Endpoint.health.path, [], []⟩

theorem answers_brokenVisit : (Moment.mk auditedSample brokenVisit).Answers
    (tokenRequest "app" "code") (refusal .invalidGrant) := by
  have comes : ComesToToken (tokenRequest "app" "code") (tokenRequest "app" "code") :=
    comesToToken_of_path rfl (List.forall_mem_nil _) rfl rfl
  refine ⟨_, _, rfl, comes, ?_⟩
  rw [answer_eq_token comes]
  rfl

theorem not_answers_healthVisit (server : Server) (arrived : HttpRequest)
    (response : HttpResponse) : ¬ (Moment.mk server healthVisit).Answers arrived response := by
  rintro ⟨_, _, same, comes, -⟩
  cases same
  obtain ⟨delivery, sent, there, -⟩ := comes.arrives
  have elsewhere : ∃ delivery,
      Delivery.ofRequest ⟨"GET", Endpoint.health.path, [], []⟩ = .ok delivery ∧
        Endpoint.at? delivery.target.path = some .health ∧ delivery.final = .ok _ :=
    exists_delivery rfl (List.forall_mem_nil _)
  obtain ⟨_, again, found, -⟩ := elsewhere
  cases sent.symm.trans again
  cases there.symm.trans found

/-- The refusal is recorded with the client, and the look at the health is not. -/
theorem audit_log_mirrors_answers_sample : auditedSample.audit = some [] ∧ ∃ record,
    (auditedSample.serveAll [brokenVisit, healthVisit]).audit = some [record] ∧
      record.event = "token_denied" ∧ record.outcome = "fail" ∧ record.clientId = some "app" := by
  have empty : auditedSample.audit = some [] := rfl
  obtain ⟨entries, mirrored, grows⟩ :=
    audit_log_mirrors_answers empty [brokenVisit, healthVisit]
  cases mirrored with
  | cons first rest =>
    cases rest with
    | cons second nothing =>
      cases nothing
      rcases first with ⟨arrived, response, record, answers, mirrors, rfl⟩ | ⟨silent, -⟩
      · rcases second with ⟨_, _, _, answersToo, -⟩ | ⟨-, rfl⟩
        · exact absurd answersToo (not_answers_healthVisit _ _ _)
        · obtain ⟨rfl, rfl⟩ := answers.unique answers_brokenVisit
          exact ⟨empty, record, grows 2, mirrors.event, mirrors.outcome,
            mirrors.client ⟨"app", [], none⟩ rfl⟩
      · exact absurd answers_brokenVisit (silent _ _)

end Server
end SealedGrant
