import Mathlib
import SealedGrant.Proofs.Client.BasicHeader
import SealedGrant.Proofs.Password.Bcrypt
import SealedGrant.Proofs.Server.Audit

/-! # Any authorization header

A client that was registered has a hash that can be checked, so whoever presents credentials is
either authenticated or refused as a client (`SealedGrant.Client.authenticate_decided`). Reading the
credentials fails for a foreign header alone. So the token endpoint answers a request whatever its
authorization header holds, and leaves a record of the answer, unless the header is foreign: then
there is neither an answer nor a record (`SealedGrant.Server.answers_unless_foreign`).
-/

namespace SealedGrant

theorem Credentials.ofRequest_of_isForeign {header : String} (foreign : IsForeign header)
    (formId formSecret : Option String) :
    ofRequest header formId formSecret = .error (.defect .base64NotAscii) := by
  unfold ofRequest
  rw [parseBasic_eq_error_iff.mpr ⟨foreign, rfl⟩]
  rfl

/-! ## Registered clients -/

/-- The client of a registration can check what is presented. -/
theorem Registration.exists_accepts {registration : Registration}
    (sound : registration.setting.IsSound) (presented : Option String) :
    ∃ accepted, registration.client.accepts presented = .ok accepted := by
  have hashed : registration.client.secretHash =
      registration.secret?.map (Bcrypt.hash registration.setting) := rfl
  unfold Client.accepts
  rw [hashed]
  cases registration.secret? with
  | none => exact ⟨true, rfl⟩
  | some own =>
    dsimp only [Option.map_some]
    cases presented.filter (· ≠ "") with
    | none => exact ⟨false, rfl⟩
    | some plain =>
      obtain ⟨matched, checked⟩ :=
        Option.isSome_iff_exists.mp (Bcrypt.isSome_verify? sound own plain)
      dsimp only
      rw [checked]
      exact ⟨matched, rfl⟩

/-- A client is registered by registrations, or was there before. -/
theorem Registry.exists_registration (clients : List Client) (registrations : List Registration) :
    ∃ later, afterAll (some clients) registrations = some later ∧ ∀ client ∈ later,
      client ∈ clients ∨ ∃ registration ∈ registrations, registration.client = client := by
  induction registrations generalizing clients with
  | nil => exact ⟨clients, rfl, fun client => Or.inl⟩
  | cons registration rest ih =>
    have step : afterAll (some clients) (registration :: rest) =
        afterAll (after (some clients) registration) rest := rfl
    rw [step, after_some]
    split
    · obtain ⟨later, same, origin⟩ := ih clients
      refine ⟨later, same, fun client member => (origin client member).imp_right ?_⟩
      exact fun ⟨found, inside, named⟩ => ⟨found, List.mem_cons_of_mem _ inside, named⟩
    · obtain ⟨later, same, origin⟩ := ih (clients ++ [registration.client])
      refine ⟨later, same, fun client member => ?_⟩
      rcases origin client member with member | ⟨found, inside, named⟩
      · rcases List.mem_append.mp member with member | member
        · exact Or.inl member
        · exact Or.inr ⟨registration, List.mem_cons_self, (List.mem_singleton.mp member).symm⟩
      · exact Or.inr ⟨found, List.mem_cons_of_mem _ inside, named⟩

/-- **Who presents credentials is authenticated, or refused as a client**, if every client can check
what is presented. -/
theorem Client.authenticate_decided {clients : List Client}
    (check : ∀ client ∈ clients, ∀ presented, ∃ accepted, client.accepts presented = .ok accepted)
    (credentials : Option Credentials) :
    (∃ client, authenticate (some clients) credentials = .ok client) ∨
      ∃ cause, authenticate (some clients) credentials = .error (.fault (.client cause)) := by
  unfold authenticate
  cases credentials.filter fun presented => presented.id ≠ "" with
  | none => exact Or.inr ⟨_, rfl⟩
  | some presented =>
    dsimp only [Registry.find, bind, Except.bind]
    cases found : clients.find? fun client => client.id = presented.id with
    | none => exact Or.inr ⟨_, rfl⟩
    | some client =>
      obtain ⟨accepted, checked⟩ := check client (List.mem_of_find?_eq_some found) presented.secret
      dsimp only
      rw [checked]
      cases accepted with
      | true => exact Or.inl ⟨client, rfl⟩
      | false => exact Or.inr ⟨_, rfl⟩

/-! ## Answering -/

theorem AuditLog.append_eq_map (audit : AuditLog) (record : AuditRecord) :
    (audit.append record).2 = audit.map (· ++ [record]) := by
  cases audit <;> rfl

namespace Server

variable {server : Server} {request : HttpRequest}

/-- The header in which a request presents who asks; it is empty without one. -/
def authorization (request : HttpRequest) : String :=
  (request.header? "authorization").getD ""

/-- **A request is decided**: its header and its credentials are read, it comes from a client or is
refused as one, and whenever the clock shows the time there is an answer. Then the audit log gains
the record that mirrors the answer. -/
structure Decides (server : Server) (request : HttpRequest) : Prop where
  read : ∃ pair, Credentials.parseBasic (authorization request) = .ok pair
  presented : ∀ formId formSecret, ∃ credentials,
    Credentials.ofRequest (authorization request) formId formSecret = .ok credentials
  decided : (∃ client, server.clientOf request = .ok client) ∨
    ∃ cause, server.clientOf request = .error (.fault (.client cause))
  answered : ∀ (clock : Clock) (readings : Readings), clock.readings = .ok readings →
    ∃ response record, (server.token clock request).result = .ok response ∧
      server.Mirrors request response record ∧
      (server.token clock request).server.audit = server.audit.map (· ++ [record])

/-- **A request breaks the endpoint**: its header cannot be read, so there is neither an answer nor
a record of it, whatever the clock shows. -/
structure Breaks (server : Server) (request : HttpRequest) : Prop where
  unread : Credentials.parseBasic (authorization request) = .error (.defect .base64NotAscii)
  unpresented : ∀ formId formSecret,
    Credentials.ofRequest (authorization request) formId formSecret =
      .error (.defect .base64NotAscii)
  undecided : server.clientOf request = .error (.defect .base64NotAscii)
  unanswered : ∀ clock : Clock,
    server.token clock request = ⟨.error (.defect .base64NotAscii), [], server⟩

/-- Who asks after registrations is authenticated, or refused as a client. -/
theorem clientOf_decided {registrations : List Registration}
    (fresh : server.registry = Registry.empty)
    (sound : ∀ registration ∈ registrations, registration.setting.IsSound)
    (plain : ¬ Credentials.IsForeign (authorization request)) :
    (∃ client, (server.registerAll registrations).clientOf request = .ok client) ∨
      ∃ cause, (server.registerAll registrations).clientOf request =
        .error (.fault (.client cause)) := by
  obtain ⟨setting, same⟩ := server.registerAll_eq registrations
  obtain ⟨clients, table, origin⟩ := Registry.exists_registration [] registrations
  obtain ⟨credentials, read, -⟩ := Credentials.exists_ofRequest plain
    (request.field? "client_id") (request.field? "client_secret")
  have bound : (server.registerAll registrations).clientOf request =
      Client.authenticate (some clients) credentials := by
    rw [authorization] at read
    rw [same, clientOf, read, fresh, Registry.empty, table]
    rfl
  rw [bound]
  refine Client.authenticate_decided (fun client member presented => ?_) credentials
  rcases origin client member with nothing | ⟨registration, inside, rfl⟩
  · cases nothing
  · exact Registration.exists_accepts (sound registration inside) presented

/-- The endpoint answers whoever is authenticated, or refused as a client. -/
theorem exists_result_token {clock : Clock} {readings : Readings}
    (reads : clock.readings = .ok readings)
    (decided : (∃ client, server.clientOf request = .ok client) ∨
      ∃ cause, server.clientOf request = .error (.fault (.client cause))) :
    ∃ response, (server.token clock request).result = .ok response := by
  unfold token
  rcases decided with ⟨client, found⟩ | ⟨cause, found⟩
  · rw [found]
    dsimp only
    rw [answerClient, reads]
    exact ⟨_, rfl⟩
  · rw [found]
    exact ⟨_, rfl⟩

theorem breaks_of_isForeign (foreign : Credentials.IsForeign (authorization request)) :
    server.Breaks request := by
  have unread := Credentials.ofRequest_of_isForeign foreign
  have undecided : server.clientOf request = .error (.defect .base64NotAscii) := by
    rw [clientOf]
    exact congrArg (· >>= Client.authenticate server.registry) (unread _ _)
  refine ⟨Credentials.parseBasic_eq_error_iff.mpr ⟨foreign, rfl⟩, unread, undecided,
    fun clock => ?_⟩
  rw [token, undecided]

/-- **Every request is answered unless its header is foreign.** After any registrations with sound
settings, a request whose header is not foreign is decided, whatever its header and its form hold;
one whose header is foreign breaks the endpoint. What is sent over HTTP and comes to the token
endpoint is answered as the endpoint answers it. -/
theorem answers_unless_foreign {registrations : List Registration}
    (fresh : server.registry = Registry.empty)
    (sound : ∀ registration ∈ registrations, registration.setting.IsSound)
    (request : HttpRequest) :
    (¬ Credentials.IsForeign (authorization request) →
        (server.registerAll registrations).Decides request) ∧
      (Credentials.IsForeign (authorization request) →
        (server.registerAll registrations).Breaks request) ∧
      ∀ clock sent, ComesToToken sent request →
        (server.registerAll registrations).answer clock sent =
          (server.registerAll registrations).token clock request := by
  refine ⟨fun plain => ?_, breaks_of_isForeign, fun clock sent => answer_eq_token⟩
  have decided := clientOf_decided fresh sound plain
  refine ⟨Credentials.exists_parseBasic plain, fun formId formSecret => ?_, decided,
    fun clock readings reads => ?_⟩
  · obtain ⟨credentials, read, -⟩ := Credentials.exists_ofRequest plain formId formSecret
    exact ⟨credentials, read⟩
  · obtain ⟨response, answered⟩ := exists_result_token reads decided
    rcases token_cases (server.registerAll registrations) clock request with
        ⟨cause, failed, -⟩ | ⟨response, record, answered, mirrors, audit⟩
    · rw [answered] at failed
      cases failed
    · rw [AuditLog.append_eq_map] at audit
      exact ⟨_, record, answered, mirrors, audit⟩

/-! ## A malformed header and a foreign one -/

/-- A server with tables of clients and of audit records. -/
def tabledSample : Server := { openSample with audit := AuditLog.empty }

/-- The client `app` names itself in the form, beside a header. -/
def signedRequest (header : String) : HttpRequest :=
  { tokenRequest "app" "code" with headers := [("authorization", header)] }

/-- A payload that is no base64 does no harm: the request is answered, and the audit log has its
record. With a letter beyond ASCII there is no answer, and the audit log stays empty. -/
theorem answers_unless_foreign_sample : tabledSample.registry = Registry.empty ∧
    (∀ registration ∈ twoClients, registration.setting.IsSound) ∧
    (∃ response record, ((tabledSample.registerAll twoClients).token (.still 1700000010)
        (signedRequest "Basic e")).result = .ok response ∧
      ((tabledSample.registerAll twoClients).token (.still 1700000010)
        (signedRequest "Basic e")).server.audit = some [record]) ∧
    (∃ cause, ((tabledSample.registerAll twoClients).token (.still 1700000010)
        (signedRequest "Basic é")).result = .error cause) ∧
      ((tabledSample.registerAll twoClients).token (.still 1700000010)
        (signedRequest "Basic é")).server.audit = some [] := by
  have fresh : tabledSample.registry = Registry.empty := rfl
  have sound : ∀ registration ∈ twoClients, registration.setting.IsSound := by
    have own : sample.secretSetting.IsSound := ⟨by decide, by decide, by decide⟩
    simp only [twoClients, List.forall_mem_cons]
    exact ⟨own, own, own, List.forall_mem_nil _⟩
  have empty : (tabledSample.registerAll twoClients).audit = some [] := by
    obtain ⟨setting, same⟩ := tabledSample.registerAll_eq twoClients
    rw [same]
    rfl
  have malformed : ¬ Credentials.IsForeign "Basic e" := by
    intro foreign
    have failed := Credentials.parseBasic_eq_error_iff.mpr ⟨foreign, rfl⟩
    revert failed
    decide +kernel
  have foreign : Credentials.IsForeign "Basic é" :=
    (Credentials.parseBasic_eq_error_iff.mp (by decide +kernel :
      Credentials.parseBasic "Basic é" = .error (.defect .base64NotAscii))).1
  have decides := (answers_unless_foreign fresh sound (signedRequest "Basic e")).1 malformed
  have breaks := (answers_unless_foreign fresh sound (signedRequest "Basic é")).2.1 foreign
  obtain ⟨response, record, answered, -, audit⟩ := decides.answered (.still 1700000010) _ rfl
  have unanswered := breaks.unanswered (.still 1700000010)
  rw [empty] at audit
  refine ⟨fresh, sound, ⟨response, record, answered, audit⟩, ?_, ?_⟩
  · rw [unanswered]
    exact ⟨_, rfl⟩
  · rw [unanswered]
    exact empty

/-- **A header that cannot be read**: a Basic header of Latin-1 characters whose payload is not
ASCII. -/
theorem unread_latin : Delivery.isLatin "Basic é" = true ∧
    Credentials.parseBasic "Basic é" = .error (.defect .base64NotAscii) ∧
    ∀ formId formSecret, Credentials.ofRequest "Basic é" formId formSecret =
      .error (.defect .base64NotAscii) := by
  have unread : Credentials.parseBasic "Basic é" = .error (.defect .base64NotAscii) := by
    decide +kernel
  exact ⟨by decide +kernel, unread, Credentials.ofRequest_of_isForeign
    (Credentials.parseBasic_eq_error_iff.mp unread).1⟩

end Server
end SealedGrant
