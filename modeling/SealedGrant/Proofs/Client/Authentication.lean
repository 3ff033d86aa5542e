import Mathlib
import SealedGrant.Client.Authentication
import SealedGrant.Proofs.Client.BasicHeader
import SealedGrant.Proofs.Http.Arrival

/-! # Who is authenticated

After any registrations, the client of an id is the one of its first registration
(`SealedGrant.Registry.find_afterAll`). A client is authenticated exactly when its id is presented
and, unless its first registration had no secret, a secret that this registration accepts
(`SealedGrant.Client.authenticate_afterAll_iff`).
-/

namespace SealedGrant

/-! ## Registrations -/

/-- A registration that is wanted, and how its secret is hashed. -/
structure Registration where
  setting : Bcrypt.Setting
  id : String
  redirectUris : List String
  secret : Option String

namespace Registration

/-- The secret that counts: an empty one is none. -/
def secret? (registration : Registration) : Option String :=
  registration.secret.filter (· ≠ "")

/-- The client of a registration that is made. -/
def client (registration : Registration) : Client :=
  Registry.newClient registration.setting registration.id registration.redirectUris
    registration.secret

/-- The first registration of an id. -/
def first? (registrations : List Registration) (id : String) : Option Registration :=
  registrations.find? fun registration => registration.id = id

/-- **A registration accepts what is presented as its secret**: anything if it has none, and else a
text that is not empty and matches the hash of its own. -/
def Accepts (registration : Registration) (presented : Option String) : Prop :=
  ∀ own, registration.secret? = some own → ∃ plain, presented = some plain ∧ plain ≠ "" ∧
    Bcrypt.verify? plain (Bcrypt.hash registration.setting own) = some true

/-- **Registrations admit a client** by the id and the secret that are presented: the id is the
client's and is not empty, and its first registration accepts the secret. -/
def Admits (registrations : List Registration) (presented : String × Option String)
    (id : String) : Prop :=
  id ≠ "" ∧ presented.1 = id ∧
    ∃ registration, first? registrations id = some registration ∧ registration.Accepts presented.2

variable {registrations : List Registration} {id : String} {registration : Registration}

theorem id_of_first? (found : first? registrations id = some registration) :
    registration.id = id := by
  simpa using List.find?_some found

/-- **Registering a client again changes nothing.** -/
theorem first?_append (found : first? registrations id = some registration)
    (more : List Registration) : first? (registrations ++ more) id = some registration := by
  rw [first?, List.find?_append, ← first?, found]
  rfl

theorem isConfidential_client (registration : Registration) :
    registration.client.isConfidential = registration.secret?.isSome := by
  simp [client, Registry.newClient, Client.isConfidential, secret?]

/-- The client of a registration accepts what the registration accepts. -/
theorem accepts_client_iff {presented : Option String} :
    registration.client.accepts presented = .ok true ↔ registration.Accepts presented := by
  have hashed : registration.client.secretHash =
      registration.secret?.map (Bcrypt.hash registration.setting) := rfl
  unfold Client.accepts Accepts
  rw [hashed]
  cases registration.secret? with
  | none => simp
  | some own =>
    simp only [Option.map_some, Option.some.injEq, forall_eq']
    cases given : presented.filter (· ≠ "") with
    | none =>
      simp only [Except.ok.injEq, Bool.false_eq_true, false_iff]
      rintro ⟨plain, rfl, filled, -⟩
      simp [filled] at given
    | some plain =>
      obtain ⟨rfl, filled⟩ := Option.filter_eq_some_iff.mp given
      have filled : plain ≠ "" := of_decide_eq_true filled
      simp only [Option.some.injEq, exists_eq_left', filled, ne_eq, not_false_eq_true, true_and]
      cases Bcrypt.verify? plain (Bcrypt.hash registration.setting own) with
      | none => simp
      | some matched => simp

end Registration

namespace Registry

/-- The registry after a registration that is wanted. -/
def after (registry : Registry) (registration : Registration) : Registry :=
  match registry.register registration.setting registration.id registration.redirectUris
      registration.secret with
  | .ok outcome => outcome.registry
  | .error _ => registry

/-- The registry after registrations, one after the other. -/
def afterAll (registry : Registry) (registrations : List Registration) : Registry :=
  registrations.foldl after registry

theorem after_some (clients : List Client) (registration : Registration) :
    after (some clients) registration =
      if (clients.find? fun client => client.id = registration.id).isSome then some clients
      else some (clients ++ [registration.client]) := by
  unfold after register
  dsimp only
  cases clients.find? fun client => client.id = registration.id <;> rfl

/-- One registration adds its client under its id, if there is none. -/
theorem find_after (clients : List Client) (registration : Registration) (id : String) :
    ∃ later, after (some clients) registration = some later ∧
      (later.find? fun client => client.id = id) =
        (clients.find? fun client => client.id = id).or
          (if registration.id = id then some registration.client else none) := by
  have named : registration.client.id = registration.id := rfl
  rw [after_some]
  split
  · next present =>
    refine ⟨clients, rfl, ?_⟩
    by_cases same : registration.id = id
    · subst same
      rw [if_pos rfl]
      obtain ⟨found, known⟩ := Option.isSome_iff_exists.mp present
      rw [known]
      rfl
    · rw [if_neg same, Option.or_none]
  · refine ⟨_, rfl, ?_⟩
    rw [List.find?_append, List.find?_singleton, named]
    simp only [decide_eq_true_eq]

/-- **The client of an id** is the one that was there, or else the one of the first registration. -/
theorem find_afterAll (clients : List Client) (registrations : List Registration) (id : String) :
    (afterAll (some clients) registrations).find id = .ok
      ((clients.find? fun client => client.id = id).or
        ((Registration.first? registrations id).map Registration.client)) := by
  induction registrations generalizing clients with
  | nil => simp [afterAll, find, Registration.first?]
  | cons registration rest ih =>
    obtain ⟨later, registered, lookup⟩ := find_after clients registration id
    have unfolded : afterAll (some clients) (registration :: rest) = afterAll (some later) rest :=
      congrArg (afterAll · rest) registered
    rw [unfolded, ih, lookup, Option.or_assoc, Registration.first?, Registration.first?,
      List.find?_cons]
    by_cases same : registration.id = id <;> simp [same]

end Registry

/-! ## Credentials -/

namespace Credentials

/-- A header of ASCII characters is not foreign. -/
theorem not_isForeign_of_isAscii {header : String} (ascii : Text.IsAscii header) :
    ¬ IsForeign header := by
  rintro ⟨payload, ⟨before, scheme, between, after, parts, -⟩, c, member, large⟩
  have inside : c ∈ header.toList := by
    rw [parts]
    simp [member]
  have small := ascii c inside
  omega

/-- The id and the secret that are presented: those of the Basic header if it holds a pair, and else
those of the form, without the blanks around the id. -/
def presented (header : String) (formId formSecret : Option String) : String × Option String :=
  match parseBasic header with
  | .ok (some (id, secret)) => (id, some secret)
  | .ok none | .error _ => (Text.trim (formId.getD ""), formSecret)

/-- **What is read of a request is what it presents**, if the id is not empty: credentials are read
of every request whose header is not foreign. -/
theorem exists_ofRequest {header : String} (plain : ¬ IsForeign header)
    (formId formSecret : Option String) : ∃ credentials,
      ofRequest header formId formSecret = .ok credentials ∧
        (credentials.filter fun found => found.id ≠ "") =
          (some ⟨(presented header formId formSecret).1,
            (presented header formId formSecret).2⟩ : Option Credentials).filter
              fun found => found.id ≠ "" := by
  obtain ⟨pair, parsed⟩ := exists_parseBasic plain
  unfold ofRequest presented
  rw [parsed]
  cases pair with
  | some pair => exact ⟨_, rfl, rfl⟩
  | none =>
    have blank : Text.trim "" = "" := rfl
    cases given : formId.filter (· ≠ "") with
    | none =>
      refine ⟨none, rfl, ?_⟩
      have empty : formId.getD "" = "" := by
        cases formId with
        | none => rfl
        | some id => simpa using given
      rw [empty, blank]
      rfl
    | some id =>
      obtain ⟨rfl, -⟩ := Option.filter_eq_some_iff.mp given
      exact ⟨_, rfl, rfl⟩

end Credentials

namespace Client

/-- **Who is authenticated**: the registered client of the id that is presented, if it accepts the
secret. -/
theorem authenticate_eq_ok_iff {registry : Registry} {credentials : Option Credentials}
    {client : Client} : authenticate registry credentials = .ok client ↔
      ∃ presented, credentials.filter (fun found => found.id ≠ "") = some presented ∧
        registry.find presented.id = .ok (some client) ∧
        client.accepts presented.secret = .ok true := by
  unfold authenticate
  cases credentials.filter fun found => found.id ≠ "" with
  | none => simp
  | some presented =>
    simp only [Option.some.injEq, exists_eq_left']
    cases registry.find presented.id with
    | error cause => simp [bind, Except.bind]
    | ok found =>
      cases found with
      | none => simp [bind, Except.bind, throw, throwThe, MonadExceptOf.throw]
      | some known =>
        simp only [bind, Except.bind, Except.ok.injEq, Option.some.injEq]
        cases accepted : known.accepts presented.secret with
        | error cause =>
          constructor
          · intro passed
            cases passed
          · rintro ⟨rfl, passed⟩
            rw [accepted] at passed
            cases passed
        | ok matched =>
          cases matched with
          | true =>
            constructor
            · intro passed
              cases passed
              exact ⟨rfl, accepted⟩
            · rintro ⟨rfl, -⟩
              rfl
          | false =>
            constructor
            · intro passed
              cases passed
            · rintro ⟨rfl, passed⟩
              rw [accepted] at passed
              cases passed

/-- **After registrations** the client of the first registration of the presented id is
authenticated, if this registration accepts the secret. -/
theorem authenticate_afterAll_iff {registrations : List Registration}
    {credentials : Option Credentials} {presented : Credentials}
    (read : credentials.filter (fun found => found.id ≠ "") =
      (some presented).filter fun found => found.id ≠ "") {client : Client} :
    authenticate (Registry.afterAll Registry.empty registrations) credentials = .ok client ↔
      presented.id ≠ "" ∧ ∃ registration,
        Registration.first? registrations presented.id = some registration ∧
        registration.client = client ∧ registration.Accepts presented.secret := by
  have lookup := Registry.find_afterAll [] registrations presented.id
  rw [List.find?_nil, Option.none_or] at lookup
  rw [authenticate_eq_ok_iff, read]
  constructor
  · rintro ⟨found, given, known, accepted⟩
    obtain ⟨same, filled⟩ := Option.filter_eq_some_iff.mp given
    obtain rfl := Option.some.inj same
    rw [Registry.empty, lookup] at known
    obtain ⟨registration, first, rfl⟩ := Option.map_eq_some_iff.mp (Except.ok.inj known)
    exact ⟨of_decide_eq_true filled, registration, first, rfl,
      Registration.accepts_client_iff.mp accepted⟩
  · rintro ⟨filled, registration, first, rfl, accepts⟩
    refine ⟨presented, Option.filter_eq_some_iff.mpr ⟨rfl, decide_eq_true filled⟩, ?_,
      Registration.accepts_client_iff.mpr accepts⟩
    rw [Registry.empty, lookup, first]
    rfl

end Client
end SealedGrant
