import SealedGrant.Fault
import SealedGrant.Log
import SealedGrant.Password.Bcrypt

/-! # Registered clients

A client is registered once, by its id; registering it again changes nothing. A client with a
secret is confidential, and only the hash of the secret is kept.
-/

namespace SealedGrant

/-- A registered client. -/
structure Client where
  id : String
  redirectUris : List String
  /-- The hash of the secret; none for a public client. -/
  secretHash : Option String
  deriving DecidableEq, Repr

def Client.isConfidential (client : Client) : Bool :=
  client.secretHash.isSome

/-- The registered clients in the order of their registration; none when their table does not
exist. -/
abbrev Registry := Option (List Client)

namespace Registry

def empty : Registry := some []

def find (registry : Registry) (id : String) : Except Failure (Option Client) :=
  match registry with
  | some clients => .ok (clients.find? fun client => client.id = id)
  | none => .error (.defect .noTable)

def clients (registry : Registry) : Except Failure (List Client) :=
  match registry with
  | some clients => .ok clients
  | none => .error (.defect .noTable)

/-- The client of an id, its redirect URIs and a secret; an empty secret counts as none. -/
def newClient (setting : Bcrypt.Setting) (id : String) (redirectUris : List String)
    (secret : Option String) : Client :=
  ⟨id, redirectUris, (secret.filter (· ≠ "")).map (Bcrypt.hash setting)⟩

/-- The log entry about a new registration. -/
def entry (client : Client) : LogEntry where
  source := .clients
  level := .info
  text := "Registered client: " ++ client.id ++ " (confidential=" ++
    (if client.isConfidential then "True" else "False") ++ ")"
  fields := []

/-- What came of a registration. -/
structure Outcome where
  client : Client
  log : List LogEntry
  registry : Registry

/-- Register a client unless its id is registered. -/
def register (registry : Registry) (setting : Bcrypt.Setting) (id : String)
    (redirectUris : List String) (secret : Option String) : Except Failure Outcome :=
  match registry with
  | none => .error (.defect .noTable)
  | some clients =>
      match clients.find? fun client => client.id = id with
      | some client => .ok ⟨client, [], registry⟩
      | none =>
          let client := newClient setting id redirectUris secret
          .ok ⟨client, [entry client], some (clients ++ [client])⟩

end Registry
end SealedGrant
