import SealedGrant.Client.Credentials
import SealedGrant.Client.Registry

/-! # Client authentication

A client is known by a registered id; a confidential client also has to present its secret.
-/

namespace SealedGrant.Client

/-- Whether a presented secret is the one of a client. A public client has none to present. -/
def accepts (client : Client) (secret : Option String) : Except Failure Bool :=
  match client.secretHash with
  | none => .ok true
  | some stored =>
      match secret.filter (· ≠ "") with
      | none => .ok false
      | some plain =>
          match Bcrypt.verify? plain stored with
          | some matched => .ok matched
          | none => .error (.defect .malformedHash)

def authenticate (registry : Registry) (credentials : Option Credentials) :
    Except Failure Client :=
  match credentials.filter fun presented => presented.id ≠ "" with
  | none => .error (.fault (.client .noClientId))
  | some presented => do
      match ← registry.find presented.id with
      | none => throw (.fault (.client (.unknown presented.id)))
      | some client =>
          if ← client.accepts presented.secret then return client
          else throw (.fault (.client (.wrongSecret presented.id)))

end SealedGrant.Client
