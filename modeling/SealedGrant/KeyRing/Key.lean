import SealedGrant.Bytes
import SealedGrant.Text.Quoted
import SealedGrant.Text.Utf8

/-! # Sealing keys

A sealing key has an id of 1 to 255 bytes, a secret of one of three lengths and a role: one key of
a ring seals, the others only open what they sealed before.
-/

namespace SealedGrant

/-- What a sealing key is used for. -/
inductive KeyRole where
  | current
  | decryptOnly
  deriving DecidableEq, Repr

namespace KeyRole

def name : KeyRole → String
  | .current => "current"
  | .decryptOnly => "decrypt-only"

def ofName? : String → Option KeyRole
  | "current" => some .current
  | "decrypt-only" => some .decryptOnly
  | _ => none

theorem ofName?_name (role : KeyRole) : ofName? role.name = some role := by
  cases role <;> rfl

end KeyRole

/-- Why a key or a set of keys is refused. -/
inductive KeyFault where
  /-- The id is empty or too long. -/
  | idLength
  | secretLength (id : String)
  | unknownRole (role : String)
  /-- Not exactly one key is the current one. -/
  | notOneCurrent
  | duplicate (id : String)
  /-- A key that shall become the current one has another role. -/
  | rotationRole (role : KeyRole)
  | retiresCurrent
  deriving DecidableEq, Repr

def KeyFault.message : KeyFault → String
  | .idLength => "sealer key id must be 1..255 bytes"
  | .secretLength id => "sealer key " ++ Text.quote id ++ " must be 128, 192 or 256 bits"
  | .unknownRole role => "unknown sealer key role " ++ Text.quote role
  | .notOneCurrent => "exactly one sealer key must have role " ++ Text.quote KeyRole.current.name
  | .duplicate id => "duplicate sealer key id " ++ Text.quote id
  | .rotationRole role =>
      "rotation needs a key with role " ++ Text.quote KeyRole.current.name ++ ", got " ++
        Text.quote role.name
  | .retiresCurrent => "cannot retire the current sealer key"

/-- Whether a text may be a key id: its encoding has a length that one byte can count. -/
def isKeyId (id : String) : Bool :=
  id ≠ "" && (Utf8.encode id).length ≤ 255

/-- Whether a secret has 128, 192 or 256 bits. -/
def isKeySecret (secret : Bytes) : Bool :=
  [16, 24, 32].contains secret.length

/-- A sealing key. -/
structure SealingKey where
  id : String
  secret : Bytes
  role : KeyRole
  id_valid : isKeyId id = true
  secret_valid : isKeySecret secret = true
  deriving DecidableEq

namespace SealingKey

/-- Make a key of its parts: id, secret and the name of the role, checked in this order. -/
def make (id : String) (secret : Bytes) (role : String) : Except KeyFault SealingKey :=
  if id_valid : isKeyId id = true then
    if secret_valid : isKeySecret secret = true then
      match KeyRole.ofName? role with
      | some role => .ok ⟨id, secret, role, id_valid, secret_valid⟩
      | none => .error (.unknownRole role)
    else .error (.secretLength id)
  else .error .idLength

/-- The same key as the current one of a ring. -/
def asCurrent (key : SealingKey) : SealingKey :=
  { key with role := .current }

/-- What is displayed of a key: never its secret. -/
def summary (key : SealingKey) : String :=
  "SealerKey(kid=" ++ Text.quote key.id ++ ", role=" ++ Text.quote key.role.name ++ ")"

theorem make_self (key : SealingKey) : make key.id key.secret key.role.name = .ok key := by
  obtain ⟨id, secret, role, id_valid, secret_valid⟩ := key
  simp [make, id_valid, secret_valid, KeyRole.ofName?_name]

end SealingKey
end SealedGrant
