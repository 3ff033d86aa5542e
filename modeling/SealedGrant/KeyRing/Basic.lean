import SealedGrant.Cipher.Gcm
import SealedGrant.KeyRing.Envelope
import SealedGrant.KeyRing.Key
import SealedGrant.Number.Basic
import SealedGrant.Supply

/-! # Key rings

A key ring holds the current key, which seals, and a table of the secrets that open, the current
one among them. Rotation makes a new key the current one and keeps the old secret; retiring a key
closes for good what it sealed. A refused change leaves the ring as it was.
-/

namespace SealedGrant

/-- The keys of a service. -/
structure KeyRing where
  current : SealingKey
  /-- The secrets by key id, in the order in which they came. -/
  table : List (String × Bytes)

namespace KeyRing

def secret? (ring : KeyRing) (id : String) : Option Bytes :=
  ring.table.lookup id

/-- The ids of the keys that open. -/
def ids (ring : KeyRing) : List String :=
  ring.table.map Prod.fst

/-- Add the secrets of keys to a table; an id may not occur twice. -/
def addSecrets (table : List (String × Bytes)) :
    List SealingKey → Except KeyFault (List (String × Bytes))
  | [] => .ok table
  | key :: rest =>
      if (table.lookup key.id).isSome then .error (.duplicate key.id)
      else addSecrets (table ++ [(key.id, key.secret)]) rest

/-- The ring of some keys, of which exactly one is the current one. -/
def ofKeys (keys : List SealingKey) : Except KeyFault KeyRing :=
  match keys.filter fun key => key.role = .current with
  | [current] => (addSecrets [] keys).map (⟨current, ·⟩)
  | _ => .error .notOneCurrent

/-- Make a new key the current one. -/
def rotate (ring : KeyRing) (key : SealingKey) : Except KeyFault KeyRing :=
  if key.role ≠ .current then .error (.rotationRole key.role)
  else if (ring.secret? key.id).isSome then .error (.duplicate key.id)
  else .ok ⟨key, ring.table ++ [(key.id, key.secret)]⟩

/-- Drop a key that only opens; dropping an unknown key changes nothing. -/
def retire (ring : KeyRing) (id : String) : Except KeyFault KeyRing :=
  if id = ring.current.id then .error .retiresCurrent
  else .ok { ring with table := ring.table.filter fun entry => entry.1 ≠ id }

/-- The least number that does not fit eight bytes: 2^64. -/
def expiryLimit : Nat := 0x10000000000000000

/-- The value of an expiry time: negative ones, those without whole seconds and those beyond eight
bytes are refused. -/
def expiryValue (expiry : Number) : Except Defect Nat :=
  if expiry.lt 0 then .error .negativeExpiry
  else
    match expiry.whole with
    | .error cause => .error (.arithmetic cause)
    | .ok seconds =>
        if seconds.toNat < expiryLimit then .ok seconds.toNat else .error .expiryTooLarge

/-- Close a plaintext in an envelope under the current key until an expiry time. -/
def wrapBytes (source : RandomSource) (ring : KeyRing) (plain : Bytes) (expiry : Number) :
    Draw Defect Bytes := do
  let seconds ← Draw.ofResult (expiryValue expiry)
  let nonce ← drawBytes source Envelope.nonceLength
  match ring.secret? ring.current.id with
  | none => throw .absent
  | some secret =>
      let keyId := Utf8.encode ring.current.id
      let body := Gcm.encrypt secret nonce plain (Envelope.header keyId seconds)
      return (Envelope.mk keyId seconds nonce body).write

def wrap (source : RandomSource) (ring : KeyRing) (plain : Bytes) (expiry : Number) :
    Draw Defect String := do
  return Base64.encodeUrl (← wrapBytes source ring plain expiry)

/-- Open an envelope at a time. Its key is looked up before its expiry is looked at, and nothing is
decrypted once it has expired. -/
def unwrapBytes (ring : KeyRing) (skew now : Number) (bytes : Bytes) : Except SealFault Bytes := do
  let envelope ← Envelope.read bytes
  match Utf8.decode? envelope.keyId with
  | none => throw .malformedKeyId
  | some id =>
      match ring.secret? id with
      | none => throw (.unknownKey id)
      | some secret =>
          if (Number.add (.int envelope.expiry) skew).le now then throw .expired
          else
            let header := Envelope.header envelope.keyId envelope.expiry
            match Gcm.decrypt? secret envelope.nonce envelope.body header with
            | some plain => return plain
            | none => throw .tampered

/-- Open the text of an envelope at a time. Only canonical base64url is read, so every envelope has
one text. -/
def unwrap (ring : KeyRing) (skew now : Number) (text : String) : Except SealFault Bytes :=
  match Base64.decodeUrl text with
  | .ok bytes => unwrapBytes ring skew now bytes
  | .error _ => .error .notBase64

end KeyRing
end SealedGrant
