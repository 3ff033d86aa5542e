import SealedGrant.Fault
import SealedGrant.Text.Utf8

/-! # Sealed envelopes

An envelope is a header in the clear, a nonce and a sealed body. The header holds a version, the id
of the key and an expiry time; it is bound to the body, so neither can be exchanged.

    version (1) | id length (1) | id (UTF-8) | expiry (8) | nonce (12) | body with tag
-/

namespace SealedGrant

/-- The parts of an envelope. -/
structure Envelope where
  keyId : Bytes
  /-- The time from which the envelope stays closed, in seconds. -/
  expiry : Nat
  nonce : Bytes
  body : Bytes
  deriving DecidableEq, Repr

namespace Envelope

def version : UInt8 := 1

/-- The number of bytes that hold the expiry time. -/
def expiryLength : Nat := 8

/-- The number of bytes of a nonce. -/
def nonceLength : Nat := 12

/-- The number of bytes that a body has at least: those of its tag. -/
def leastBodyLength : Nat := 16

def header (keyId : Bytes) (expiry : Nat) : Bytes :=
  version :: UInt8.ofNat keyId.length :: keyId ++ Bytes.ofNat expiryLength expiry

def write (envelope : Envelope) : Bytes :=
  header envelope.keyId envelope.expiry ++ envelope.nonce ++ envelope.body

def read : Bytes → Except SealFault Envelope
  | first :: idLength :: rest =>
      if first ≠ version then .error .unsupportedVersion
      else
        let count := idLength.toNat
        if rest.length < count + expiryLength + nonceLength + leastBodyLength then .error .truncated
        else
          let afterId := rest.drop count
          let afterExpiry := afterId.drop expiryLength
          .ok {
            keyId := rest.take count
            expiry := Bytes.toNat (afterId.take expiryLength)
            nonce := afterExpiry.take nonceLength
            body := afterExpiry.drop nonceLength }
  | _ => .error .unsupportedVersion

end Envelope
end SealedGrant
