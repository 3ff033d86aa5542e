import SealedGrant.Rsa.Key

/-! # RSA signatures over SHA-256 digests

The digest is framed to the length of the modulus and raised to the private exponent.
-/

namespace SealedGrant.Rsa

/-- The remainder of a power, by repeated squaring. -/
def powMod (base exponent modulus : Nat) : Nat :=
  if exponent = 0 then 1 % modulus
  else
    let root := powMod (base * base % modulus) (exponent / 2) modulus
    if exponent % 2 = 1 then root * base % modulus else root
  termination_by exponent

def digestPath : Bytes :=
  [0x60, 0x86, 0x48, 0x01, 0x65, 0x03, 0x04, 0x02, 0x01]

/-- A message framed to a length: its digest with the name of the digest algorithm, behind
padding. -/
def framed (length : Nat) (message : Bytes) : Bytes :=
  let digest : Der := .sequence
    [.sequence [.objectId digestPath, .null], .octets (Sha256.digest message)]
  let tail := digest.write
  0x00 :: 0x01 :: List.replicate (length - tail.length - 3) 0xff ++ 0x00 :: tail

def PrivateKey.sign (key : PrivateKey) (message : Bytes) : Bytes :=
  let modulus := key.publicKey.modulus
  let length := modulus.log2 / 8 + 1
  Bytes.ofNat length (powMod (Bytes.toNat (framed length message)) key.exponent modulus)

end SealedGrant.Rsa
