import SealedGrant.Der
import SealedGrant.Digest.Sha256

/-! # RSA keys and their files

A private key is kept in a file of armoured text. Its id is derived from the public half alone, so
it stays the same however the private half is stored.
-/

namespace SealedGrant.Rsa

/-- The public half of a key. -/
structure PublicKey where
  modulus : Nat
  exponent : Nat
  deriving DecidableEq, Repr, Inhabited

/-- A private key, with the values that speed up its use. -/
structure PrivateKey where
  publicKey : PublicKey
  exponent : Nat
  prime1 : Nat
  prime2 : Nat
  exponent1 : Nat
  exponent2 : Nat
  coefficient : Nat
  deriving DecidableEq, Repr, Inhabited

def algorithmPath : Bytes :=
  [0x2a, 0x86, 0x48, 0x86, 0xf7, 0x0d, 0x01, 0x01, 0x01]

/-- The algorithm field of RSA keys, which has no parameters. -/
def algorithm : Der :=
  .sequence [.objectId algorithmPath, .null]

/-- The published form of a public key. -/
def PublicKey.toDer (key : PublicKey) : Der :=
  .sequence [algorithm, .bits (Der.sequence [.integer key.modulus, .integer key.exponent]).write]

/-- The id of a key: the first sixteen hexadecimal digits of the digest of its published form. -/
def PublicKey.id (key : PublicKey) : String :=
  Bytes.toHex ((Sha256.digest key.toDer.write).take 8)

/-- The stored form of a private key. -/
def PrivateKey.toDer (key : PrivateKey) : Der :=
  let fields := [0, key.publicKey.modulus, key.publicKey.exponent, key.exponent, key.prime1,
    key.prime2, key.exponent1, key.exponent2, key.coefficient]
  .sequence [.integer 0, algorithm, .octets (Der.sequence (fields.map .integer)).write]

/-- Why a file gives no signing key. -/
inductive FileError where
  | malformed
  | otherAlgorithm
  deriving DecidableEq, Repr

/-- The wording of a file error, for the file at a path. -/
def FileError.message (path : String) : FileError → String
  | .malformed => "signing key at " ++ path ++ " cannot be read"
  | .otherAlgorithm => "signing key at " ++ path ++ " is not an RSA private key"

def integer? : Der → Option Nat
  | .integer value => some value
  | _ => none

def PrivateKey.ofFields? (content : Bytes) : Option PrivateKey :=
  match Der.read? content with
  | some (.sequence items) =>
      match items.mapM integer? with
      | some [_, modulus, publicExponent, exponent, prime1, prime2, exponent1, exponent2,
          coefficient] =>
          some ⟨⟨modulus, publicExponent⟩, exponent, prime1, prime2, exponent1, exponent2,
            coefficient⟩
      | _ => none
  | _ => none

/-- Read the stored form of a private key. -/
def PrivateKey.ofDer (der : Der) : Except FileError PrivateKey :=
  match der with
  | .sequence (.integer _ :: .sequence (.objectId path :: _) :: .octets content :: _) =>
      if path = algorithmPath then
        match ofFields? content with
        | some key => .ok key
        | none => .error .malformed
      else .error .otherAlgorithm
  | _ => .error .malformed

/-- The sort of armoured text that key files are. -/
def fileSort : String := "PRIVATE KEY"

def PrivateKey.toText (key : PrivateKey) : String :=
  Armor.write fileSort key.toDer.write

/-- Read the file text of a key. -/
def PrivateKey.ofText (text : String) : Except FileError PrivateKey :=
  match (Armor.read? fileSort text).bind Der.read? with
  | some der => ofDer der
  | none => .error .malformed

/-- What came of looking for a key file. -/
structure Loaded where
  key : PrivateKey
  /-- The text that is now in the file, if there is a file. -/
  file : Option String
  deriving DecidableEq, Repr

/-- Load the key of a file; without a file take a generated key and save it if the place can be
written to. -/
def load (file : Option String) (generated : PrivateKey) (writable : Bool) :
    Except FileError Loaded :=
  match file with
  | some text => (PrivateKey.ofText text).map (⟨·, some text⟩)
  | none => .ok ⟨generated, if writable then some generated.toText else none⟩

end SealedGrant.Rsa
