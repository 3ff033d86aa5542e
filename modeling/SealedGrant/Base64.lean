import SealedGrant.Bytes

/-! # Base64 text

Two readers stand beside one encoder. The unpadded URL-safe form accepts exactly what the encoder
writes, so no two texts stand for the same bytes. The padded form is the one of HTTP Basic
credentials: it asks for the right padding but tolerates non-zero trailing bits.
-/

namespace SealedGrant.Base64

/-- The two digits in which the common alphabets differ. -/
structure Alphabet where
  digit62 : Char
  digit63 : Char

def Alphabet.url : Alphabet := ⟨'-', '_'⟩

/-- The alphabet of mail and HTTP headers. -/
def Alphabet.standard : Alphabet := ⟨'+', '/'⟩

/-- The digit for a value below 64. -/
def Alphabet.digit (alphabet : Alphabet) (value : Nat) : Char :=
  if value < 26 then Char.ofNat (65 + value)
  else if value < 52 then Char.ofNat (71 + value)
  else if value < 62 then Char.ofNat (value - 4)
  else if value = 62 then alphabet.digit62
  else alphabet.digit63

def Alphabet.value? (alphabet : Alphabet) (c : Char) : Option Nat :=
  if 'A' ≤ c ∧ c ≤ 'Z' then some (c.toNat - 65)
  else if 'a' ≤ c ∧ c ≤ 'z' then some (c.toNat - 71)
  else if '0' ≤ c ∧ c ≤ '9' then some (c.toNat + 4)
  else if c = alphabet.digit62 then some 62
  else if c = alphabet.digit63 then some 63
  else none

/-- Three bytes become four six-bit values; a short last group leaves its low bits zero. -/
def sextets : Bytes → List Nat
  | [] => []
  | [a] => [a.toNat / 4, a.toNat % 4 * 16]
  | [a, b] => [a.toNat / 4, a.toNat % 4 * 16 + b.toNat / 16, b.toNat % 16 * 4]
  | a :: b :: c :: rest =>
      a.toNat / 4 :: (a.toNat % 4 * 16 + b.toNat / 16) :: (b.toNat % 16 * 4 + c.toNat / 64) ::
        c.toNat % 64 :: sextets rest

/-- Four six-bit values become three bytes; the low bits of a short last group are dropped. -/
def ofSextets : List Nat → Bytes
  | a :: b :: c :: d :: rest =>
      UInt8.ofNat (a * 4 + b / 16) :: UInt8.ofNat (b % 16 * 16 + c / 4) ::
        UInt8.ofNat (c % 4 * 64 + d) :: ofSextets rest
  | [a, b, c] => [UInt8.ofNat (a * 4 + b / 16), UInt8.ofNat (b % 16 * 16 + c / 4)]
  | [a, b] => [UInt8.ofNat (a * 4 + b / 16)]
  | _ => []

/-- The digits of a byte string, without padding. -/
def encodeDigits (alphabet : Alphabet) (bytes : Bytes) : List Char :=
  (sextets bytes).map alphabet.digit

def encodeUrl (bytes : Bytes) : String :=
  String.ofList (encodeDigits .url bytes)

/-- Why a text is no unpadded URL-safe form. -/
inductive UrlError where
  /-- A character is no digit, or the length leaves one digit over. -/
  | notDigits
  /-- Bits that stand for no byte are set. -/
  | nonCanonical
  deriving DecidableEq, Repr

def UrlError.message : UrlError → String
  | .notDigits => "not unpadded base64url"
  | .nonCanonical => "non-canonical base64url"

/-- Read unpadded URL-safe text: the text must be the one that the encoder writes. -/
def decodeUrl (text : String) : Except UrlError Bytes :=
  match text.toList.mapM Alphabet.url.value? with
  | none => .error .notDigits
  | some values =>
    if values.length % 4 = 1 then .error .notDigits
    else
      let bytes := ofSextets values
      if encodeUrl bytes = text then .ok bytes else .error .nonCanonical

/-- Standard text with padding to a multiple of four digits. -/
def encodePadded (bytes : Bytes) : String :=
  let digits := encodeDigits .standard bytes
  String.ofList (digits ++ List.replicate ((4 - digits.length % 4) % 4) '=')

/-- Whether so many padding characters may follow so many digits: a last group of two or three
digits has exactly its padding, complete groups may be followed by any. -/
def paddingFits (digits padding : Nat) : Bool :=
  match digits % 4 with
  | 0 => digits ≠ 0 || padding = 0
  | 2 => padding = 2
  | 3 => padding = 1
  | _ => false

def decodePadded? (text : String) : Option Bytes :=
  let digits := text.toList.takeWhile (· ≠ '=')
  let padding := text.toList.dropWhile (· ≠ '=')
  if padding.all (· = '=') && paddingFits digits.length padding.length then
    (digits.mapM Alphabet.standard.value?).map ofSextets
  else none

end SealedGrant.Base64
