import SealedGrant.Bytes

/-! # UTF-8

The decoder is a machine over the bytes. Between characters it reads a first byte; after one it
knows how many continuation bytes are owed and the bounds of the next, so an overlong form, a
surrogate or a value beyond the last code point is refused at the first byte that rules it out.
What was read up to that byte counts as one invalid piece. The strict reading refuses a text with
an invalid piece, the lenient one shows a replacement character for each.
-/

namespace SealedGrant.Utf8

/-- A character whose continuation bytes are still owed. -/
structure Owed where
  /-- How many bytes are owed after the next one. -/
  later : Nat
  /-- The least value of the next byte. -/
  low : Nat
  /-- The greatest value of the next byte. -/
  high : Nat
  bits : Nat

/-- What a byte between characters begins. -/
inductive Lead where
  | char (c : Char)
  | owed (rest : Owed)
  | invalid

/-- Read the first byte of a character. -/
def lead (byte : UInt8) : Lead :=
  let b := byte.toNat
  if b < 0x80 then .char (Char.ofNat b)
  else if b < 0xc2 then .invalid
  else if b < 0xe0 then .owed ⟨0, 0x80, 0xbf, b - 0xc0⟩
  else if b = 0xe0 then .owed ⟨1, 0xa0, 0xbf, 0⟩
  else if b = 0xed then .owed ⟨1, 0x80, 0x9f, 0xd⟩
  else if b < 0xf0 then .owed ⟨1, 0x80, 0xbf, b - 0xe0⟩
  else if b = 0xf0 then .owed ⟨2, 0x90, 0xbf, 0⟩
  else if b < 0xf4 then .owed ⟨2, 0x80, 0xbf, b - 0xf0⟩
  else if b = 0xf4 then .owed ⟨2, 0x80, 0x8f, 4⟩
  else .invalid

def Owed.admits (owed : Owed) (byte : UInt8) : Bool :=
  owed.low ≤ byte.toNat && byte.toNat ≤ owed.high

/-- The bits after an admitted continuation byte. -/
def Owed.bitsWith (owed : Owed) (byte : UInt8) : Nat :=
  owed.bits * 64 + (byte.toNat - 0x80)

/-- The pieces of a byte string: a character, or `none` for an invalid piece. -/
def piecesFrom : Option Owed → Bytes → List (Option Char)
  | none, [] => []
  | some _, [] => [none]
  | none, byte :: rest =>
      match lead byte with
      | .char c => some c :: piecesFrom none rest
      | .owed owed => piecesFrom (some owed) rest
      | .invalid => none :: piecesFrom none rest
  | some owed, byte :: rest =>
      if owed.admits byte then
        match owed.later with
        | 0 => some (Char.ofNat (owed.bitsWith byte)) :: piecesFrom none rest
        | later + 1 => piecesFrom (some ⟨later, 0x80, 0xbf, owed.bitsWith byte⟩) rest
      else
        none :: match lead byte with
          | .char c => some c :: piecesFrom none rest
          | .owed owed => piecesFrom (some owed) rest
          | .invalid => none :: piecesFrom none rest

/-- Read a byte string of valid UTF-8. -/
def decodeChars? (bytes : Bytes) : Option (List Char) :=
  (piecesFrom none bytes).mapM id

/-- Read a byte string of valid UTF-8 as text. -/
def decode? (bytes : Bytes) : Option String :=
  (decodeChars? bytes).map String.ofList

/-- Read a byte string with a replacement character for every invalid piece. -/
def decodeLenient (bytes : Bytes) : String :=
  String.ofList ((piecesFrom none bytes).map fun piece => piece.getD (Char.ofNat 0xfffd))

def encodeChars (chars : List Char) : Bytes :=
  chars.flatMap String.utf8EncodeChar

def encode (text : String) : Bytes :=
  encodeChars text.toList

end SealedGrant.Utf8
