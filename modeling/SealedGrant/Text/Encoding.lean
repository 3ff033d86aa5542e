import SealedGrant.Text.Utf8

/-! # Detecting the encoding of JSON bytes

JSON text begins with an ASCII character, so the zero bytes among the first four tell the Unicode
encoding when no byte-order mark does.
-/

namespace SealedGrant.Text

/-- The order of the bytes of a code unit. -/
inductive ByteOrder where
  | bigEndian
  | littleEndian
  deriving DecidableEq, Repr

/-- An encoding of JSON text. -/
inductive Encoding where
  | utf8
  | utf16 (order : ByteOrder)
  | utf32 (order : ByteOrder)
  deriving DecidableEq, Repr

/-- The encoding of a byte string, and the bytes after its byte-order mark. -/
def Encoding.detect (bytes : Bytes) : Encoding × Bytes :=
  match bytes with
  | 0x00 :: 0x00 :: 0xfe :: 0xff :: rest => (.utf32 .bigEndian, rest)
  | 0xff :: 0xfe :: 0x00 :: 0x00 :: rest => (.utf32 .littleEndian, rest)
  | 0xfe :: 0xff :: rest => (.utf16 .bigEndian, rest)
  | 0xff :: 0xfe :: rest => (.utf16 .littleEndian, rest)
  | 0xef :: 0xbb :: 0xbf :: rest => (.utf8, rest)
  | b₀ :: b₁ :: b₂ :: b₃ :: _ =>
      if b₀ = 0 then (if b₁ = 0 then .utf32 .bigEndian else .utf16 .bigEndian, bytes)
      else if b₁ = 0 then
        (if b₂ = 0 ∧ b₃ = 0 then .utf32 .littleEndian else .utf16 .littleEndian, bytes)
      else (.utf8, bytes)
  | [b₀, b₁] =>
      if b₀ = 0 then (.utf16 .bigEndian, bytes)
      else if b₁ = 0 then (.utf16 .littleEndian, bytes)
      else (.utf8, bytes)
  | _ => (.utf8, bytes)

/-- The character of a code point, unless the number is a surrogate or too large. -/
def scalar? (n : Nat) : Option Char :=
  if n.isValidChar then some (Char.ofNat n) else none

def ByteOrder.pair (order : ByteOrder) (first second : UInt8) : Nat :=
  match order with
  | .bigEndian => first.toNat * 256 + second.toNat
  | .littleEndian => second.toNat * 256 + first.toNat

/-- The sixteen-bit units of a byte string of even length. -/
def units16? (order : ByteOrder) : Bytes → Option (List Nat)
  | [] => some []
  | first :: second :: rest => (units16? order rest).map (order.pair first second :: ·)
  | [_] => none

/-- Whether a unit is the first or the second half of a pair. -/
def isHighSurrogate (unit : Nat) : Bool := 0xd800 ≤ unit && unit < 0xdc00

/-- Whether a unit is the second half of a pair. -/
def isLowSurrogate (unit : Nat) : Bool := 0xdc00 ≤ unit && unit < 0xe000

/-- The code point of a pair of halves. -/
def joinSurrogates (high low : Nat) : Nat :=
  0x10000 + (high - 0xd800) * 0x400 + (low - 0xdc00)

/-- The characters of sixteen-bit units; a half without its partner is refused. -/
def ofUnits16? : List Nat → Option (List Char)
  | [] => some []
  | high :: low :: rest =>
      if isHighSurrogate high && isLowSurrogate low then do
        let c ← scalar? (joinSurrogates high low)
        return c :: (← ofUnits16? rest)
      else do
        let c ← scalar? high
        return c :: (← ofUnits16? (low :: rest))
  | [unit] => (scalar? unit).map ([·])

def utf32Chars? (order : ByteOrder) : Bytes → Option (List Char)
  | [] => some []
  | b₀ :: b₁ :: b₂ :: b₃ :: rest => do
      let value := match order with
        | .bigEndian => order.pair b₀ b₁ * 65536 + order.pair b₂ b₃
        | .littleEndian => order.pair b₂ b₃ * 65536 + order.pair b₀ b₁
      let c ← scalar? value
      return c :: (← utf32Chars? order rest)
  | _ => none

/-- The characters of a byte string in an encoding. -/
def Encoding.chars? (encoding : Encoding) (bytes : Bytes) : Option (List Char) :=
  match encoding with
  | .utf8 => Utf8.decodeChars? bytes
  | .utf16 order => (units16? order bytes).bind ofUnits16?
  | .utf32 order => utf32Chars? order bytes

/-- The text of JSON bytes in the encoding that they show. -/
def decodeJsonBytes? (bytes : Bytes) : Option String :=
  let (encoding, rest) := Encoding.detect bytes
  (encoding.chars? rest).map String.ofList

end SealedGrant.Text
