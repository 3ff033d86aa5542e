/-! # Byte strings

Byte strings are lists, so that framing and slicing are list operations with their usual laws.
Hexadecimal text is lower case; numbers are written big-endian.
-/

namespace SealedGrant

/-- A byte string. -/
abbrev Bytes := List UInt8

namespace Bytes

/-- The lower-case hexadecimal digit of a number below sixteen. -/
def hexDigit (n : Nat) : Char :=
  if n < 10 then Char.ofNat (48 + n) else Char.ofNat (87 + n)

/-- Two lower-case hexadecimal digits for each byte. -/
def toHex (bytes : Bytes) : String :=
  String.ofList (bytes.flatMap fun byte => [hexDigit (byte.toNat / 16), hexDigit (byte.toNat % 16)])

/-- The value of a hexadecimal digit of either case. -/
def hexValue? (c : Char) : Option Nat :=
  if '0' ≤ c ∧ c ≤ '9' then some (c.toNat - 48)
  else if 'a' ≤ c ∧ c ≤ 'f' then some (c.toNat - 87)
  else if 'A' ≤ c ∧ c ≤ 'F' then some (c.toNat - 55)
  else none

def ofHexDigits? : List Char → Option Bytes
  | [] => some []
  | high :: low :: rest => do
      let upper ← hexValue? high
      let lower ← hexValue? low
      let bytes ← ofHexDigits? rest
      return UInt8.ofNat (16 * upper + lower) :: bytes
  | [_] => none

/-- Read a hexadecimal text of even length. -/
def ofHex? (text : String) : Option Bytes :=
  ofHexDigits? text.toList

/-- The number whose big-endian digits in base 256 are the bytes. -/
def toNat (bytes : Bytes) : Nat :=
  bytes.foldl (fun total byte => 256 * total + byte.toNat) 0

/-- The last `width` big-endian base-256 digits of a number. -/
def ofNat (width value : Nat) : Bytes :=
  match width with
  | 0 => []
  | width + 1 => ofNat width (value / 256) ++ [UInt8.ofNat (value % 256)]

/-- The fewest big-endian bytes that hold a number; zero takes one byte. -/
def ofNatMinimal (value : Nat) : Bytes :=
  ofNat (value.log2 / 8 + 1) value

/-- Combine two byte strings position by position, as far as the shorter one reaches. -/
def xor (left right : Bytes) : Bytes :=
  List.zipWith (· ^^^ ·) left right

theorem length_ofNat (width value : Nat) : (ofNat width value).length = width := by
  induction width generalizing value with
  | zero => rfl
  | succ width ih => simp [ofNat, ih]

/-- Combining twice with the same byte string changes nothing, if it is long enough. -/
theorem xor_xor_cancel (text mask : Bytes) (long : text.length ≤ mask.length) :
    xor (xor text mask) mask = text := by
  induction text generalizing mask with
  | nil => rfl
  | cons byte rest ih =>
    cases mask with
    | nil => simp at long
    | cons first others =>
      simp only [List.length_cons, Nat.add_le_add_iff_right] at long
      simpa [xor, UInt8.xor_assoc] using ih others long

end Bytes
end SealedGrant
