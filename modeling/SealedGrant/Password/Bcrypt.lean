import SealedGrant.Password.Blowfish
import SealedGrant.Text.Utf8

/-! # Password hashes

A stored hash spells its version, its cost, the salt and the digest. Checking a password hashes it
again with the version, cost and salt of the stored text and compares whole texts. Only the first
72 bytes of a password count.
-/

namespace SealedGrant.Bcrypt

/-- The digits of the text form, in the order of their values. -/
def digits : List Char :=
  "./ABCDEFGHIJKLMNOPQRSTUVWXYZabcdefghijklmnopqrstuvwxyz0123456789".toList

/-- The digit of a value below 64. -/
def digit (value : Nat) : Char :=
  digits.getD value '.'

def digitValue? (c : Char) : Option Nat :=
  (digits.findIdx? (· = c))

/-- The text of bytes, without padding: three bytes become four digits. -/
def encode : Bytes → List Char
  | [] => []
  | [a] => [digit (a.toNat / 4), digit (a.toNat % 4 * 16)]
  | [a, b] =>
      [digit (a.toNat / 4), digit (a.toNat % 4 * 16 + b.toNat / 16), digit (b.toNat % 16 * 4)]
  | a :: b :: c :: rest =>
      digit (a.toNat / 4) :: digit (a.toNat % 4 * 16 + b.toNat / 16) ::
        digit (b.toNat % 16 * 4 + c.toNat / 64) :: digit (c.toNat % 64) :: encode rest

/-- The bytes of a text of 22 digits: 128 bits and four that must be zero. -/
def saltBytes? (text : List Char) : Option Bytes := do
  let values ← text.mapM digitValue?
  let number := values.foldl (fun total value => 64 * total + value) 0
  if values.length = 22 ∧ number % 16 = 0 then some (Bytes.ofNat 16 (number / 16)) else none

/-- A version letter that is understood; all versions hash alike. -/
def versions : List String := ["2a", "2b", "2x", "2y"]

/-- What a stored hash says about how it was made. -/
structure Setting where
  version : String
  cost : Nat
  salt : Bytes
  deriving DecidableEq, Repr

/-- The value of a decimal cost, with an optional plus sign. -/
def cost? (text : String) : Option Nat :=
  let unsigned := match text.toList with
    | '+' :: rest => rest
    | chars => chars
  if !unsigned.isEmpty && unsigned.all (fun c => '0' ≤ c && c ≤ '9') then
    let cost := unsigned.foldl (fun total c => 10 * total + (c.toNat - 48)) 0
    if 4 ≤ cost ∧ cost ≤ 31 then some cost else none
  else none

/-- Read the setting of a stored hash: version, cost and at least the 22 digits of a salt, set off
by dollar signs. -/
def Setting.ofText? (text : String) : Option Setting :=
  match (text.splitOn "$").filter (· ≠ "") with
  | [version, cost, rest] => do
      if !versions.contains version then none
      else return ⟨version, ← cost? cost, ← saltBytes? (rest.toList.take 22)⟩
  | _ => none

/-- The bytes of a password that count, with the zero byte that ends a short one. -/
def keyBytes (password : String) : Bytes :=
  (((Utf8.encode password).take 72) ++ [0]).take 72

def magic : List (UInt32 × UInt32) :=
  [(0x4f727068, 0x65616e42), (0x65686f6c, 0x64657253), (0x63727944, 0x6f756274)]

/-- The digest of a password: 23 bytes. -/
def digest (setting : Setting) (password : String) : Bytes :=
  let state := Blowfish.State.salted setting.cost setting.salt (keyBytes password)
  let words := magic.flatMap fun block =>
    let (left, right) := state.encryptTimes 64 block
    [left, right]
  (words.flatMap fun word => Bytes.ofNat 4 word.toNat).take 23

/-- The text of a hash. The cost has two digits. -/
def text (setting : Setting) (digest : Bytes) : String :=
  "$" ++ setting.version ++ "$" ++ (if setting.cost < 10 then "0" else "") ++
    toString setting.cost ++ "$" ++ String.ofList (encode setting.salt ++ encode digest)

/-- The stored form of a password under a setting. -/
def hash (setting : Setting) (password : String) : String :=
  text setting (digest setting password)

/-- Whether a password matches a stored hash; none when the stored text is no hash. -/
def verify? (password stored : String) : Option Bool :=
  (Setting.ofText? stored).map fun setting => hash setting password == stored

end SealedGrant.Bcrypt
