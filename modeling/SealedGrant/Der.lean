import SealedGrant.Base64

/-! # Distinguished encoding of key files

Key files are trees of tagged values: integers, byte strings, names of algorithms and sequences.
Only the kinds of values that occur in RSA key files have constructors of their own.
-/

namespace SealedGrant

/-- A value of a key file. -/
inductive Der where
  | integer (value : Nat)
  | octets (content : Bytes)
  /-- A string of whole bytes of bits. -/
  | bits (content : Bytes)
  | null
  /-- The name of an algorithm, by its encoded path. -/
  | objectId (path : Bytes)
  | sequence (items : List Der)
  | other (tag : UInt8) (content : Bytes)

namespace Der

/-- The length field: one byte below 128, else a count of bytes and the length in them. -/
def lengthField (length : Nat) : Bytes :=
  if length < 0x80 then [UInt8.ofNat length]
  else
    let digits := Bytes.ofNatMinimal length
    UInt8.ofNat (0x80 + digits.length) :: digits

def tagged (tag : UInt8) (content : Bytes) : Bytes :=
  tag :: lengthField content.length ++ content

/-- The content of a non-negative integer: its top bit is clear. -/
def integerContent (value : Nat) : Bytes :=
  Bytes.ofNat (value.log2 / 8 + 1 + (if value.log2 % 8 = 7 then 1 else 0)) value

mutual

def write : Der → Bytes
  | .integer value => tagged 0x02 (integerContent value)
  | .octets content => tagged 0x04 content
  | .bits content => tagged 0x03 (0 :: content)
  | .null => tagged 0x05 []
  | .objectId path => tagged 0x06 path
  | .sequence items => tagged 0x30 (writeItems items)
  | .other tag content => tagged tag content

/-- The bytes of the items of a sequence. -/
def writeItems : List Der → Bytes
  | [] => []
  | item :: rest => write item ++ writeItems rest

end

/-- Split a length field from the bytes after it. -/
def readLength? : Bytes → Option (Nat × Bytes)
  | [] => none
  | first :: rest =>
      if first < 0x80 then some (first.toNat, rest)
      else
        let count := first.toNat - 0x80
        if rest.length < count then none
        else some (Bytes.toNat (rest.take count), rest.drop count)

/-- Split a tagged value from the bytes after it: tag, content and rest. -/
def readTagged? : Bytes → Option (UInt8 × Bytes × Bytes)
  | [] => none
  | tag :: rest => do
      let (length, rest) ← readLength? rest
      if rest.length < length then none
      else some (tag, rest.take length, rest.drop length)

/-- Read values one after the other. Each step consumes a tag, so the number of bytes bounds the
steps. -/
def readItems? : (steps : Nat) → Bytes → Option (List Der)
  | _, [] => some []
  | 0, _ => none
  | steps + 1, bytes => do
      let (tag, content, rest) ← readTagged? bytes
      let item ←
        if tag = 0x02 then some (.integer (Bytes.toNat content))
        else if tag = 0x04 then some (.octets content)
        else if tag = 0x03 then some (.bits (content.drop 1))
        else if tag = 0x05 then some .null
        else if tag = 0x06 then some (.objectId content)
        else if tag = 0x30 then (readItems? steps content).map .sequence
        else some (.other tag content)
      let items ← readItems? steps rest
      return item :: items

def read? (bytes : Bytes) : Option Der :=
  match readItems? bytes.length bytes with
  | some [item] => some item
  | _ => none

end Der

/-! ## Armoured text -/

namespace Armor

/-- The first line of a text that holds a value of some sort. -/
def firstLine (sort : String) : String := "-----BEGIN " ++ sort ++ "-----"

def lastLine (sort : String) : String := "-----END " ++ sort ++ "-----"

def wrapLines (chars : List Char) : List String :=
  if chars.isEmpty then []
  else String.ofList (chars.take 64) :: wrapLines (chars.drop 64)
  termination_by chars.length
  decreasing_by
    have : chars ≠ [] := by simpa using ‹¬chars.isEmpty = true›
    have := List.length_pos_iff.mpr this
    simp
    omega

/-- The text of bytes of some sort. -/
def write (sort : String) (bytes : Bytes) : String :=
  let body := wrapLines (Base64.encodePadded bytes).toList
  String.join ((firstLine sort :: body ++ [lastLine sort]).map (· ++ "\n"))

/-- The bytes between the first and the last line. -/
def read? (sort text : String) : Option Bytes := do
  let lines := text.splitOn "\n"
  let body := (lines.dropWhile (· ≠ firstLine sort)).drop 1
  if body.contains (lastLine sort) then
    Base64.decodePadded? (String.join (body.takeWhile (· ≠ lastLine sort)))
  else none

end Armor
end SealedGrant
