import SealedGrant.Json.Value
import SealedGrant.Text.WholeNumber

/-! # Writing JSON text

One writer serves every form; a style says how items are separated and whether characters beyond
ASCII are escaped. The canonical form sorts the members of every object by code point and has no
blanks, so it does not depend on the order in which members were set.
-/

namespace SealedGrant.Json

/-- The choices of a written form. -/
structure Style where
  comma : List Char
  /-- What separates a member's name from its value. -/
  colon : List Char
  /-- Whether characters beyond printable ASCII are escaped. -/
  asciiOnly : Bool

/-- No blanks, characters kept: the canonical form and HTTP bodies. -/
def Style.compact : Style := ⟨[','], [':'], false⟩

/-- No blanks, characters beyond ASCII escaped: signed tokens. -/
def Style.compactAscii : Style := ⟨[','], [':'], true⟩

/-- A blank after separators, characters beyond ASCII escaped: stored documents. -/
def Style.spacedAscii : Style := ⟨[',', ' '], [':', ' '], true⟩

/-- The names of the doubles that are not finite. -/
def specialNames : Number.SpecialNames :=
  ⟨"Infinity".toList, "-Infinity".toList, "NaN".toList⟩

def unitEscape (unit : Nat) : List Char :=
  '\\' :: 'u' :: Text.hexDigits 4 unit

/-- The escape of a character, as one unit or as a pair of halves. -/
def charEscape (c : Char) : List Char :=
  let n := c.toNat
  if n < 0x10000 then unitEscape n
  else unitEscape (0xd800 + (n - 0x10000) / 0x400) ++ unitEscape (0xdc00 + (n - 0x10000) % 0x400)

def writeChar (asciiOnly : Bool) (c : Char) : List Char :=
  if c = '"' then ['\\', '"']
  else if c = '\\' then ['\\', '\\']
  else if c = '\n' then ['\\', 'n']
  else if c = '\r' then ['\\', 'r']
  else if c = '\t' then ['\\', 't']
  else if c = '\x08' then ['\\', 'b']
  else if c = '\x0c' then ['\\', 'f']
  else if c.toNat < 0x20 then charEscape c
  else if asciiOnly && 0x7f ≤ c.toNat then charEscape c
  else [c]

def writeString (asciiOnly : Bool) (text : String) : List Char :=
  '"' :: text.toList.flatMap (writeChar asciiOnly) ++ ['"']

mutual

def write (style : Style) : Json → List Char
  | .null => "null".toList
  | .bool true => "true".toList
  | .bool false => "false".toList
  | .number n => n.write specialNames
  | .string text => writeString style.asciiOnly text
  | .array items => '[' :: style.comma.intercalate (writeItems style items) ++ [']']
  | .object members => '{' :: style.comma.intercalate (writeMembers style members) ++ ['}']

/-- The texts of the items of an array. -/
def writeItems (style : Style) : List Json → List (List Char)
  | [] => []
  | item :: rest => write style item :: writeItems style rest

/-- The texts of the members of an object. -/
def writeMembers (style : Style) : List (String × Json) → List (List Char)
  | [] => []
  | (name, value) :: rest =>
      (writeString style.asciiOnly name ++ style.colon ++ write style value) ::
        writeMembers style rest

end

/-- The text of a value in a style. -/
def render (style : Style) (value : Json) : String :=
  String.ofList (value.write style)

mutual

/-- The same value with the members of every object in ascending order of their names. -/
def sorted : Json → Json
  | .array items => .array (sortedItems items)
  | .object members =>
      .object ((sortedMembers members).mergeSort fun left right => decide (left.1 ≤ right.1))
  | .null => .null
  | .bool value => .bool value
  | .number n => .number n
  | .string text => .string text

def sortedItems : List Json → List Json
  | [] => []
  | item :: rest => sorted item :: sortedItems rest

/-- Members, in their order, with sorted values. -/
def sortedMembers : List (String × Json) → List (String × Json)
  | [] => []
  | (name, value) :: rest => (name, sorted value) :: sortedMembers rest

end

/-- Whether a number is short enough to be written. -/
def isWritable : Number → Bool
  | .int n => n.natAbs < Nat.pow 10 Text.digitLimit
  | .double _ => true

/-- Why a value has no canonical form: a number is not finite, or has too many digits. -/
inductive WriteError where
  | notFinite
  | tooManyDigits
  deriving DecidableEq, Repr

def WriteError.message : WriteError → String
  | .notFinite => "Out of range float values are not JSON compliant"
  | .tooManyDigits =>
      "Exceeds the limit (" ++ toString Text.digitLimit ++
        " digits) for integer string conversion; " ++
        "use sys.set_int_max_str_digits() to increase the limit"

/-- What is wrong with a number that has no canonical form. -/
def numberError? (n : Number) : Option WriteError :=
  if !isWritable n then some .tooManyDigits
  else if !n.isFinite then some .notFinite
  else none

/-- What is wrong with the first number that has no canonical form. -/
def writeError? (value : Json) : Option WriteError :=
  value.numbers.findSome? numberError?

/-- The text of a value in a style that has no names for numbers that are not finite. -/
def renderFinite (style : Style) (value : Json) : Except WriteError String :=
  match value.writeError? with
  | none => .ok (value.render style)
  | some cause => .error cause

def canonical (value : Json) : Except WriteError String :=
  value.sorted.renderFinite .compact

end SealedGrant.Json
