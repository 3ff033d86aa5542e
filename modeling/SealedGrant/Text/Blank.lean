/-! # Blank characters and case

Two classes of blanks are in use. Trimming knows the blanks of every script; the scope syntax knows
six ASCII characters only. Names that are compared without regard to case are brought to one case
first.
-/

namespace SealedGrant.Text

/-- The blanks of every script: the white-space characters and the four ASCII separators. -/
def isBlank (c : Char) : Bool :=
  let n := c.toNat
  (0x09 ≤ n && n ≤ 0x0d) || (0x1c ≤ n && n ≤ 0x20) || n = 0x85 || n = 0xa0 || n = 0x1680 ||
    (0x2000 ≤ n && n ≤ 0x200a) || n = 0x2028 || n = 0x2029 || n = 0x202f || n = 0x205f || n = 0x3000

/-- The blanks that separate scope items: space, tab, line feed, return, form feed, vertical tab. -/
def isAsciiBlank (c : Char) : Bool :=
  c = ' ' || (0x09 ≤ c.toNat && c.toNat ≤ 0x0d)

/-- Drop the characters of a class from both ends. -/
def trimBy (drop : Char → Bool) (chars : List Char) : List Char :=
  ((chars.dropWhile drop).reverse.dropWhile drop).reverse

/-- Drop blanks from both ends of a text. -/
def trim (text : String) : String :=
  String.ofList (trimBy isBlank text.toList)

/-- The lower-case form of the characters whose lower-case form is ASCII: the ASCII capitals and the
Kelvin sign. Every other character is kept. -/
def asciiLower (c : Char) : Char :=
  if c.toNat = 0x212a then 'k' else c.toLower

/-- A text in lower case, as far as that is ASCII. -/
def lower (text : String) : String :=
  String.ofList (text.toList.map asciiLower)

/-- The upper-case form of the characters whose upper-case form is ASCII: the ASCII letters, the
dotless i, the long s, the sharp s and the Latin ligatures. Every other character is kept. -/
def asciiUpper (c : Char) : List Char :=
  match c.toNat with
  | 0xdf => ['S', 'S']
  | 0x131 => ['I']
  | 0x17f => ['S']
  | 0xfb00 => ['F', 'F']
  | 0xfb01 => ['F', 'I']
  | 0xfb02 => ['F', 'L']
  | 0xfb03 => ['F', 'F', 'I']
  | 0xfb04 => ['F', 'F', 'L']
  | 0xfb05 | 0xfb06 => ['S', 'T']
  | _ => [c.toUpper]

/-- A text in upper case, as far as that is ASCII. -/
def upper (text : String) : String :=
  String.ofList (text.toList.flatMap asciiUpper)

end SealedGrant.Text
