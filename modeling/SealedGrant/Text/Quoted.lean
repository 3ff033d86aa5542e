import SealedGrant.Bytes
import SealedGrant.Text.Printable

/-! # Quoted text

Messages show a text between quotation marks: single ones, or double ones when the text holds a
single mark and no double one. The mark in use and the backslash are escaped, and so is every
character that is not printable.
-/

namespace SealedGrant.Text

/-- The mark that encloses a text: double only when that saves escaping the single ones. -/
def quotationMark (chars : List Char) : Char :=
  if chars.contains '\'' && !chars.contains '"' then '"' else '\''

/-- So many hexadecimal digits of a number, most significant first. -/
def hexDigits (width value : Nat) : List Char :=
  match width with
  | 0 => []
  | width + 1 => hexDigits width (value / 16) ++ [Bytes.hexDigit (value % 16)]

def quoteChar (mark c : Char) : List Char :=
  if c = mark || c = '\\' then ['\\', c]
  else if c = '\n' then ['\\', 'n']
  else if c = '\r' then ['\\', 'r']
  else if c = '\t' then ['\\', 't']
  else if isPrintable c then [c]
  else if c.toNat < 0x100 then '\\' :: 'x' :: hexDigits 2 c.toNat
  else if c.toNat < 0x10000 then '\\' :: 'u' :: hexDigits 4 c.toNat
  else '\\' :: 'U' :: hexDigits 8 c.toNat

def quote (text : String) : String :=
  let mark := quotationMark text.toList
  String.ofList (mark :: text.toList.flatMap (quoteChar mark) ++ [mark])

end SealedGrant.Text
