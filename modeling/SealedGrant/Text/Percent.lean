import SealedGrant.Text.Utf8

/-! # Percent encoding

An escape `%XX` stands for one byte of UTF-8. An incomplete escape stays as it is, and so does the
plus sign. The encoding of form fields differs in the plus sign, which stands for a space; only its
length is needed.
-/

namespace SealedGrant.Text

/-- The bytes of characters with the escapes resolved. -/
def percentBytes : List Char → Bytes
  | [] => []
  | '%' :: high :: low :: rest =>
      match Bytes.hexValue? high, Bytes.hexValue? low with
      | some upper, some lower => UInt8.ofNat (16 * upper + lower) :: percentBytes rest
      | _, _ => String.utf8EncodeChar '%' ++ percentBytes (high :: low :: rest)
  | c :: rest => String.utf8EncodeChar c ++ percentBytes rest

/-- Resolve the escapes of a text; bytes that are no UTF-8 show as replacement characters. -/
def percentDecode (text : String) : String :=
  Utf8.decodeLenient (percentBytes text.toList)

/-- The characters that stand for themselves in every percent-encoded text. -/
def isUnreserved (c : Char) : Bool :=
  c.isAlphanum || c = '-' || c = '.' || c = '_' || c = '~'

/-- The length of the form encoding of a character: every byte of its UTF-8 form is an escape,
unless it stands for itself or is a space. -/
def formWidth (c : Char) : Nat :=
  if isUnreserved c || c = ' ' then 1 else 3 * c.utf8Size

/-- The length of the form encoding of a text. -/
def formLength (text : String) : Nat :=
  text.toList.foldl (fun total c => total + formWidth c) 0

end SealedGrant.Text
