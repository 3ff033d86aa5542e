import SealedGrant.Base64
import SealedGrant.Fault
import SealedGrant.Text.Blank
import SealedGrant.Text.Percent
import SealedGrant.Text.Utf8

/-! # Client credentials

A client presents its id and secret in a Basic authorization header, or in the fields of the form.
In the header both are percent-encoded, joined by a colon and written in padded base64.
-/

namespace SealedGrant

/-- A presented id and secret. -/
structure Credentials where
  id : String
  secret : Option String
  deriving DecidableEq, Repr

namespace Credentials

/-- The scheme name that a Basic header starts with. -/
def basicScheme : List Char := "basic ".toList

/-- The id and the secret of a decoded header; the first colon divides them. -/
def ofPair? (pair : String) : Option (String × String) :=
  let chars := pair.toList
  if chars.contains ':' then
    let id := String.ofList (chars.takeWhile (· ≠ ':'))
    let secret := String.ofList ((chars.dropWhile (· ≠ ':')).drop 1)
    some (Text.percentDecode (Text.trim id), Text.percentDecode secret)
  else none

/-- Read a Basic header: none when it is no such header or holds no pair. -/
def parseBasic (header : String) : Except Failure (Option (String × String)) :=
  let trimmed := (Text.trim header).toList
  if (trimmed.map Text.asciiLower).take basicScheme.length = basicScheme then
    let encoded := Text.trim (String.ofList (trimmed.drop basicScheme.length))
    if encoded.toList.any fun c => 0x80 ≤ c.toNat then .error (.defect .base64NotAscii)
    else .ok (((Base64.decodePadded? encoded).bind Utf8.decode?).bind ofPair?)
  else .ok none

/-- The credentials of a request: those of the header, else those of the form. -/
def ofRequest (header : String) (formId formSecret : Option String) :
    Except Failure (Option Credentials) := do
  match ← parseBasic header with
  | some (id, secret) => return some ⟨id, some secret⟩
  | none =>
      match formId.filter (· ≠ "") with
      | some id => return some ⟨Text.trim id, formSecret⟩
      | none => return none

end Credentials
end SealedGrant
