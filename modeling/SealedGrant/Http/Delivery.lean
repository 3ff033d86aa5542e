import SealedGrant.Base64
import SealedGrant.Http.Message
import SealedGrant.Http.Target
import SealedGrant.Text.Utf8

/-! # Delivery of requests

Between a request as it is written and the request that the service receives, its target is read,
its header fields pass through two encodings, and a request whose path ends in slashes is sent again
without them.
-/

namespace SealedGrant

/-- A request on its way. -/
structure Delivery where
  request : HttpRequest
  target : Target

namespace Delivery

/-- Whether a text has Latin-1 characters only. -/
def isLatin (text : String) : Bool :=
  text.toList.all fun c => c.toNat < 0x100

def latinBytes (text : String) : Bytes :=
  text.toList.map fun c => UInt8.ofNat c.toNat

/-- The text whose Latin-1 bytes are given. -/
def ofLatinBytes (bytes : Bytes) : String :=
  String.ofList (bytes.map fun byte => Char.ofNat byte.toNat)

/-- Whether the Latin-1 bytes of a text are UTF-8. -/
def holdsUtf8 (text : String) : Bool :=
  (Utf8.decode? (latinBytes text)).isSome

/-- A text whose Latin-1 bytes are the UTF-8 form of another one. -/
def recoded (text : String) : String :=
  ofLatinBytes (Utf8.encode text)

/-- Header fields as they are received. They are sent as Latin-1. If all of them together are
UTF-8, they arrive unchanged, else each of them is brought to UTF-8 on the way. -/
def received (headers : List (String × String)) : List (String × String) :=
  if headers.all fun field => holdsUtf8 field.1 && holdsUtf8 field.2 then headers
  else headers.map fun field => (recoded field.1, recoded field.2)

/-- Header fields without those of a name. -/
def without (name : String) (headers : List (String × String)) : List (String × String) :=
  headers.filter fun field => Text.lower field.1 ≠ name

/-- The Basic header of an id and a secret. -/
def basic (login : String × String) : String :=
  "Basic " ++ Base64.encodePadded (Utf8.encode (login.1 ++ ":" ++ login.2))

/-- Send a request. Who asks according to the target replaces what the header fields say. -/
def ofRequest (request : HttpRequest) : Except TransferFault Delivery := do
  if !request.headers.all fun field => isLatin field.1 && isLatin field.2 then
    throw .headerNotLatin
  match Target.read? request.path with
  | none => throw .invalidTarget
  | some target =>
      target.origin.reachable
      let headers := match target.login with
        | some login => without "authorization" request.headers ++ [("authorization", basic login)]
        | none => request.headers
      return ⟨{ request with headers }, target⟩

/-- The request with its header fields as the service receives them. -/
def arrived (delivery : Delivery) : HttpRequest :=
  { delivery.request with headers := received delivery.request.headers }

/-- Whether a character may stand in the name of a host: one that stands for itself, a delimiter of
parts, or the sign of an escape. -/
def isHostChar (c : Char) : Bool :=
  Text.isUnreserved c || "!$&'()*+,;=%".toList.contains c

/-- Whether a character may stand in an address in brackets. -/
def isAddressChar (c : Char) : Bool :=
  (Bytes.hexValue? c).isSome || c = ':' || c = '.'

/-- Whether characters are the name of a host or an address in brackets. -/
def isHostName (host : List Char) : Bool :=
  if Authority.isBracketed host then
    2 < host.length && host.tail.dropLast.all isAddressChar
  else !host.isEmpty && host.all isHostChar

/-- The authority that a host field names: a host and perhaps a port; none if the field is
malformed. -/
def hostField? (value : String) : Option Authority :=
  let chars := value.toList
  let authority := Authority.read chars
  let portFits := match chars.drop authority.host.length with
    | [] => true
    | ':' :: digits => digits.all Json.isDigit
    | _ => false
  if isHostName authority.host && portFits then some authority else none

/-- The request that is sent again because its path ends in slashes. The host field decides where
to; the authorization of a request does not follow it to another place. -/
def again (delivery : Delivery) : Except TransferFault Delivery := do
  let kept := without "cookie" delivery.request.headers
  match (delivery.arrived.header? "host").bind hostField? with
  | none => return { delivery with request := { delivery.request with headers := kept } }
  | some authority =>
      match authority.origin? delivery.target.origin.scheme with
      | none => throw .invalidRedirect
      | some origin =>
          let headers := if origin = delivery.target.origin then kept
            else without "authorization" (without "host" kept)
          origin.reachable
          return ⟨{ delivery.request with headers }, { delivery.target with origin }⟩

/-- The request that arrives in the end. -/
def final (delivery : Delivery) : Except TransferFault HttpRequest := do
  if delivery.target.path.endsWith "/" then return (← delivery.again).arrived
  else return delivery.arrived

end Delivery
end SealedGrant
