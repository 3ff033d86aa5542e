import SealedGrant.Fault
import SealedGrant.RedirectUri.Basic
import SealedGrant.Text.Percent

/-! # Request targets

A target is a path of the service, or an address with a scheme and a host. An address may say who
asks, before an at sign. Dot segments are resolved before escapes, so an escaped dot is an ordinary
character. Escapes are resolved twice, once where the request is sent and once where it is received.
-/

namespace SealedGrant

/-- Where requests are sent to. -/
structure Origin where
  scheme : String
  /-- The host in lower case; brackets around it are left out. -/
  host : String
  /-- The port, unless it is the usual one of the scheme. -/
  port : Option Int
  deriving DecidableEq, Repr

namespace Origin

/-- The service, as targets without a host mean it. -/
def service : Origin := ⟨"http", "testserver", none⟩

def usualPort? : String → Option Int
  | "http" | "ws" => some 80
  | "https" | "wss" => some 443
  | _ => none

/-- The host and the port, as an address writes them. -/
def place (origin : Origin) : String :=
  let host := if origin.host.toList.contains ':' then "[" ++ origin.host ++ "]" else origin.host
  match origin.port with
  | some port => host ++ ":" ++ toString port
  | none => host

/-- Whether an origin can be reached. The scheme has to be one with a usual port, and what follows
the first colon of the place is taken for the port, so an address of version 6 is no place. -/
def reachable (origin : Origin) : Except TransferFault Unit := do
  if (usualPort? origin.scheme).isNone then throw .unknownScheme
  let place := origin.place.toList
  if place.contains ':' then
    let _ ← (Text.readWholeNumber (String.ofList (RedirectUri.after ':' place))).mapError .port
  if ["ws", "wss"].contains origin.scheme then throw .webSocket

end Origin

/-- The parts of an authority. -/
structure Authority where
  /-- Who asks: what stands before the first at sign. -/
  login : List Char
  host : List Char
  port : List Char

namespace Authority

/-- Take an authority apart. A host in brackets reaches to the last bracket, any other one to the
first colon. -/
def read (chars : List Char) : Authority :=
  let (login, place) :=
    if chars.contains '@' then (RedirectUri.before '@' chars, RedirectUri.after '@' chars)
    else ([], chars)
  let host :=
    if place.head? = some '[' && place.contains ']' then
      (place.reverse.dropWhile (· ≠ ']')).reverse
    else RedirectUri.before ':' place
  let rest := place.drop host.length
  ⟨login, host, if rest.head? = some ':' then rest.tail else rest⟩

/-- Whether characters are so many groups of digits and one more, with any character between two
groups. -/
def isDotted : (groups : Nat) → List Char → Bool
  | 0, chars => !chars.isEmpty && chars.all Json.isDigit
  | groups + 1, c :: rest =>
      Json.isDigit c && (isDotted (groups + 1) rest || match rest with
        | _ :: others => isDotted groups others
        | [] => false)
  | _ + 1, [] => false

def isBracketed (host : List Char) : Bool :=
  host.head? = some '[' && host.getLast? = some ']'

/-- Whether a host that looks like an address of version 4 or 6 is one. -/
def hostFits (host : List Char) : Bool :=
  if isDotted 3 host then RedirectUri.isVersion4 host
  else if isBracketed host then RedirectUri.isVersion6 host.tail.dropLast
  else true

/-- The origin of an authority under a scheme. An empty port counts as the usual one. -/
def origin? (authority : Authority) (scheme : String) : Option Origin := do
  let host := if isBracketed authority.host then authority.host.tail.dropLast else authority.host
  let port ←
    if authority.port.isEmpty then some none
    else (Text.readWholeNumber (String.ofList authority.port)).toOption.map some
  if !hostFits authority.host then none
  else return {
    scheme := Text.lower scheme
    host := Text.lower (String.ofList host)
    port := port.filter fun port => some port ≠ Origin.usualPort? scheme }

end Authority

/-- What a target says. -/
structure Target where
  origin : Origin
  /-- The id and the secret of who asks. -/
  login : Option (String × String)
  path : String
  deriving DecidableEq, Repr

namespace Target

/-- The most characters that a target may have. -/
def lengthLimit : Nat := 65536

/-- Whether a character is an ASCII control character. -/
def isControl (c : Char) : Bool :=
  c.toNat < 0x20 || c.toNat = 0x7f

/-- Take the segments of a path in turn: one dot stays, two dots go back, not beyond the root. -/
def walk (taken : List (List Char)) : List (List Char) → List (List Char)
  | [] => taken.reverse
  | ['.'] :: rest => walk taken rest
  | ['.', '.'] :: rest => walk (if taken = [[]] then taken else taken.tail) rest
  | segment :: rest => walk (segment :: taken) rest

def withoutDots (path : List Char) : List Char :=
  ['/'].intercalate (walk [] (path.splitOn '/'))

/-- A path from the root, which one slash marks. -/
def fromRoot (path : List Char) : List Char :=
  '/' :: path.dropWhile (· = '/')

/-- Whether a path cannot stand alone: what it begins with would be read as an authority or a
scheme. -/
def isAmbiguous : List Char → Bool
  | '/' :: '/' :: _ => true
  | ':' :: _ => true
  | _ => false

def decoded (path : List Char) : String :=
  Text.percentDecode (Text.percentDecode (String.ofList path))

/-- The scheme of a target, empty when there is none, and what follows its colon. -/
def splitScheme : List Char → List Char × List Char
  | ':' :: rest => ([], rest)
  | chars => RedirectUri.splitScheme chars

/-- The id and the secret of a login; the first colon divides them. -/
def login? (login : List Char) : Option (String × String) :=
  let id := Text.percentDecode (String.ofList (RedirectUri.before ':' login))
  let secret := Text.percentDecode (String.ofList (RedirectUri.after ':' login))
  if id = "" && secret = "" then none else some (id, secret)

/-- Read a target. Only one with scheme and host leads elsewhere and says who asks; of any other
one the path is taken, from the root of the service. -/
def read? (text : String) : Option Target := do
  let chars := text.toList
  let (scheme, hierarchy) := splitScheme chars
  let (authorityText, rest) := RedirectUri.splitAuthority hierarchy
  let path := RedirectUri.before '?' (RedirectUri.before '#' rest)
  let authority := Authority.read authorityText
  let origin ← authority.origin? (String.ofList scheme)
  let placed := !authority.login.isEmpty || origin.host ≠ "" || origin.port.isSome
  if lengthLimit < chars.length || chars.any isControl then none
  else if scheme.isEmpty && !placed then
    if isAmbiguous path then none
    else return ⟨.service, none, decoded (withoutDots (fromRoot path))⟩
  else
    let plain := withoutDots path
    if scheme.isEmpty || origin.host = "" then
      return ⟨.service, none, decoded (withoutDots (fromRoot plain))⟩
    else return ⟨origin, login? authority.login, decoded plain⟩

end Target
end SealedGrant
