import SealedGrant.RedirectUri.Host

/-! # Redirect URIs

A redirect URI is absolute and has no fragment. Four things are asked in turn: no character that a
URI never has, a well-formed authority, a scheme with something after it, and no fragment. An
accepted URI is kept as it is, without normalization.
-/

namespace SealedGrant.RedirectUri

/-- Why a text is no redirect URI. -/
inductive Error where
  /-- A control character, a blank, a quotation mark, a brace, or another character no URI has. -/
  | forbiddenCharacter
  | malformed
  /-- There is no scheme, or nothing after it. -/
  | notAbsolute
  | hasFragment
  deriving DecidableEq, Repr

def Error.message : Error → String
  | .forbiddenCharacter => "redirect_uri contains characters not allowed in a URI"
  | .malformed => "redirect_uri is not a valid URI"
  | .notAbsolute => "redirect_uri must be an absolute URI"
  | .hasFragment => "redirect_uri must not contain a fragment"

def isForbidden (c : Char) : Bool :=
  c.toNat ≤ 0x20 || c.toNat = 0x7f || "<>\"\x7b\x7d|\\^\x60".toList.contains c

/-- Whether a character may stand in a scheme. -/
def isSchemeChar (c : Char) : Bool :=
  c.isAlphanum || c = '+' || c = '-' || c = '.'

/-- The parts of a URI that matter here. -/
structure Parts where
  scheme : List Char
  authority : List Char
  path : List Char

/-- The scheme, empty when there is none, and what follows it. -/
def splitScheme (chars : List Char) : List Char × List Char :=
  let name := before ':' chars
  if chars.contains ':' && (name.head?.any Char.isAlpha) && name.all isSchemeChar then
    (name, after ':' chars)
  else ([], chars)

def endsAuthority (c : Char) : Bool :=
  c = '/' || c = '?' || c = '#'

/-- The authority, empty when there is none, and what follows it. -/
def splitAuthority : List Char → List Char × List Char
  | '/' :: '/' :: rest =>
      (rest.takeWhile fun c => !endsAuthority c, rest.dropWhile fun c => !endsAuthority c)
  | chars => ([], chars)

def split (chars : List Char) : Parts :=
  let (scheme, hierarchy) := splitScheme chars
  let (authority, rest) := splitAuthority hierarchy
  ⟨scheme, authority, before '?' (before '#' rest)⟩

/-- The characters whose compatibility form holds one of `/ ? # @ :`. -/
def hasDelimiterForm (c : Char) : Bool :=
  [0x2047, 0x2048, 0x2049, 0x2100, 0x2101, 0x2105, 0x2106, 0x2a74, 0xfe13, 0xfe16, 0xfe55, 0xfe56,
    0xfe5f, 0xfe6b, 0xff03, 0xff0f, 0xff1a, 0xff1f, 0xff20].contains c.toNat

/-- Whether the brackets of an authority enclose a host. -/
def bracketsFit (authority : List Char) : Bool :=
  let host := afterLast '@' authority
  if !authority.contains '[' && !authority.contains ']' then true
  else if !authority.contains '[' || !authority.contains ']' then false
  else if host.contains '[' then
    let inside := after '[' host
    let rest := after ']' inside
    (before '[' host).isEmpty && (rest.isEmpty || rest.head? = some ':') &&
      isBracketedHost (before ']' inside)
  else isBracketedHost (before ':' host)

/-- The port of an authority; empty when there is none. -/
def port (authority : List Char) : List Char :=
  let host := afterLast '@' authority
  if host.contains '[' then after ':' (after ']' (after '[' host))
  else after ':' host

/-- Whether a port is empty or a decimal number up to 65535. -/
def portFits (port : List Char) : Bool :=
  port.all Json.isDigit && port.length ≤ Text.digitLimit && Json.digitsValue port ≤ 65535

def authorityFits (authority : List Char) : Bool :=
  bracketsFit authority && !authority.any hasDelimiterForm && portFits (port authority)

/-- Accept a redirect URI, or say why not. -/
def check (uri : String) : Except Error Unit :=
  let chars := uri.toList
  let parts := split chars
  if chars.any isForbidden then .error .forbiddenCharacter
  else if !authorityFits parts.authority then .error .malformed
  else if parts.scheme.isEmpty || (parts.authority.isEmpty && parts.path.isEmpty) then
    .error .notAbsolute
  else if chars.contains '#' then .error .hasFragment
  else .ok ()

end SealedGrant.RedirectUri
