import SealedGrant.ClaimSet.Access

/-! # Tokens

A token is a claim set together with the kind that the claim set says it is. The accessors here are
meant for tokens whose claim set was checked; on others a missing member reads as its empty value.
-/

namespace SealedGrant

/-- A token of a kind over its claim set. -/
structure Token where
  kind : TokenKind
  claims : ClaimSet
  kind_eq : claims.kind? = some kind

namespace Token

/-- What is displayed of a token: its kind, never its claims. -/
def summary (token : Token) : String :=
  "Token(kind=<TokenKind." ++ token.kind.title ++ ": " ++ Text.quote token.kind.code ++ ">)"

def text (token : Token) (claim : Claim) : String :=
  (token.claims.text? claim).getD ""

def id (token : Token) : String := token.text .id

/-- The client that the token was issued to: the one element of the audience. -/
def clientId (token : Token) : String :=
  match token.claims.value .audience with
  | .array (.string client :: _) => client
  | _ => ""

def subject (token : Token) : String := token.text .subject

/-- The redirect URI of the authorization request. -/
def redirectUri (token : Token) : String := token.text .redirectUri

def scopeText (token : Token) : String := token.text .scope

def scope (token : Token) : List String := Scope.items token.scopeText

def expiresAt (token : Token) : Int := token.claims.time .expiresAt

def issuedAt (token : Token) : Int := token.claims.time .issuedAt

/-- The time at which the user authenticated. -/
def authTime (token : Token) : Int := token.claims.time .authTime

/-- The authentication context class, if the token carries one. -/
def acr? (token : Token) : Option String := token.claims.text? .acr

/-- The nonce of the authorization request, if it had one. -/
def nonce? (token : Token) : Option String := token.claims.text? .nonce

/-- The code challenge, if the token carries one. -/
def challenge? (token : Token) : Option CodeChallenge :=
  (token.claims.text? .codeChallenge).bind CodeChallenge.ofText?

/-- The attributes that a member delivers; none when it is absent. -/
def delivered (token : Token) (claim : Claim) : Members :=
  ((token.claims.value claim).object?).getD []

/-- Whether the lifetime is over: a token is alive while `now < exp + skew`. -/
def isExpired (token : Token) (now skew : Number) : Except ArithmeticFault Bool := do
  return (← (Number.int token.expiresAt).sum skew).le now

/-- The canonical text of the claim set. -/
def serialize (token : Token) : Except Failure String :=
  match token.claims.encode with
  | .ok text => .ok text
  | .error cause => .error (.defect (.ofWriteError cause))

/-- The token of a kind over a claim set that says so. -/
def ofClaims (kind : TokenKind) (claims : ClaimSet) : Except Failure Token :=
  if kind_eq : claims.kind? = some kind then .ok ⟨kind, claims, kind_eq⟩
  else if claims.has .kind then
    .error (.fault (.build (.otherKind (claims.value .kind).display kind)))
  else .error (.defect .absent)

/-- The token of an expected kind over a claim set that was read. -/
def ofRead (kind : TokenKind) (claims : Except ClaimSet.BuildError ClaimSet) :
    Except Failure Token :=
  match claims with
  | .error (.check cause) => .error cause.failure
  | .error .unwritable => .error (.defect .tooManyDigits)
  | .ok claims =>
      if kind_eq : claims.kind? = some kind then .ok ⟨kind, claims, kind_eq⟩
      else .error (.fault (.claims (.otherKind kind (claims.value .kind).display)))

/-- Read a token of a kind from the text of its claim set. -/
def read (kind : TokenKind) (text : String) : Except Failure Token :=
  ofRead kind (ClaimSet.decode text)

/-- Read a token of a kind from the bytes of its claim set. -/
def readBytes (kind : TokenKind) (bytes : Bytes) : Except Failure Token :=
  ofRead kind (ClaimSet.decodeBytes bytes)

/-- Build a token of a kind from its members, which must follow the schema. -/
def build (kind : TokenKind) (members : Members) : Except Failure Token :=
  match ClaimSet.ofChecked members with
  | .ok claims => ofClaims kind claims
  | .error (.check (.fault cause)) => .error (.fault (.build (.claims kind cause)))
  | .error (.check .kindNotScalar) | .error .unwritable =>
      .error (.fault (.build (.unwritable kind)))

end Token
end SealedGrant
