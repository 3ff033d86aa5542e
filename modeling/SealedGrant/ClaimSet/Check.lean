import SealedGrant.ClaimSet.Basic
import SealedGrant.Json.Reader

/-! # Checking claim sets against the schema

The check asks five things in turn and reports the first that fails: a known kind, the required
members, then each member in order for its presence and shape, the order of the three times, and
the syntax of the redirect URI and the code challenge.
-/

namespace SealedGrant

def Shape.fits : Shape → Json → Bool
  | .text, .string _ => true
  | .time, .number (.int n) => 0 ≤ n
  | .object, .object _ => true
  | .texts, .array items => items.all fun item => item.string?.isSome
  | .singleText, .array [.string _] => true
  | _, _ => false

/-- Whether a value is a time: an integer that is not negative. -/
def Json.isTime (value : Json) : Bool :=
  Shape.time.fits value

namespace ClaimSet

def isNull : Json → Bool
  | .null => true
  | _ => false

/-- The first required member that is absent or null. -/
def missing? (claims : ClaimSet) (kind : TokenKind) : Option ClaimFault :=
  ((Claim.required kind).find? fun claim => isNull (claims.value claim)).map .missing

/-- What is wrong with one member in a token of a kind. Unknown members are never wrong. -/
def memberFault? (kind : TokenKind) (member : String × Json) : Option ClaimFault :=
  match Claim.ofName? member.1 with
  | none => none
  | some claim =>
      if isNull member.2 then some (.null claim)
      else if claim.presence kind = .forbidden then some (.forbidden claim kind)
      else if claim.shape.fits member.2 then none
      else some (.shape claim)

/-- The time of a known member, zero when it is none. -/
def time (claims : ClaimSet) (claim : Claim) : Int :=
  ((claims.value claim).int?).getD 0

/-- What is wrong with the order of the three times. -/
def timeFault? (claims : ClaimSet) : Option ClaimFault :=
  if claims.time .issuedAt > claims.time .expiresAt then some .issuedAfterExpiry
  else if claims.time .authTime > claims.time .issuedAt then some .authenticatedAfterIssue
  else none

/-- What is wrong with the redirect URI. -/
def redirectFault? (claims : ClaimSet) : Option ClaimFault :=
  match RedirectUri.check ((claims.text? .redirectUri).getD "") with
  | .ok _ => none
  | .error cause => some (.redirectUri cause)

/-- What is wrong with the code challenge, if there is one. -/
def challengeFault? (claims : ClaimSet) : Option ClaimFault :=
  match claims.text? .codeChallenge with
  | none => none
  | some text => if (CodeChallenge.ofText? text).isSome then none else some .codeChallenge

/-- The first thing that is wrong with a claim set of a kind. -/
def faultAs? (claims : ClaimSet) (kind : TokenKind) : Option ClaimFault :=
  claims.missing? kind <|> claims.members.findSome? (memberFault? kind) <|> claims.timeFault? <|>
    claims.redirectFault? <|> claims.challengeFault?

/-- How a check can fail: with a fault, or because the kind is an array or an object. -/
inductive CheckError where
  | fault (cause : ClaimFault)
  | kindNotScalar
  deriving DecidableEq, Repr

/-- The kind of a claim set that follows the schema. -/
def check (claims : ClaimSet) : Except CheckError TokenKind :=
  match claims.value .kind with
  | .array _ | .object _ => .error .kindNotScalar
  | .string code =>
      match TokenKind.ofCode? code with
      | none => .error (.fault .unknownKind)
      | some kind =>
          match claims.faultAs? kind with
          | some cause => .error (.fault cause)
          | none => .ok kind
  | _ => .error (.fault .unknownKind)

/-- How building a checked claim set can fail. -/
inductive BuildError where
  | check (cause : CheckError)
  | unwritable
  deriving DecidableEq, Repr

/-- The claim set of members that follow the schema. -/
def ofChecked (members : Members) : Except BuildError ClaimSet :=
  match check ⟨members⟩ with
  | .error cause => .error (.check cause)
  | .ok _ =>
      match ofMembers? members with
      | some claims => .ok claims
      | none => .error .unwritable

/-- The claim set of a JSON value that was read. -/
def ofRead (value : Except Json.ReadError Json) : Except BuildError ClaimSet :=
  match value with
  | .error _ => .error (.check (.fault .notJson))
  | .ok (.object members) => ofChecked members
  | .ok _ => .error (.check (.fault .notObject))

def decode (text : String) : Except BuildError ClaimSet :=
  ofRead (Json.read .strict text)

/-- Read a claim set from bytes in the encoding that they show. -/
def decodeBytes (bytes : Bytes) : Except BuildError ClaimSet :=
  ofRead (Json.readBytes .strict bytes)

end ClaimSet

def ClaimSet.CheckError.failure : ClaimSet.CheckError → Failure
  | .fault cause => .fault (.claims cause)
  | .kindNotScalar => .defect .typeMismatch

/-- The failure of building a checked claim set. -/
def ClaimSet.BuildError.failure : ClaimSet.BuildError → Failure
  | .check cause => cause.failure
  | .unwritable => .defect .tooManyDigits

end SealedGrant
