import SealedGrant.ClaimSet.Check
import SealedGrant.Scope

/-! # Reading members of any claim set

These accessors work on claim sets that were never checked, so each of them can fail: on an absent
member, on a value of another type, or on a syntax error inside it. On a checked claim set they all
succeed.
-/

namespace SealedGrant.ClaimSet

/-- The value of a member that must be present. -/
def required (claims : ClaimSet) (claim : Claim) : Except Failure Json :=
  match claims.members.get? claim.name with
  | some value => .ok value
  | none => .error (.defect .absent)

/-- The value of an optional member: none when absent or null, a fault when of another shape. -/
def optional (claims : ClaimSet) (claim : Claim) (fits : Json → Bool) :
    Except Failure (Option Json) :=
  let value := claims.value claim
  if isNull value then .ok none
  else if fits value then .ok (some value)
  else .error (.fault (.claims (.accessed claim)))

def isText (value : Json) : Bool := value.string?.isSome

def isObject (value : Json) : Bool := value.object?.isSome

def isArray (value : Json) : Bool := value.array?.isSome

/-- The elements of a value that can be walked through: the items of an array, the characters of a
string, the names of an object. -/
def elements : Json → Except Failure (List Json)
  | .array items => .ok items
  | .string text => .ok (text.toList.map fun c => .string (String.singleton c))
  | .object members => .ok (members.map fun member => .string member.1)
  | .null | .bool _ | .number _ => .error (.defect .typeMismatch)

def audience (claims : ClaimSet) : Except Failure (List Json) := do
  elements (← claims.required .audience)

/-- The first element of the audience, which is the client's id. -/
def clientId (claims : ClaimSet) : Except Failure Json := do
  match ← claims.required .audience with
  | .array (first :: _) => return first
  | .string text =>
      match text.toList with
      | first :: _ => return .string (String.singleton first)
      | [] => throw (.defect .outside)
  | .array [] => throw (.defect .outside)
  | .object _ => throw (.defect .absent)
  | .null | .bool _ | .number _ => throw (.defect .typeMismatch)

def redirectUri (claims : ClaimSet) : Except Failure String := do
  match ← claims.required .redirectUri with
  | .string uri =>
      match RedirectUri.check uri with
      | .ok _ => return uri
      | .error cause => throw (.fault (.claims (.redirectUri cause)))
  | _ => throw (.defect .typeMismatch)

def scope (claims : ClaimSet) : Except Failure (List String) := do
  match ← claims.required .scope with
  | .string text => return Scope.items text
  | _ => throw (.defect .typeMismatch)

/-- The code challenge, if there is one. -/
def codeChallenge (claims : ClaimSet) : Except Failure (Option CodeChallenge) := do
  match ← claims.optional .codeChallenge isText with
  | some (.string text) =>
      match CodeChallenge.ofText? text with
      | some challenge => return some challenge
      | none => throw (.fault (.claims .codeChallenge))
  | _ => return none

end SealedGrant.ClaimSet
