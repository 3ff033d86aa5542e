import SealedGrant.Fault
import SealedGrant.CodeChallenge
import SealedGrant.Json.Display
import SealedGrant.Json.Writer
import SealedGrant.Text.WholeNumber

/-! # Claim sets

A claim set holds the members of a token in the order in which they were set. Building one demands
only that every member can be written; following the schema is checked apart, so a claim set that
does not follow it can still be inspected.
-/

namespace SealedGrant

/-- The members of a token. -/
structure ClaimSet where
  members : Members

namespace ClaimSet

/-- The value of a known member, null when it is absent. -/
def value (claims : ClaimSet) (claim : Claim) : Json :=
  claims.members.getD claim.name

def has (claims : ClaimSet) (claim : Claim) : Bool :=
  claims.members.has claim.name

/-- The text of a known member, when it is a string. -/
def text? (claims : ClaimSet) (claim : Claim) : Option String :=
  (claims.value claim).string?

/-- The kind of token that a claim set says it is. -/
def kind? (claims : ClaimSet) : Option TokenKind :=
  (claims.text? .kind).bind TokenKind.ofCode?

/-- The claim set of members that can all be written. -/
def ofMembers? (members : Members) : Option ClaimSet :=
  if (Json.object members).allNumbers Json.isWritable then some ⟨members⟩ else none

/-- Whether two claim sets have the same members, whatever their order. -/
def same (left right : ClaimSet) : Bool :=
  (Json.object left.members).same (.object right.members)

/-- The canonical text of a claim set. -/
def encode (claims : ClaimSet) : Except Json.WriteError String :=
  (Json.object claims.members).canonical

/-- The short display of a claim set: its kind and its id only. -/
def summary (claims : ClaimSet) : String :=
  "ClaimSet(type=" ++ (claims.value .kind).quoted ++ ", jti=" ++ (claims.value .id).quoted ++ ")"

end ClaimSet
end SealedGrant
