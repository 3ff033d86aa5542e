import SealedGrant.Grant.Context
import SealedGrant.Text.Blank

/-! # User attributes for a bearer

Whoever bears a live access token learns the user's id and the attributes that the token delivers.
Attributes for this consumer alone win over those for both, and none replaces the id.
-/

namespace SealedGrant.UserInfo

/-- The token of a bearer header: the text after the scheme and a blank. -/
def bearer? (header : Option String) : Option String := do
  let chars := (← header).toList
  let scheme := Text.lower (String.ofList (chars.takeWhile (· ≠ ' ')))
  let token := Text.trim (String.ofList ((chars.dropWhile (· ≠ ' ')).drop 1))
  if scheme = "bearer" && token ≠ "" then some token else none

/-- Why a bearer learns nothing. -/
inductive Refusal where
  | noToken
  | invalidToken
  deriving DecidableEq, Repr

/-- What the answer to a refusal says. -/
def Refusal.detail : Refusal → String
  | .noToken => "Bearer token required"
  | .invalidToken => "Invalid or expired token"

/-- The challenge that goes with a refusal. -/
def Refusal.challenge : Refusal → String
  | .noToken => "Bearer"
  | .invalidToken => "Bearer error=\"invalid_token\""

/-- The names that answers leave out at every depth: they are reserved for stored records. -/
def isReserved (name : String) : Bool :=
  name.startsWith "_sa"

mutual

/-- A value without the members that have reserved names. -/
def published : Json → Json
  | .array items => .array (publishedItems items)
  | .object members => .object (publishedMembers members)
  | .null => .null
  | .bool value => .bool value
  | .number n => .number n
  | .string text => .string text

/-- Items without members that have reserved names. -/
def publishedItems : List Json → List Json
  | [] => []
  | item :: rest => published item :: publishedItems rest

/-- Members without those that have reserved names. -/
def publishedMembers : List (String × Json) → List (String × Json)
  | [] => []
  | (name, value) :: rest =>
      if isReserved name then publishedMembers rest
      else (name, published value) :: publishedMembers rest

end

/-- The attributes of an access token and the user's id. -/
def claims (access : Token) : Members :=
  ((Members.merge [] (access.delivered .delivery)).merge (access.delivered .deliveryUi)).set
    "sub" (.string access.subject)

/-- The live access token of a bearer. The time is asked for once the token is open. -/
def open? (context : Context) (clock : Clock) (text : String) :
    Except Failure (Except Refusal Token) :=
  match Token.ofSealed context.ring context.sealSkew clock.sealing .accessToken text with
  | .ok access => do
      match access.isExpired (.int (← clock.now)) context.policy.skew with
      | .ok expired => return if expired then .error .invalidToken else .ok access
      | .error cause => throw (.defect (.arithmetic cause))
  | .error (.fault _) => .ok (.error .invalidToken)
  | .error (.defect cause) => .error (.defect cause)

def answer (context : Context) (clock : Clock) (header : Option String) :
    Except Failure (Except Refusal Members) :=
  match bearer? header with
  | none => .ok (.error .noToken)
  | some text => do
      match ← open? context clock text with
      | .ok access => return .ok (claims access)
      | .error refusal => return .error refusal

end SealedGrant.UserInfo
