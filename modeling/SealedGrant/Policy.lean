import SealedGrant.Json.Value

/-! # Issuance policy

A policy fixes the lifetimes of tokens, whether refresh tokens rotate, how far clocks may differ
and which clients owe a proof key. A policy that exists is consistent: its lifetimes are positive
and nothing in it is negative.
-/

namespace SealedGrant

/-- A span of time in seconds, as it was configured: a number, or a truth value that counts as one
second or none. -/
inductive Duration where
  | seconds (count : Number)
  | flag (on : Bool)
  deriving DecidableEq

namespace Duration

def amount : Duration → Number
  | .seconds count => count
  | .flag on => .int (if on then 1 else 0)

def toJson : Duration → Json
  | .seconds count => .number count
  | .flag on => .bool on

def ofJson? : Json → Option Duration
  | .number count => some (.seconds count)
  | .bool on => some (.flag on)
  | _ => none

/-- Whether a span is longer than nothing. -/
def isPositive (span : Duration) : Bool :=
  !span.amount.le 0

/-- Whether a span is less than nothing. -/
def isNegative (span : Duration) : Bool :=
  span.amount.lt 0

instance (n : Nat) : OfNat Duration n := ⟨.seconds (.int n)⟩

end Duration

/-- What happens to a refresh token when it is used. -/
inductive Rotation where
  | off
  /-- It is used up, and a new one takes its place. -/
  | rotateAndRevoke
  deriving DecidableEq, Repr

namespace Rotation

def all : List Rotation := [.off, .rotateAndRevoke]

def name : Rotation → String
  | .off => "off"
  | .rotateAndRevoke => "rotate-and-revoke"

def ofName? (name : String) : Option Rotation :=
  all.find? fun mode => mode.name = name

end Rotation

/-- Which clients must bind their codes to a proof key. -/
inductive PkceDemand where
  | noClients
  | publicClients
  | allClients
  deriving DecidableEq, Repr

namespace PkceDemand

def all : List PkceDemand := [.noClients, .publicClients, .allClients]

def name : PkceDemand → String
  | .noClients => "none"
  | .publicClients => "public-clients"
  | .allClients => "all"

def ofName? (name : String) : Option PkceDemand :=
  all.find? fun mode => mode.name = name

end PkceDemand

/-- The parts of a policy before they are checked. -/
structure PolicyInput where
  accessTtl : Json
  refreshTtl : Json
  codeTtl : Json
  idTtl : Json
  rotation : Json
  skew : Json
  pkce : Json

/-- The parts of the policy that holds where nothing is configured. -/
def PolicyInput.default : PolicyInput where
  accessTtl := .number 3600
  refreshTtl := .number 7200
  codeTtl := .number 300
  idTtl := .number 3600
  rotation := .string Rotation.off.name
  skew := .number 0
  pkce := .string PkceDemand.noClients.name

/-- The names of the parts of a policy. -/
def PolicyInput.names : List String :=
  ["access_token_ttl", "refresh_token_ttl", "authorization_code_ttl", "id_token_ttl",
    "refresh_token_rotation", "clock_skew_tolerance", "pkce_required"]

/-- Why a policy is refused. -/
inductive PolicyFault where
  /-- A part has a name that no policy knows. -/
  | unknownPart
  | unknownRotation
  | unknownPkce
  /-- A lifetime that must be positive is not. -/
  | notPositive (name : String)
  /-- The lifetime of refresh tokens or the tolerance is negative. -/
  | negative
  /-- A span of time is no number. -/
  | notNumber
  deriving DecidableEq, Repr

def PolicyFault.listed (names : List String) : String :=
  "(" ++ ", ".intercalate (names.map fun name => "'" ++ name ++ "'") ++ ")"

def PolicyFault.message : PolicyFault → String
  | .unknownPart => "a policy has seven parts and no others"
  | .unknownRotation =>
      "refresh_token_rotation must be one of " ++ listed (Rotation.all.map (·.name))
  | .unknownPkce => "pkce_required must be one of " ++ listed (PkceDemand.all.map (·.name))
  | .notPositive name => name ++ " must be positive"
  | .negative => "refresh_token_ttl and clock_skew_tolerance must not be negative"
  | .notNumber => "a span of time must be a number"

/-- The parts of a policy that members give; the others are those that hold where nothing is
configured. -/
def PolicyInput.ofMembers (members : Members) : Except PolicyFault PolicyInput :=
  let part := fun (name : String) (fallback : Json) => (members.get? name).getD fallback
  if members.names.all names.contains then
    .ok {
      accessTtl := part "access_token_ttl" default.accessTtl
      refreshTtl := part "refresh_token_ttl" default.refreshTtl
      codeTtl := part "authorization_code_ttl" default.codeTtl
      idTtl := part "id_token_ttl" default.idTtl
      rotation := part "refresh_token_rotation" default.rotation
      skew := part "clock_skew_tolerance" default.skew
      pkce := part "pkce_required" default.pkce }
  else .error .unknownPart

/-- An issuance policy. -/
structure Policy where
  accessTtl : Duration
  refreshTtl : Duration
  codeTtl : Duration
  idTtl : Duration
  rotation : Rotation
  /-- How far the clocks of issuer and consumer may differ. -/
  skewSpan : Duration
  pkce : PkceDemand
  access_positive : accessTtl.isPositive = true
  code_positive : codeTtl.isPositive = true
  id_positive : idTtl.isPositive = true
  refresh_nonneg : refreshTtl.isNegative = false
  skew_nonneg : skewSpan.isNegative = false

namespace Policy

def skew (policy : Policy) : Number := policy.skewSpan.amount

def rotates (policy : Policy) : Bool := policy.rotation = .rotateAndRevoke

/-- Whether a client must bind its codes to a proof key. -/
def demandsPkce (policy : Policy) (publicClient : Bool) : Bool :=
  policy.pkce = .allClients || (policy.pkce = .publicClients && publicClient)

def positive (name : String) (input : Json) :
    Except PolicyFault { span : Duration // span.isPositive = true } :=
  match Duration.ofJson? input with
  | none => .error .notNumber
  | some span =>
      if holds : span.isPositive = true then .ok ⟨span, holds⟩ else .error (.notPositive name)

/-- A span of time that is not negative. -/
def nonnegative (input : Json) :
    Except PolicyFault { span : Duration // span.isNegative = false } :=
  match Duration.ofJson? input with
  | none => .error .notNumber
  | some span => if holds : span.isNegative = false then .ok ⟨span, holds⟩ else .error .negative

/-- The policy of its parts: the modes are checked first, then the lifetimes. -/
def make (input : PolicyInput) : Except PolicyFault Policy := do
  let rotation ← (input.rotation.string?.bind Rotation.ofName?).elim (throw .unknownRotation) pure
  let pkce ← (input.pkce.string?.bind PkceDemand.ofName?).elim (throw .unknownPkce) pure
  let access ← positive "access_token_ttl" input.accessTtl
  let code ← positive "authorization_code_ttl" input.codeTtl
  let id ← positive "id_token_ttl" input.idTtl
  let refresh ← nonnegative input.refreshTtl
  let skew ← nonnegative input.skew
  return {
    accessTtl := access
    refreshTtl := refresh
    codeTtl := code
    idTtl := id
    rotation
    skewSpan := skew
    pkce
    access_positive := access.property
    code_positive := code.property
    id_positive := id.property
    refresh_nonneg := refresh.property
    skew_nonneg := skew.property }

end Policy
end SealedGrant
