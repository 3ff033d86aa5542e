import SealedGrant.IdToken
import SealedGrant.KeyRing.Basic
import SealedGrant.Policy

/-! # What the service works with

The parts of the token life cycle are explicit: nothing depends on the process around it. Time is
not among them; every operation is given its readings of the clock, one for each part that looks at
it, because time may pass between them.
-/

namespace SealedGrant

/-- The parts that do not change while a request is served. -/
structure Context where
  issuer : String
  policy : Policy
  ring : KeyRing
  /-- The tolerance of the key ring, beside the one of the policy. -/
  sealSkew : Number
  signer : Signer
  ids : IdSource
  random : RandomSource

/-- What the clock shows during one request, to each part that looks at it. -/
structure Clock where
  service : Number
  sealing : Number
  store : Number

/-- The readings that a request works with: the service counts whole seconds. -/
structure Readings where
  now : Int
  sealing : Number
  store : Number

namespace Clock

def still (now : Number) : Clock := ⟨now, now, now⟩

/-- The time of a request, if the clock shows a time that has whole seconds. -/
def now (clock : Clock) : Except Failure Int :=
  clock.service.whole.mapError (.defect <| .arithmetic ·)

/-- The readings of a clock that shows the service a time. -/
def readings (clock : Clock) : Except Failure Readings := do
  return ⟨← clock.now, clock.sealing, clock.store⟩

end Clock

namespace Token

/-- The failure of closing an envelope, as a failure of the service. -/
def ofDefect {α : Type} (draw : Draw Defect α) : Draw Failure α :=
  ExceptT.adapt .defect draw

/-- The sealed form of a token: its canonical text in an envelope that expires with it. Every text
has a form in UTF-8, since a string of a claim set holds no surrogate; one that did would be written
but could not be sealed. -/
def sealedBy (token : Token) (ring : KeyRing) (random : RandomSource) : Draw Failure String := do
  let text ← Draw.ofResult token.serialize
  ofDefect (ring.wrap random (Utf8.encode text) (.int token.expiresAt))

/-- The form of a token that the service seals. -/
def sealed (token : Token) (context : Context) : Draw Failure String :=
  token.sealedBy context.ring context.random

/-- Open the sealed form of a token of a kind. -/
def ofSealed (ring : KeyRing) (skew now : Number) (kind : TokenKind) (text : String) :
    Except Failure Token :=
  match ring.unwrap skew now text with
  | .ok bytes => readBytes kind bytes
  | .error cause => .error (.fault (.sealing cause))

end Token
end SealedGrant
