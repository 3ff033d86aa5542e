import SealedGrant.Grant.Admission
import SealedGrant.Grant.Issuance
import SealedGrant.Reservation

/-! # Redeeming a grant

    start → grant parsed → token unwrapped → identity verified → replay reserved → issued → done

An admitted grant is reserved before anything is issued for it, so it is used up even when issuing
fails; a refresh token that does not rotate needs no reservation. Every request gets an answer.
-/

namespace SealedGrant

/-- What requests change: the material handed out and the reservations. -/
structure ServiceState where
  supply : Supply
  store : ReservationStore

namespace Grant

/-- How long a grant must stay reserved: as long as it could be accepted. -/
def reservationSpan (policy : Policy) (now : Int) (grant : Token) :
    Except ArithmeticFault Number := do
  (← (Number.int grant.expiresAt).sum policy.skew).difference (.int now)

/-- Whether a grant can be used only once. -/
def singleUse (policy : Policy) (kind : TokenKind) : Bool :=
  kind = .authorizationCode || policy.rotates

/-- Reserve a grant that can be used only once. -/
def reserve (policy : Policy) (readings : Readings) (grant : Token) (store : ReservationStore) :
    Except Failure Unit × ReservationStore :=
  if singleUse policy grant.kind then
    match reservationSpan policy readings.now grant with
    | .error cause => (.error (.defect (.arithmetic cause)), store)
    | .ok span =>
        match store.reserve readings.store grant.id span with
        | (.ok .reserved, store) => (.ok (), store)
        | (.ok .alreadyPresent, store) => (.error (.fault (.replayed grant.kind)), store)
        | (.error cause, store) => (.error cause, store)
  else (.ok (), store)

def redeem (context : Context) (readings : Readings) (request : GrantRequest) (grant : Token)
    (state : ServiceState) : Answer × ServiceState :=
  match reserve context.policy readings grant state.store with
  | (.error cause, store) =>
      (.refused ⟨cause, .identityVerified, some grant.id⟩, { state with store })
  | (.ok (), store) =>
      match (issue context request readings.now grant).run state.supply with
      | (.error cause, supply) =>
          (.refused ⟨cause, .replayReserved, some grant.id⟩, ⟨supply, store⟩)
      | (.ok issued, supply) => (.granted issued, ⟨supply, store⟩)

def handle (context : Context) (readings : Readings) (request : GrantRequest)
    (state : ServiceState) : Answer × ServiceState :=
  match accept context readings request with
  | .error refusal => (.refused refusal, state)
  | .ok grant => redeem context readings request grant state

end Grant
end SealedGrant
