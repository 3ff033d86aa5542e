import Mathlib
import SealedGrant.Proofs.ClaimSet.Reading
import SealedGrant.Proofs.KeyRing.Rotation
import SealedGrant.Proofs.Server.Bearer

/-! # Envelopes that hold no claim set

An envelope is sealed by whoever has the key, so it may hold anything. What holds no claim set is
refused as an invalid grant, and UserInfo is unauthorized, unless the content is an object whose
kind is an array or an object: that fails the server
(`SealedGrant.Server.answers_to_foreign_contents`).
-/

namespace SealedGrant

variable {server : Server} {clock : Clock} {text : String} {bytes : Bytes}

/-- An envelope that holds no claim set is opened as a token of no kind. -/
theorem Token.ofSealed_of_foreign {ring : KeyRing} {skew now : Number}
    (opens : ring.unwrap skew now text = .ok bytes)
    (foreign : ∀ claims, ClaimSet.decodeBytes bytes ≠ .ok claims) (kind : TokenKind) :
    (ClaimSet.nestsKind bytes = true ∧
        ofSealed ring skew now kind text = .error (.defect .typeMismatch)) ∨
      (ClaimSet.nestsKind bytes = false ∧
        ∃ cause, ofSealed ring skew now kind text = .error (.fault (.claims cause))) := by
  unfold ofSealed
  rw [opens]
  exact readBytes_of_foreign foreign kind

/-- A request whose text does not open as a token is refused for it. -/
theorem Grant.handle_of_ofSealed_error {context : Context} {readings : Readings}
    {request : GrantRequest} {kind : TokenKind} {cause : Failure}
    (named : presented request = .ok (kind, text))
    (refused : Token.ofSealed context.ring context.sealSkew readings.sealing kind text =
      .error cause) (state : ServiceState) :
    handle context readings request state = (.refused ⟨cause, .grantParsed, none⟩, state) := by
  unfold handle accept
  rw [named]
  dsimp only
  rw [refused]

namespace Server

/-- A text that is opened can be borne. -/
theorem isSolid_of_unwrap (opens : server.unwrap clock text = .ok bytes) :
    Text.IsSolid text ∧ text ≠ "" := by
  obtain ⟨id, secret, expiry, -, holds, -⟩ :=
    KeyRing.unwrap_eq_ok_iff.mp (unwrap_eq_ok_iff.mp opens)
  exact ⟨holds.isSolid, holds.text_ne⟩

section Foreign

variable (opens : server.unwrap clock text = .ok bytes)
  (foreign : ∀ claims, ClaimSet.decodeBytes bytes ≠ .ok claims)

include opens foreign

/-- **A grant that holds no claim set** is refused as invalid, unless its kind is nested, and
nothing changes. -/
theorem handle_of_foreign {readings : Readings} (reads : clock.readings = .ok readings)
    {request : GrantRequest} {kind : TokenKind}
    (named : Grant.presented request = .ok (kind, text)) :
    ∃ refusal, (server.handle clock request).result = .ok (.refused refusal) ∧
      (server.handle clock request).server = server ∧ refusal.after = .grantParsed ∧
      refusal.code = if ClaimSet.nestsKind bytes then .serverError else .invalidGrant := by
  have event : (⟨clock, .handle request⟩ : Event).clock.readings = .ok readings := reads
  have shown : readings.sealing = clock.sealing := (Event.shown_of_readings event).2
  have opened := unwrap_eq_ok_iff.mp opens
  rw [← shown] at opened
  rw [handle_eq reads]
  rcases Token.ofSealed_of_foreign opened foreign kind with
      ⟨nested, refused⟩ | ⟨plain, cause, refused⟩
  · rw [Grant.handle_of_ofSealed_error named refused, nested]
    exact ⟨_, rfl, rfl, rfl, rfl⟩
  · rw [Grant.handle_of_ofSealed_error named refused, plain]
    exact ⟨_, rfl, rfl, rfl, rfl⟩

/-- **The bearer of what holds no claim set** is unauthorized, unless its kind is nested. -/
theorem answer_of_foreign :
    if ClaimSet.nestsKind bytes then
      (server.answer clock (userInfoRequest text)).result = .error (.defect .typeMismatch)
    else IsUnauthorized (server.answer clock (userInfoRequest text)).result := by
  obtain ⟨solid, given⟩ := isSolid_of_unwrap opens
  have bears := bearer?_userInfoRequest solid given
  rw [answer_userInfoRequest server clock solid]
  rcases Token.ofSealed_of_foreign (unwrap_eq_ok_iff.mp opens) foreign .accessToken with
      ⟨nested, refused⟩ | ⟨plain, cause, refused⟩
  · rw [if_pos nested]
    exact userInfo_of_defect bears refused
  · rw [plain, if_neg Bool.false_ne_true]
    exact isUnauthorized_of_fault bears refused

end Foreign

/-- **What is answered to contents that are no claim set.** Reading judges every text and every
byte string: a claim set is read, or there is a fault, or the kind is nested in an array or an
object. A grant that is opened and holds no claim set is refused as invalid and changes nothing, and
its bearer is unauthorized; but where the kind is nested, the server fails. -/
theorem answers_to_foreign_contents (server : Server) (clock : Clock) :
    (∀ text, ClaimSet.Judges (Json.read .strict text) (ClaimSet.decode text)) ∧
    (∀ bytes, ClaimSet.Judges (Json.readBytes .strict bytes) (ClaimSet.decodeBytes bytes)) ∧
    ∀ (text : String) (bytes : Bytes), server.unwrap clock text = .ok bytes →
      (∀ claims, ClaimSet.decodeBytes bytes ≠ .ok claims) →
      (∀ readings request kind, clock.readings = .ok readings →
        Grant.presented request = .ok (kind, text) →
        ∃ refusal, (server.handle clock request).result = .ok (.refused refusal) ∧
          (server.handle clock request).server = server ∧ refusal.after = .grantParsed ∧
          refusal.code = if ClaimSet.nestsKind bytes then .serverError else .invalidGrant) ∧
      if ClaimSet.nestsKind bytes then
        (server.answer clock (userInfoRequest text)).result = .error (.defect .typeMismatch)
      else IsUnauthorized (server.answer clock (userInfoRequest text)).result :=
  ⟨ClaimSet.judges_decode, ClaimSet.judges_decodeBytes, fun _ _ opens foreign =>
    ⟨fun _ _ _ reads named => handle_of_foreign opens foreign reads named,
      answer_of_foreign opens foreign⟩⟩

/-- The first server seals any content, and opens it before its time is up. -/
theorem exists_unwrap_sample (plain : Bytes) : ∃ text last,
    (sample.context.ring.wrap sample.context.random plain (.int 1700000300)).run .fresh =
        (.ok text, last) ∧
      sample.unwrap (.still 1700000000) text = .ok plain := by
  have made : KeyRing.ofKeys [Sample.key] = .ok sample.context.ring := rfl
  obtain ⟨text, closed⟩ := (KeyRing.sound_of_ofKeys made).exists_wrap sample.context.random plain
    (show 1700000300 < KeyRing.expiryLimit by decide) .fresh
  obtain ⟨secret, seconds, bound, ends, opens⟩ := KeyRing.opens_of_wrap Sample.exact_random closed
  obtain rfl : 1700000300 = seconds := Int.natCast_inj.mp ends
  exact ⟨text, _, closed, unwrap_eq_ok_iff.mpr
    (KeyRing.unwrap_eq_ok_iff.mpr ⟨_, secret, _, bound, opens, rfl⟩)⟩

/-- The bytes of an object that has a kind and nothing else. -/
def kindAlone (kind : Json) : Bytes :=
  Utf8.encode ((Json.object [(Claim.kind.name, kind)]).render .compact)

section KindAlone

variable {kind : Json} (readable : (Json.object [(Claim.kind.name, kind)]).allNumbers
  Json.isReadable = true)

include readable

theorem readBytes_kindAlone : Json.readBytes .strict (kindAlone kind) =
    .ok (.object [(Claim.kind.name, kind.settled)]) :=
  Json.readBytes_render Json.Style.separates_compact .strict readable

/-- Without its other members an object is no claim set. -/
theorem decodeBytes_kindAlone_ne (claims : ClaimSet) :
    ClaimSet.decodeBytes (kindAlone kind) ≠ .ok claims := by
  intro read
  obtain ⟨same, found, follows⟩ := ((ClaimSet.judges_decodeBytes _).accepted claims).mp read
  rw [readBytes_kindAlone readable] at same
  obtain rfl : claims = ⟨[(Claim.kind.name, kind.settled)]⟩ :=
    congrArg ClaimSet.mk (Json.object.inj (Except.ok.inj same)).symm
  cases follows.present .id (by cases found <;> rfl)

theorem nestsKind_kindAlone : ClaimSet.nestsKind (kindAlone kind) =
    (Json.object [(Claim.kind.name, kind.settled)]).nestsKind := by
  rw [ClaimSet.nestsKind, readBytes_kindAlone readable]
  rfl

end KindAlone

/-- An object of a kind that there is not is sealed: it is no grant and no access token. -/
theorem answers_to_foreign_contents_sample : ∃ text last,
    (sample.context.ring.wrap sample.context.random (kindAlone (.string "xx"))
        (.int 1700000300)).run .fresh = (.ok text, last) ∧
      (∃ refusal, (sample.handle (.still 1700000000) (Grant.codeGrant text)).result =
          .ok (.refused refusal) ∧ refusal.code = .invalidGrant) ∧
      IsUnauthorized (sample.answer (.still 1700000000) (userInfoRequest text)).result := by
  obtain ⟨text, last, closed, opens⟩ := exists_unwrap_sample (kindAlone (.string "xx"))
  have plain : ClaimSet.nestsKind (kindAlone (.string "xx")) = false := nestsKind_kindAlone rfl
  obtain ⟨-, -, answers⟩ := answers_to_foreign_contents sample (.still 1700000000)
  obtain ⟨handles, bearer⟩ := answers text _ opens (decodeBytes_kindAlone_ne rfl)
  obtain ⟨refusal, refused, -, -, code⟩ := handles _ (Grant.codeGrant text) _ rfl
    (Grant.presented_codeGrant (isSolid_of_unwrap opens).2)
  rw [plain] at code bearer
  exact ⟨text, last, closed, ⟨refusal, refused, code⟩, bearer⟩

/-- **A nested kind fails the server**, both for a grant and for a bearer. -/
theorem fails_for_nested_kind :
    ClaimSet.decodeBytes (kindAlone (.array [])) = .error (.check .kindNotScalar) ∧
    ∃ text last, (sample.context.ring.wrap sample.context.random (kindAlone (.array []))
        (.int 1700000300)).run .fresh = (.ok text, last) ∧
      (∃ refusal, (sample.handle (.still 1700000000) (Grant.codeGrant text)).result =
          .ok (.refused refusal) ∧ refusal.code = .serverError) ∧
      (sample.answer (.still 1700000000) (userInfoRequest text)).result =
        .error (.defect .typeMismatch) := by
  have read : Json.readBytes .strict (kindAlone (.array [])) =
      .ok (.object [(Claim.kind.name, .array [])]) := readBytes_kindAlone rfl
  obtain ⟨text, last, closed, opens⟩ := exists_unwrap_sample (kindAlone (.array []))
  have nested : ClaimSet.nestsKind (kindAlone (.array [])) = true := nestsKind_kindAlone rfl
  have reads : (Clock.still 1700000000).readings = .ok (readingsAt 1700000000) := rfl
  obtain ⟨refusal, refused, -, -, code⟩ := handle_of_foreign opens (decodeBytes_kindAlone_ne rfl)
    reads (Grant.presented_codeGrant (isSolid_of_unwrap opens).2)
  have bearer := answer_of_foreign opens (decodeBytes_kindAlone_ne rfl)
  rw [nested] at code bearer
  exact ⟨(ClaimSet.judges_decodeBytes _).unjudged.mpr ⟨_, read, rfl⟩, text, last, closed,
    ⟨refusal, refused, code⟩, bearer⟩

end Server
end SealedGrant
