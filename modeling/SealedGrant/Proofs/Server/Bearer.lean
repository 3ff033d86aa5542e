import Mathlib
import SealedGrant.Proofs.Http.Arrival
import SealedGrant.Proofs.Server.Delivery

/-! # Asking UserInfo

Whoever asks UserInfo with a text that can be opened at all reaches it with that text
(`SealedGrant.Server.answer_userInfoRequest`). What it answers depends on what the text opens as:
nothing and a fault are unauthorized, a defect is a failure of the server
(`SealedGrant.Server.userInfo_of_defect`), and an access token is unauthorized once it has expired
and else tells its claims (`SealedGrant.Server.userInfo_of_alive`).
-/

namespace SealedGrant

/-- What opens under a key is solid. -/
theorem KeyRing.Opens.isSolid {id text : String} {secret plain : Bytes} {expiry : ℕ}
    (opens : Opens id secret text plain expiry) : Text.IsSolid text := by
  obtain ⟨bytes, envelope, decoded, -⟩ := opens
  exact Base64.isSolid_of_decodeUrl decoded

/-- A bearer's token is an access token that is alive. -/
theorem UserInfo.open?_eq_ok {context : Context} {clock : Clock} {text : String} {access : Token}
    {now : ℤ} {expired : Bool}
    (opened : Token.ofSealed context.ring context.sealSkew clock.sealing .accessToken text =
      .ok access) (reads : clock.now = .ok now)
    (expires : access.isExpired (.int now) context.policy.skew = .ok expired) :
    open? context clock text = .ok (if expired then .error .invalidToken else .ok access) := by
  unfold open?
  rw [opened]
  simp only [bind, Except.bind, reads, expires]
  cases expired <;> rfl

namespace Server

/-- An answer refuses whoever asked as unauthorized. -/
def IsUnauthorized (answer : Except Failure HttpResponse) : Prop :=
  ∃ response, answer = .ok response ∧ response.status = 401

variable {server : Server} {clock : Clock} {request : HttpRequest} {text : String}

theorem unwrap_eq_ok_iff {bytes : Bytes} : server.unwrap clock text = .ok bytes ↔
    server.context.ring.unwrap server.context.sealSkew clock.sealing text = .ok bytes := by
  unfold unwrap
  cases server.context.ring.unwrap server.context.sealSkew clock.sealing text <;>
    simp [Except.mapError]

/-- The request for what UserInfo tells the bearer of a solid text reaches UserInfo. -/
theorem answer_userInfoRequest (server : Server) (clock : Clock) (solid : Text.IsSolid text) :
    server.answer clock (userInfoRequest text) =
      ⟨server.userInfo clock (userInfoRequest text), [], server⟩ := by
  have ascii : ∀ field ∈ (userInfoRequest text).headers,
      Text.IsAscii field.1 ∧ Text.IsAscii field.2 := by
    intro field member
    obtain rfl := List.mem_singleton.mp member
    have name : Text.IsAscii "authorization" := by simp [Text.IsAscii]
    have scheme : Text.IsAscii "Bearer " := by simp [Text.IsAscii]
    exact ⟨name, scheme.append solid.isAscii⟩
  have path : (userInfoRequest text).path = Endpoint.userInfo.path := rfl
  have method : Text.upper Endpoint.userInfo.method = Endpoint.userInfo.method := by decide
  have fits : (userInfoRequest text).hasMethod Endpoint.userInfo.method = true :=
    decide_eq_true method
  rw [answer_eq_answerAt server clock path ascii, answerAt, fits]
  rfl

theorem bearer?_userInfoRequest (solid : Text.IsSolid text) (given : text ≠ "") :
    UserInfo.bearer? ((userInfoRequest text).header? "authorization") = some text := by
  have field : (userInfoRequest text).header? "authorization" = some ("Bearer " ++ text) := by
    simp [userInfoRequest, HttpRequest.header?]
  rw [field, UserInfo.bearer?_of_solid solid given]

/-- **Who bears nothing is unauthorized.** -/
theorem isUnauthorized_of_noBearer
    (absent : UserInfo.bearer? (request.header? "authorization") = none) :
    IsUnauthorized (server.userInfo clock request) := by
  unfold userInfo UserInfo.answer
  rw [absent]
  exact ⟨_, rfl, rfl⟩

section Bearer

variable (bears : UserInfo.bearer? (request.header? "authorization") = some text)

include bears

/-- **A text that opens as no access token is unauthorized.** -/
theorem isUnauthorized_of_fault {cause : Fault}
    (refused : server.inspect clock .accessToken text = .error (.fault cause)) :
    IsUnauthorized (server.userInfo clock request) := by
  unfold inspect at refused
  unfold userInfo UserInfo.answer UserInfo.open?
  rw [bears]
  dsimp only
  rw [refused]
  exact ⟨_, rfl, rfl⟩

/-- A text that cannot be opened is unauthorized. -/
theorem isUnauthorized_of_unwrap {cause : SealFault}
    (refused : server.context.ring.unwrap server.context.sealSkew clock.sealing text =
      .error cause) : IsUnauthorized (server.userInfo clock request) := by
  have unopened : server.inspect clock .accessToken text = .error (.fault (.sealing cause)) := by
    unfold inspect Token.ofSealed
    rw [refused]
  exact isUnauthorized_of_fault bears unopened

/-- **A text whose opening breaks down fails the request.** -/
theorem userInfo_of_defect {cause : Defect}
    (broken : server.inspect clock .accessToken text = .error (.defect cause)) :
    server.userInfo clock request = .error (.defect cause) := by
  unfold inspect at broken
  unfold userInfo UserInfo.answer UserInfo.open?
  rw [bears]
  dsimp only
  rw [broken]
  rfl

variable {access : Token} {now : ℤ}
  (opened : server.inspect clock .accessToken text = .ok access) (reads : clock.now = .ok now)

include opened reads

/-- **An access token that has expired is unauthorized.** -/
theorem isUnauthorized_of_expired
    (expired : access.isExpired (.int now) server.context.policy.skew = .ok true) :
    IsUnauthorized (server.userInfo clock request) := by
  have refused := UserInfo.open?_eq_ok opened reads expired
  unfold userInfo UserInfo.answer
  rw [bears]
  dsimp only
  rw [refused]
  exact ⟨_, rfl, rfl⟩

/-- **An access token that is alive tells its claims.** -/
theorem userInfo_of_alive
    (alive : access.isExpired (.int now) server.context.policy.skew = .ok false) {body : String}
    (written : (Json.object (UserInfo.publishedMembers (UserInfo.claims access))).renderFinite
      .compact = .ok body) :
    server.userInfo clock request = .ok ⟨200, [], body⟩ := by
  have told := UserInfo.open?_eq_ok opened reads alive
  unfold userInfo UserInfo.answer
  rw [bears]
  dsimp only
  rw [told]
  simp only [bind, Except.bind, pure, Except.pure, Bool.false_eq_true, ↓reduceIte, written]

end Bearer

end Server
end SealedGrant
