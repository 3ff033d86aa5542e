import Mathlib
import SealedGrant.Proofs.Grant.Delivery
import SealedGrant.Proofs.Server.Effects

/-! # Attributes reach their consumer alone

Two codes that differ in the attributes for the ID token alone are redeemed with one outcome but for
the ID token, so that UserInfo tells the same for all access tokens that come of them, however often
they are refreshed; and two codes that differ in the attributes for UserInfo alone are redeemed with
one outcome but for the access token (`SealedGrant.Server.delivery_stays_with_its_consumer`).
-/

namespace SealedGrant

namespace Server

/-- **Two replies agree**: the server after them and what they tell the log are the same, and so is
the answer, but for what is granted, which is related. -/
structure SameReply (related : Issued → Issued → Prop) (left right : Reply Answer) : Prop where
  server : left.server = right.server
  log : left.log = right.log
  result : SameResult (SameAnswer related) left.result right.result

/-- What agrees with a reply that grants tokens grants tokens too. -/
theorem SameReply.exists_granted {related : Issued → Issued → Prop} {first second : Reply Answer}
    (same : SameReply related first second) {tokens : Issued}
    (granted : first.result = .ok (.granted tokens)) :
    ∃ others, second.result = .ok (.granted others) ∧ related tokens others := by
  have results := same.result
  rw [granted] at results
  generalize second.result = result at results
  cases results with
  | ok answers =>
    cases answers with
    | granted both => exact ⟨_, rfl, both⟩

/-- A refresh: what happens before it, and the request that presents the refresh token. -/
structure Refresh where
  events : List Event
  clock : Clock
  request : GrantRequest

/-- The access tokens that come of refreshing time after time. Each request presents the newest
refresh token that there is. -/
def refreshed (server : Server) (refreshToken : Option String) : List Refresh → List String
  | [] => []
  | next :: rest =>
      let reply := (server.run next.events).handle next.clock
        { next.request with grantType := some refreshGrantType, refreshToken }
      match reply.result with
      | .ok (.granted tokens) =>
          tokens.accessToken ::
            reply.server.refreshed ((tokens.refresh.map Prod.fst).or refreshToken) rest
      | .ok (.refused _) | .error _ => reply.server.refreshed refreshToken rest

/-- The access token that was issued and those that come of refreshing it. -/
def accessTokens (server : Server) (tokens : Issued) (refreshes : List Refresh) : List String :=
  tokens.accessToken :: server.refreshed (tokens.refresh.map Prod.fst) refreshes

/-- The request for what UserInfo tells the bearer of an access token. -/
def userInfoRequest (accessToken : String) : HttpRequest where
  method := Endpoint.userInfo.method
  path := Endpoint.userInfo.path
  headers := [("authorization", "Bearer " ++ accessToken)]
  form := []

/-- **What is issued is the same but for the ID token**: the access tokens hold one claim set, and
so do the refresh tokens, and UserInfo tells the same for the access tokens and for all that are
refreshed from them, whenever it is asked. -/
structure SameButIdToken (server : Server) (first second : Issued) : Prop where
  alike : Issued.Alike Eq (fun left right => left.isSome = right.isSome) first second
  access : ∃ token, server.context.Seals first.accessToken token ∧
    server.context.Seals second.accessToken token
  refresh : ∃ token, Option.Rel (fun closed found => server.context.Seals closed.1 found)
      first.refresh token ∧
    Option.Rel (fun closed found => server.context.Seals closed.1 found) second.refresh token
  userInfo : ∀ (refreshes : List Refresh) (later : Server) (clock : Clock), List.Forall₂
    (fun left right => later.answer clock (userInfoRequest left) =
      later.answer clock (userInfoRequest right))
    (server.accessTokens first refreshes) (server.accessTokens second refreshes)

/-- **What is issued is the same but for the access token**, which differs in the attributes for
UserInfo alone: the refresh tokens hold one claim set and the ID token is the same. -/
structure SameButAccessToken (server : Server) (first second : Issued) : Prop where
  alike : Issued.Alike server.context.SealsAlike Eq first second
  refresh : ∃ token, Option.Rel (fun closed found => server.context.Seals closed.1 found)
      first.refresh token ∧
    Option.Rel (fun closed found => server.context.Seals closed.1 found) second.refresh token

variable {server : Server} {clock : Clock} {request : GrantRequest} {leftText rightText : String}

theorem context_handle (server : Server) (clock : Clock) (request : GrantRequest) :
    (server.handle clock request).server.context = server.context := by
  cases reads : clock.readings with
  | error cause =>
    rw [handle, reads]
    rfl
  | ok readings => rw [handle_eq reads]

/-- The log is not told which code was presented. -/
theorem logEntry_code (answer : Answer) (code : Option String) :
    answer.logEntry { request with code } = answer.logEntry request := by
  cases answer <;> rfl

/-- **Replies agree when answers do**, whatever else holds of what is granted. -/
theorem sameReply_of_handle {known related : Issued → Issued → Prop}
    (handled : ∀ readings, SameAnswer known
        (Grant.handle server.context readings { request with code := some leftText }
          server.service).1
        (Grant.handle server.context readings { request with code := some rightText }
          server.service).1 ∧
      (Grant.handle server.context readings { request with code := some leftText }
          server.service).2 =
        (Grant.handle server.context readings { request with code := some rightText }
          server.service).2)
    (told : ∀ first second, known first second →
      first.grantId = second.grantId ∧ first.listed = second.listed)
    (implies : ∀ readings first second, (Grant.handle server.context readings
        { request with code := some leftText } server.service).1 = .granted first →
      known first second → related first second) :
    SameReply related (server.handle clock { request with code := some leftText })
      (server.handle clock { request with code := some rightText }) := by
  cases reads : clock.readings with
  | error cause =>
    rw [handle, handle, reads]
    exact ⟨rfl, rfl, .error cause⟩
  | ok readings =>
    obtain ⟨answers, states⟩ := handled readings
    have entries := answers.logEntry_eq told request
    rw [← logEntry_code _ (some leftText), ← logEntry_code _ (some rightText)] at entries
    rw [handle_eq reads, handle_eq reads, states]
    exact ⟨rfl, congrArg ([·]) entries,
      .ok (answers.mono fun first second granted _ => implies _ _ _ granted)⟩

variable {hidden : Claim} {ring : KeyRing} {secret : Bytes} {left right : Token}

/-- **Attributes reach their consumer alone.** Two codes were sealed under one key and differ in the
attributes for one consumer alone. Requests that differ in the code alone are answered alike at
every time by every server: it is the same server afterwards, it tells its log the same, and it
refuses both for the same cause or neither.

If the codes differ in the attributes for the ID token, what is granted is the same but for the ID
token: the access tokens and the refresh tokens have equal claim sets, and UserInfo answers the same
for both access tokens and for all that are refreshed from them. If they differ in the attributes
for UserInfo, what is granted is the same but for those attributes in the access token: the refresh
tokens have equal claim sets, and so has every ID token before it is signed. -/
theorem delivery_stays_with_its_consumer (exact : RandomSource.Exact server.context.random)
    (codes : Token.SealedAlike hidden ring left right leftText rightText)
    (binds : ring.secret? ring.current.id = some secret)
    (authentic : server.context.ring.Authentic ring.current.id secret [leftText, rightText])
    (clock : Clock) (request : GrantRequest) :
    (hidden = .deliveryId →
      SameReply
        (SameButIdToken (server.handle clock { request with code := some leftText }).server)
        (server.handle clock { request with code := some leftText })
        (server.handle clock { request with code := some rightText })) ∧
    (hidden = .deliveryUi →
      SameReply
        (SameButAccessToken (server.handle clock { request with code := some leftText }).server)
        (server.handle clock { request with code := some leftText })
        (server.handle clock { request with code := some rightText }) ∧
      ∀ frame, IdToken.assemble left frame = IdToken.assemble right frame) := by
  have agree := codes.agree.stored codes.leftFormed codes.rightFormed
  constructor
  · rintro rfl
    refine sameReply_of_handle (fun readings => Grant.handle_alike codes .deliveryId binds authentic
      (fun now => Grant.issue_alike_deliveryId agree) fun now grant => ?_) ?_ ?_
    · exact Grant.issue_alike_deliveryId fun _ _ => rfl
    · exact fun first second alike => ⟨alike.grantId, alike.listed_eq alike.idToken⟩
    · intro readings first second granted alike
      obtain ⟨access, refresh, accessSeals, refreshSeals⟩ :=
        Grant.exists_seals_of_handle exact granted
      rw [← context_handle server clock] at accessSeals refreshSeals
      refine ⟨alike, ⟨access, accessSeals, ?_⟩, ⟨refresh, refreshSeals, ?_⟩, ?_⟩
      · rwa [← alike.accessToken]
      · rwa [← alike.refresh]
      · intro refreshes later clock
        rw [accessTokens, accessTokens, alike.accessToken, alike.refresh]
        exact List.forall₂_same.mpr fun _ _ => rfl
  · rintro rfl
    refine ⟨sameReply_of_handle (fun readings => Grant.handle_alike codes .deliveryUi binds
      authentic (fun now => Grant.issue_alike_deliveryUi exact agree (Token.wellFormed_stored _)
        (Token.wellFormed_stored _) ?_ ?_) fun now => Grant.issue_alike_self exact) ?_ ?_,
      IdToken.assemble_eq codes.agree⟩
    · exact Json.allNumbers_canon codes.leftSealed.isFinite
    · exact Json.allNumbers_canon codes.rightSealed.isFinite
    · exact fun first second alike =>
        ⟨alike.grantId, alike.listed_eq (congrArg Option.isSome alike.idToken)⟩
    · intro readings first second granted alike
      obtain ⟨access, refresh, -, refreshSeals⟩ := Grant.exists_seals_of_handle exact granted
      rw [← context_handle server clock] at alike refreshSeals
      refine ⟨alike, refresh, refreshSeals, ?_⟩
      rwa [← alike.refresh]

end Server

/-! ## Codes that deliver an address

The code of the other examples, with an address for the ID token alone or for UserInfo alone. -/

namespace Sample

/-- The code with options of its own. -/
def codeWith (options : TokenOptions) : Token where
  kind := .authorizationCode
  claims := ⟨Token.newMembers .authorizationCode "id-1" {
    clientId := codeRequest.clientId
    issuer := .string context.issuer
    subject := codeRequest.subject
    principal := codeRequest.principal
    issuedAt := .number 1700000000
    expiresAt := .number 1700000300
    authTime := codeRequest.authTime
    redirectUri := codeRequest.redirectUri
    scope := codeRequest.scope } "read write" options⟩
  kind_eq := rfl

/-- What is delivered. -/
def address : Json := .object [("email", .string "user@example")]

/-- The code that delivers the address to the ID token. -/
def codeForIdToken : Token := codeWith { codeRequest.options with deliveryId := address }

/-- The code that delivers the address to UserInfo. -/
def codeForUserInfo : Token := codeWith { codeRequest.options with deliveryUi := address }

theorem wellFormed_codeForIdToken : codeForIdToken.WellFormed :=
  ⟨Token.nodup_newMembers _ _, ClaimSet.check_eq_ok_iff.mp rfl, isWritable_code⟩

theorem wellFormed_codeForUserInfo : codeForUserInfo.WellFormed :=
  ⟨Token.nodup_newMembers _ _, ClaimSet.check_eq_ok_iff.mp rfl, isWritable_code⟩

theorem agreeBut_codeForIdToken : Token.AgreeBut .deliveryId code codeForIdToken := by
  intro claim other
  cases claim <;> first | rfl | exact absurd rfl other

theorem agreeBut_codeForUserInfo : Token.AgreeBut .deliveryUi code codeForUserInfo := by
  intro claim other
  cases claim <;> first | rfl | exact absurd rfl other

/-- A code that agrees with the issued one but for a private member can be sealed beside it. -/
theorem exists_sealedAlike {text : String}
    (issued : (Grant.issueCode context 1700000000 codeRequest state).result = .ok text)
    {hidden : Claim} (lone : hidden.IsPrivate) {other : Token} (formed : other.WellFormed)
    (agree : Token.AgreeBut hidden code other)
    (finite : (Json.object other.claims.members).isFinite = true) :
    ∃ otherText, Token.SealedAlike hidden context.ring code other text otherText := by
  obtain ⟨found, between, last, minted, closed⟩ := Grant.issueCode_eq_ok_iff.mp issued
  rw [state, run_mintCode] at minted
  cases minted
  have expires : code.expiresAt = other.expiresAt := agree.expiresAt_eq lone
  obtain ⟨otherText, otherClosed⟩ := Token.exists_run_sealedBy formed finite
    (rfl : context.ring.secret? context.ring.current.id = some key.secret)
    (by rw [← expires]; decide) (by rw [← expires]; decide) context.random .fresh
  exact ⟨otherText, wellFormed_code, formed, rfl, agree, ⟨_, _, _, exact_random, closed⟩,
    ⟨_, _, _, exact_random, otherClosed⟩⟩

end Sample

namespace Server

theorem delivery_stays_with_its_consumer_sample : ∃ text idText uiText,
    Token.SealedAlike .deliveryId Sample.context.ring Sample.code Sample.codeForIdToken text
        idText ∧
      Token.SealedAlike .deliveryUi Sample.context.ring Sample.code Sample.codeForUserInfo text
        uiText ∧
      ∃ tokens idTokens uiTokens,
        (issueRecord.after.handle (.still 1700000010) (Grant.codeGrant text)).result =
          .ok (.granted tokens) ∧
        (issueRecord.after.handle (.still 1700000010) (Grant.codeGrant idText)).result =
          .ok (.granted idTokens) ∧
        (issueRecord.after.handle (.still 1700000010) (Grant.codeGrant uiText)).result =
          .ok (.granted uiTokens) ∧
        idTokens.accessToken = tokens.accessToken ∧ idTokens.refresh = tokens.refresh ∧
          uiTokens.refresh = tokens.refresh ∧ uiTokens.idToken = tokens.idToken := by
  obtain ⟨text, issued⟩ := Sample.exists_issueCode
  obtain ⟨idText, idCodes⟩ := Sample.exists_sealedAlike issued .deliveryId
    Sample.wellFormed_codeForIdToken Sample.agreeBut_codeForIdToken rfl
  obtain ⟨uiText, uiCodes⟩ := Sample.exists_sealedAlike issued .deliveryUi
    Sample.wellFormed_codeForUserInfo Sample.agreeBut_codeForUserInfo rfl
  obtain ⟨tokens, -, granted⟩ := exists_grants_redeemRecord issued
  have context : issueRecord.after.context = Sample.context := congrArg context after_issueRecord
  have exact : RandomSource.Exact issueRecord.after.context.random := by
    rw [context]
    exact Sample.exact_random
  have binds : Sample.context.ring.secret? Sample.context.ring.current.id =
      some Sample.key.secret := rfl
  have authentic (texts : List String) : issueRecord.after.context.ring.Authentic
      Sample.context.ring.current.id Sample.key.secret texts := by
    rw [context]
    exact fun other bound => Or.inl (Option.some.inj (bound.symm.trans binds))
  have forId := (delivery_stays_with_its_consumer exact idCodes binds (authentic _)
    (.still 1700000010) (Grant.codeGrant text)).1 rfl
  have forUi := (delivery_stays_with_its_consumer exact uiCodes binds (authentic _)
    (.still 1700000010) (Grant.codeGrant text)).2 rfl
  obtain ⟨idTokens, idGranted, idSame⟩ := forId.exists_granted granted
  obtain ⟨uiTokens, uiGranted, uiSame⟩ := forUi.1.exists_granted granted
  exact ⟨text, idText, uiText, idCodes, uiCodes, tokens, idTokens, uiTokens, granted, idGranted,
    uiGranted, idSame.alike.accessToken.symm, idSame.alike.refresh.symm, uiSame.alike.refresh.symm,
    uiSame.alike.idToken.symm⟩

end Server
end SealedGrant
