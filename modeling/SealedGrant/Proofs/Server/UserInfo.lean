import Mathlib
import SealedGrant.Proofs.Grant.Agreement
import SealedGrant.Proofs.Server.Bearer
import SealedGrant.Proofs.Server.Keys
import SealedGrant.Proofs.UserInfo

/-! # UserInfo over a run

What a run hands out is closed under the key that is current there
(`SealedGrant.Server.Record.HandsOut.exists_closes`). Later, UserInfo tells its bearer something
exactly when it is an access token whose key is not retired and which is alive, both for the key
ring and for the policy (`SealedGrant.Server.Record.serves_of_closes`). So it is over whole runs
(`SealedGrant.Server.userInfo_throughout_runs`), but for the names that are reserved: what is
delivered under them is not told (`SealedGrant.Server.untold_level`).
-/

namespace SealedGrant

namespace KeyRing

variable {id text : String} {secret plain : Bytes} {expiry : ℕ}

/-- What opens has a time of eight bytes. -/
theorem Opens.expiry_lt (opens : Opens id secret text plain expiry) : expiry < expiryLimit := by
  obtain ⟨bytes, envelope, -, read, -, rfl, -⟩ := opens
  exact (Envelope.eq_write_of_read read).2.2.1

end KeyRing

/-- A token is alive at a time: neither for the key ring nor for the policy its life and their
tolerance are over. -/
structure Token.IsAlive (token : Token) (context : Context) (clock : Clock) (now : ℤ) : Prop where
  sealing : (Number.add (.int token.expiresAt) context.sealSkew).le clock.sealing = false
  policy : (Number.add (.int token.expiresAt) context.policy.skew).le (.int now) = false

namespace Server

/-- An answer tells the claims of an access token. -/
def Tells (answer : Except Failure HttpResponse) (access : Token) : Prop :=
  ∃ text body, answer = .ok ⟨200, [], text⟩ ∧ Json.read .strict text = .ok (.object body) ∧
    UserInfo.Tells access body

variable {server : Server} {clock : Clock} {now : ℤ}

section Holds

variable {id text : String} {secret : Bytes} {token : Token} {expiry : ℕ}
  (holds : Token.Holds id secret text token expiry)

include holds

/-- **A text under a retired key is unauthorized.** -/
theorem isUnauthorized_of_unknown (unknown : server.context.ring.secret? id = none) :
    IsUnauthorized (server.answer clock (userInfoRequest text)).result := by
  obtain ⟨bytes, opens, -⟩ := holds
  rw [answer_userInfoRequest server clock opens.isSolid]
  exact isUnauthorized_of_unwrap (bearer?_userInfoRequest opens.isSolid opens.text_ne)
    (KeyRing.unwrap_eq_unknownKey_of_opens opens unknown)

variable (bound : server.context.ring.secret? id = some secret)
  (expires : token.expiresAt = expiry) (reads : clock.now = .ok now)

include bound

/-- A text under a known key opens as an access token or it is unauthorized. -/
theorem inspect_or_isUnauthorized :
    IsUnauthorized (server.userInfo clock (userInfoRequest text)) ∨
      ((Number.add (.int expiry) server.context.sealSkew).le clock.sealing = false ∧
        token.kind = .accessToken ∧ server.inspect clock .accessToken text = .ok token) := by
  obtain ⟨bytes, opens, read⟩ := holds
  have bears := bearer?_userInfoRequest opens.isSolid opens.text_ne
  cases passed : (Number.add (.int expiry) server.context.sealSkew).le clock.sealing with
  | true =>
    exact Or.inl (isUnauthorized_of_unwrap bears
      (KeyRing.unwrap_eq_expired_of_opens opens bound passed))
  | false =>
    by_cases isAccess : token.kind = .accessToken
    · exact Or.inr ⟨rfl, isAccess, Token.ofSealed_eq_ok_iff.mpr
        ⟨isAccess, id, secret, expiry, bound, ⟨bytes, opens, read⟩, passed⟩⟩
    · obtain ⟨found, refused⟩ := Token.readBytes_of_ne read isAccess
      have opened := KeyRing.unwrap_eq_ok_iff.mpr ⟨id, secret, expiry, bound, opens, passed⟩
      have closed : server.inspect clock .accessToken text =
          .error (.fault (.claims (.otherKind .accessToken found))) := by
        rw [inspect, Token.ofSealed, opened]
        exact refused
      exact Or.inl (isUnauthorized_of_fault bears closed)

include expires reads

/-- **What a text under a known key gets**: its claims if it is an access token that is alive, and
else a refusal. -/
theorem answer_of_holds (finite : (Json.object token.claims.members).isFinite = true) :
    (token.kind = .accessToken ∧ token.IsAlive server.context clock now →
      Tells (server.answer clock (userInfoRequest text)).result token) ∧
    (¬ (token.kind = .accessToken ∧ token.IsAlive server.context clock now) →
      IsUnauthorized (server.answer clock (userInfoRequest text)).result) := by
  obtain ⟨bytes, opens, read⟩ := holds
  have held : Token.Holds id secret text token expiry := ⟨bytes, opens, read⟩
  have bears := bearer?_userInfoRequest opens.isSolid opens.text_ne
  have lasts : token.isExpired (.int now) server.context.policy.skew =
      .ok ((Number.add (.int token.expiresAt) server.context.policy.skew).le (.int now)) := by
    have added := Number.addable_of_lt opens.expiry_lt server.context.policy.skew
    rw [Token.isExpired_eq, expires, Number.sum, if_pos added]
    rfl
  rw [answer_userInfoRequest server clock opens.isSolid]
  constructor
  · rintro ⟨isAccess, alive⟩
    have passed := alive.sealing
    rw [expires] at passed
    have opened : server.inspect clock .accessToken text = .ok token :=
      Token.ofSealed_eq_ok_iff.mpr ⟨isAccess, id, secret, expiry, bound, held, passed⟩
    have isRead := Token.isRead_of_holds held
    obtain ⟨body, written, readBack⟩ := UserInfo.exists_body isRead finite
    rw [alive.policy] at lasts
    exact ⟨body, _, userInfo_of_alive bears opened reads lasts written, readBack,
      UserInfo.tells_publishedMembers isRead⟩
  · intro ended
    rcases inspect_or_isUnauthorized held bound with refused | ⟨passed, isAccess, opened⟩
    · exact refused
    · -- the key ring opens the token, so it has expired for the policy
      have expired : (Number.add (.int token.expiresAt) server.context.policy.skew).le
          (.int now) = true := by
        refine Bool.of_not_eq_false fun policy => ended ⟨isAccess, ⟨?_, policy⟩⟩
        rwa [expires]
      rw [expired] at lasts
      exact isUnauthorized_of_expired bears opened reads lasts

end Holds

end Server

/-! ## What a run hands out -/

namespace Grant

variable {context : Context} {request : GrantRequest} {now : ℤ} {grant : Token}
  {supply last : Supply} {tokens : Issued} {access : Token} {refresh : Option Token}

/-- **An access token delivers what its grant delivers.** -/
theorem Issues.delivered
    (issues : Issues context request now grant supply tokens last access refresh) {claim : Claim}
    (carried : claim ∈ UserInfo.deliveries) :
    access.delivered claim = grant.delivered claim := by
  obtain ⟨scope, expiry, -, -, built⟩ := issues.accessBuilt.built
  obtain ⟨-, claims, -, -⟩ := Token.build_eq_ok_iff.mp built
  have same : access.claims.members.get? claim.name = grant.claims.members.get? claim.name := by
    rw [claims, Token.get?_accessMembers]
    exact if_pos (List.mem_append_right _ carried)
  rw [Token.delivered, Token.delivered, ClaimSet.value, ClaimSet.value, Members.getD, Members.getD,
    same]

/-- **The access token that is issued** has the times of its span, and delivers what its grant
delivers. -/
theorem Issues.exists_access
    (issues : Issues context request now grant supply tokens last access refresh) :
    ∃ formed : access.WellFormed, context.Seals tokens.accessToken (access.stored formed) ∧
      (access.stored formed).IssuedAt now context.policy.accessTtl ∧
      ∀ claim ∈ UserInfo.deliveries, (access.stored formed).delivered claim =
        Json.canonMembers (grant.delivered claim) := by
  obtain ⟨scope, expiry, -, sum, built⟩ := issues.accessBuilt.built
  obtain ⟨formed, seals⟩ := issues.accessCloses.exists_seals
  rw [← lifeOf_of_sum sum] at built
  refine ⟨formed, seals, (Token.fresh_access built formed).2.2, fun claim carried => ?_⟩
  rw [Token.delivered_stored, issues.delivered carried]

/-- A refresh token delivers nothing that an access token may deliver. -/
theorem delivered_of_refreshToken (formed : grant.WellFormed) (kind : grant.kind = .refreshToken)
    {claim : Claim} (carried : claim ∈ UserInfo.deliveries) : grant.delivered claim = [] := by
  have absent : grant.claims.members.get? claim.name = none := by
    cases found : grant.claims.members.get? claim.name with
    | none => rfl
    | some value =>
      refine absurd ?_ (Token.fits_parent formed found).2.1
      rw [kind]
      revert carried
      cases claim <;> decide
  rw [Token.delivered, ClaimSet.value, Members.getD, absent]
  rfl

end Grant

namespace Server

variable {record : Record}

/-- A record hands out a text as a token of a kind. -/
inductive Record.HandsOut (record : Record) : TokenKind → String → Prop
  | code {request : Grant.CodeRequest} {text : String}
      (operation : record.event.operation = .issueCode request)
      (issued : (record.before.issueCode record.event.clock request).result = .ok text) :
      HandsOut record .authorizationCode text
  | access {request : GrantRequest} {tokens : Issued} (granted : record.Grants request tokens) :
      HandsOut record .accessToken tokens.accessToken
  | refresh {request : GrantRequest} {tokens : Issued} {closed : String × String}
      (granted : record.Grants request tokens) (present : tokens.refresh = some closed) :
      HandsOut record .refreshToken closed.1

/-- What is granted in a record are the tokens that are issued for the grant that is presented. -/
theorem Record.Grants.exists_issues {request : GrantRequest} {tokens : Issued}
    (granted : record.Grants request tokens)
    (exact : RandomSource.Exact record.before.context.random) :
    ∃ readings grant access refresh, record.event.clock.readings = .ok readings ∧
      Grant.accept record.before.context readings request = .ok grant ∧
      Grant.Issues record.before.context request readings.now grant record.before.service.supply
        tokens record.after.service.supply access refresh := by
  obtain ⟨readings, grant, reads, accepted, -, ran⟩ := granted.cases
  obtain ⟨access, refresh, issues⟩ := Grant.issues_of_issue exact ran
  exact ⟨readings, grant, access, refresh, reads, accepted, issues⟩

/-- **What a record hands out** is closed under the current key. -/
theorem Record.HandsOut.exists_closes {kind : TokenKind} {text : String}
    (handed : record.HandsOut kind text)
    (exact : RandomSource.Exact record.before.context.random) :
    ∃ token, token.kind = kind ∧ record.before.context.Closes text token := by
  cases handed with
  | code operation issued =>
    cases reads : record.event.clock.now with
    | error cause =>
      rw [issueCode, reads] at issued
      cases issued
    | ok now =>
      rw [issueCode_eq reads] at issued
      obtain ⟨code, between, last, minted, closed⟩ := Grant.issueCode_eq_ok_iff.mp issued
      obtain ⟨formed, isCode, -⟩ := Grant.wellFormed_of_mintCode minted
      exact ⟨code, isCode, Context.closes_of_sealed exact formed closed⟩
  | access granted =>
    obtain ⟨_, _, access, _, -, -, issues⟩ := granted.exists_issues exact
    obtain ⟨_, _, -, -, built⟩ := issues.accessBuilt.built
    exact ⟨access, (Token.build_eq_ok_iff.mp built).1, issues.accessCloses⟩
  | refresh granted present =>
    obtain ⟨_, _, _, refresh, -, -, issues⟩ := granted.exists_issues exact
    have closes := issues.refreshCloses
    rw [present] at closes
    cases closes with
    | some closes =>
      obtain ⟨-, _, -, built⟩ := issues.refreshBuilt _ rfl
      exact ⟨_, (Token.build_eq_ok_iff.mp built).1, closes⟩

/-- What UserInfo answers to the bearer of a text, some events after a record. -/
def Record.answerLater (record : Record) (later : List Event) (clock : Clock) (text : String) :
    Except Failure HttpResponse :=
  ((record.after.run later).answer clock (userInfoRequest text)).result

/-- A token of a record is still good after later events: it is an access token that is alive, and
the key that was current in the record is not retired. -/
structure Record.StillGood (record : Record) (later : List Event) (clock : Clock) (now : ℤ)
    (token : Token) : Prop where
  isAccess : token.kind = .accessToken
  alive : token.IsAlive record.before.context clock now
  kept : ¬ record.after.context.ring.Retired (keyChanges later)
    record.before.context.ring.current.id

/-- **UserInfo serves a text as a token** after a record, whatever happens to the keys: as long as
no retired key is added again, it tells the claims of the token while that is good, and else it
refuses. -/
def Record.Serves (record : Record) (text : String) (token : Token) : Prop :=
  ∀ later clock now, record.after.context.ring.NeverReadds (keyChanges later) →
    clock.now = .ok now →
    (record.StillGood later clock now token → Tells (record.answerLater later clock text) token) ∧
    (¬ record.StillGood later clock now token →
      IsUnauthorized (record.answerLater later clock text))

/-- A record that hands something out leaves the keys alone. -/
theorem Record.HandsOut.context_after {kind : TokenKind} {text : String}
    (handed : record.HandsOut kind text) : record.after.context = record.before.context := by
  have unchanged : record.event.keyChange? = none := by
    cases handed with
    | code operation issued => rw [Event.keyChange?, operation]
    | access granted => rw [Event.keyChange?, granted.1]
    | refresh granted present => rw [Event.keyChange?, granted.1]
  exact context_step_of_no_keyChange unchanged

/-- **What was closed in a record is served** as it is read. -/
theorem Record.serves_of_closes (sound : record.before.context.ring.Sound)
    (kept : record.after.context = record.before.context) {text : String} {token : Token}
    (closes : record.before.context.Closes text token) : ∃ formed : token.WellFormed,
      record.before.context.Seals text (token.stored formed) ∧
        record.Serves text (token.stored formed) := by
  obtain ⟨formed, secret, seconds, bound, expires, finite, holds⟩ := closes
  refine ⟨formed, ⟨secret, seconds, bound, holds⟩, fun later clock now never reads => ?_⟩
  rw [kept] at never
  obtain ⟨known, unknown⟩ := sound.secret?_of_neverReadds bound never
  have context : (record.after.run later).context = { record.before.context with
      ring := record.before.context.ring.afterAll (keyChanges later) } := by
    rw [context_run, kept]
  by_cases retired :
      record.before.context.ring.Retired (keyChanges later) record.before.context.ring.current.id
  · refine ⟨fun good => absurd retired (kept ▸ good.kept),
      fun _ => isUnauthorized_of_unknown holds ?_⟩
    rw [context]
    exact unknown retired
  · have lasts : (token.stored formed).expiresAt = seconds := by
      rw [Token.expiresAt_stored, expires]
    have stays : (record.after.run later).context.ring.secret?
        record.before.context.ring.current.id = some secret := by
      rw [context]
      exact known retired
    have answers := answer_of_holds holds stays lasts reads (Json.allNumbers_canon finite)
    rw [context] at answers
    refine ⟨fun good => answers.1 ⟨good.isAccess, good.alive.sealing, good.alive.policy⟩,
      fun ended => answers.2 fun told => ended ⟨told.1, ⟨told.2.1, told.2.2⟩, ?_⟩⟩
    rwa [kept]

/-! ## Over whole runs -/

/-- **The access token that is granted in a record** delivers what the presented grant delivers, and
nothing if that is a refresh token. -/
theorem Record.Grants.delivered {request : GrantRequest} {tokens : Issued}
    (granted : record.Grants request tokens)
    (exact : RandomSource.Exact record.before.context.random) {access : Token}
    (seals : record.before.context.Seals tokens.accessToken access) :
    ∃ kind text grant, Grant.grantKind? request = some kind ∧
      Grant.presentedText? request = some text ∧ record.Opens kind text grant ∧
      (∀ claim ∈ UserInfo.deliveries,
        access.delivered claim = Json.canonMembers (grant.delivered claim)) ∧
      (kind = .refreshToken → ∀ claim ∈ UserInfo.deliveries, access.delivered claim = []) := by
  obtain ⟨readings, grant, built, refresh, reads, accepted, issues⟩ := granted.exists_issues exact
  obtain ⟨kind, text, kindEq, textEq, opens⟩ := Record.opens_of_accept reads accepted
  obtain ⟨formed, built, -, delivers⟩ := issues.exists_access
  obtain rfl := built.unique seals
  refine ⟨kind, text, grant, kindEq, textEq, opens, delivers, fun refreshed claim told => ?_⟩
  have isRefresh : grant.kind = .refreshToken :=
    (Token.ofSealed_eq_ok_iff.mp opens).1.trans refreshed
  have grantFormed := Token.wellFormed_of_isRead (Token.isRead_of_ofSealed opens)
  rw [delivers claim told, Grant.delivered_of_refreshToken grantFormed isRefresh told,
    Json.canonMembers_nil]

/-- Who bears no text that unwraps is unauthorized. -/
theorem isUnauthorized_of_not_unwraps {server : Server} {clock : Clock} {request : HttpRequest}
    (closed : ∀ text bytes, UserInfo.bearer? (request.header? "authorization") = some text →
      server.unwrap clock text ≠ .ok bytes) : IsUnauthorized (server.userInfo clock request) := by
  cases bears : UserInfo.bearer? (request.header? "authorization") with
  | none => exact isUnauthorized_of_noBearer bears
  | some text =>
    cases outcome : server.context.ring.unwrap server.context.sealSkew clock.sealing text with
    | error cause => exact isUnauthorized_of_unwrap bears outcome
    | ok bytes => exact absurd (unwrap_eq_ok_iff.mpr outcome) (closed text bytes bears)

/-- **UserInfo over whole runs.** Every code, access token and refresh token that a run hands out is
sealed in its text and is served so, whatever happens to the keys later: an access token that is
alive and whose key is not retired tells its claims, and all else is unauthorized. An access token
delivers what the presented grant delivers, and by a refresh it delivers nothing, so that it tells
the user's id alone. Attributes that are plain are told as they are delivered. Who bears no text
that unwraps is unauthorized. -/
theorem userInfo_throughout_runs {keys : List SealingKey} {server : Server}
    (made : KeyRing.ofKeys keys = .ok server.context.ring)
    (exact : RandomSource.Exact server.context.random) (events : List Event) :
    (∀ record ∈ server.records events, ∀ kind text, record.HandsOut kind text →
      ∃ token, token.kind = kind ∧ record.before.context.Seals text token ∧
        record.Serves text token) ∧
    (∀ record ∈ server.records events, ∀ request tokens access, record.Grants request tokens →
      record.before.context.Seals tokens.accessToken access →
      ∃ kind text grant, Grant.grantKind? request = some kind ∧
        Grant.presentedText? request = some text ∧ record.Opens kind text grant ∧
        (∀ claim ∈ UserInfo.deliveries,
          access.delivered claim = Json.canonMembers (grant.delivered claim)) ∧
        (kind = .refreshToken → ∀ body, UserInfo.Tells access body →
          ∀ name ≠ "sub", body.get? name = none)) ∧
    (∀ access body, UserInfo.Tells access body →
      (∀ claim ∈ UserInfo.deliveries, UserInfo.isPlainMembers (access.delivered claim) = true) →
      ∀ name ≠ "sub", body.get? name = ((access.delivered .deliveryUi).get? name).or
        ((access.delivered .delivery).get? name)) ∧
    ∀ (later : Server) clock request, (∀ text bytes,
        UserInfo.bearer? (request.header? "authorization") = some text →
        later.unwrap clock text ≠ .ok bytes) →
      IsUnauthorized (later.userInfo clock request) := by
  have exactAt (record : Record) (member : record ∈ server.records events) :
      RandomSource.Exact record.before.context.random := by
    obtain ⟨ring, same⟩ := context_of_mem_records member
    rwa [same]
  refine ⟨fun record member kind text handed => ?_,
    fun record member request tokens access granted seals => ?_,
    fun access body tells plain name other => tells.get?_of_isPlain plain other,
    fun later clock request closed => isUnauthorized_of_not_unwraps closed⟩
  · have sound := sound_of_mem_records (KeyRing.sound_of_ofKeys made) member
    obtain ⟨token, kindEq, closes⟩ := handed.exists_closes (exactAt record member)
    obtain ⟨formed, seals, serves⟩ := Record.serves_of_closes sound handed.context_after closes
    exact ⟨token.stored formed, kindEq, seals, serves⟩
  · obtain ⟨kind, text, grant, kindEq, textEq, opens, delivers, nothing⟩ :=
      granted.delivered (exactAt record member) seals
    refine ⟨kind, text, grant, kindEq, textEq, opens, delivers,
      fun refreshed body tells name other => ?_⟩
    rw [tells.delivered name other, nothing refreshed .deliveryUi (by decide),
      nothing refreshed .delivery (by decide)]
    cases UserInfo.isReserved name <;> rfl

/-! ## A code that delivers attributes -/

/-- A code that delivers attributes is issued and redeemed ten seconds later. -/
def openidEvents (text : String) : List Event :=
  [⟨.still 1700000000, .issueCode Sample.openidRequest⟩,
    ⟨.still 1700000010, .handle (Grant.codeGrant text)⟩]

/-- The record of the redemption. -/
def openidRecord (text : String) : Record :=
  ⟨sample.step ⟨.still 1700000000, .issueCode Sample.openidRequest⟩,
    ⟨.still 1700000010, .handle (Grant.codeGrant text)⟩⟩

theorem before_openidRecord (text : String) : (openidRecord text).before = { sample with
    service :=
      (Grant.issueCode Sample.context 1700000000 Sample.openidRequest Sample.state).state } :=
  step_issueCode_of_now rfl Sample.openidRequest

theorem context_openidRecord (text : String) :
    (openidRecord text).before.context = Sample.context :=
  congrArg context (before_openidRecord text)

/-- The code is granted an access token, which is closed for an hour and delivers what the code
delivers. -/
theorem exists_access_openidRecord {text : String} (issued : (Grant.issueCode Sample.context
    1700000000 Sample.openidRequest Sample.state).result = .ok text) :
    ∃ tokens access, ∃ formed : access.WellFormed,
      (openidRecord text).Grants (Grant.codeGrant text) tokens ∧
      (openidRecord text).before.context.Closes tokens.accessToken access ∧
      access.kind = .accessToken ∧ (access.stored formed).expiresAt = 1700003610 ∧
      ∀ claim ∈ UserInfo.deliveries,
        (access.stored formed).delivered claim = Sample.readOpenidCode.delivered claim := by
  have reads : (openidRecord text).event.clock.readings = .ok (readingsAt 1700000010) := rfl
  have store : (openidRecord text).before.service.store = .memory [] := by
    rw [before_openidRecord, Grant.store_issueCode]
    rfl
  have same := context_openidRecord text
  obtain ⟨accepted, tokens, last, handled⟩ := Sample.exists_redeem_openidCode issued store
  have granted : (openidRecord text).Grants (Grant.codeGrant text) tokens := by
    refine ⟨rfl, ?_⟩
    rw [Record.result_eq reads, same]
    exact congrArg (Except.ok ∘ Prod.fst) handled
  have exact : RandomSource.Exact (openidRecord text).before.context.random := by
    rw [same]
    exact Sample.exact_random
  obtain ⟨readings, grant, access, refresh, shown, found, issues⟩ := granted.exists_issues exact
  obtain rfl := Except.ok.inj (reads.symm.trans shown)
  rw [same] at found
  obtain rfl := Except.ok.inj (accepted.symm.trans found)
  obtain ⟨formed, -, times, delivers⟩ := issues.exists_access
  obtain ⟨_, _, -, -, built⟩ := issues.accessBuilt.built
  refine ⟨tokens, access, formed, granted, issues.accessCloses,
    (Token.build_eq_ok_iff.mp built).1, ?_, fun claim told => ?_⟩
  · have expires := times.expires
    rw [same] at expires
    rw [Token.expiresAt, ClaimSet.time, ClaimSet.value, Members.getD, expires]
    rfl
  · rw [delivers claim told, Sample.readOpenidCode, Token.delivered_stored,
      Json.canonMembers_canonMembers]

/-- What an access token for the code tells under a name is looked up among what was asked for. -/
theorem get?_of_tells_openid {access : Token} (delivers : ∀ claim ∈ UserInfo.deliveries,
      access.delivered claim = Sample.readOpenidCode.delivered claim) {body : Members}
    (tells : UserInfo.Tells access body) {name : String} (other : name ≠ "sub") :
    body.get? name = if UserInfo.isReserved name then none
      else ((((Sample.openidCode.delivered .deliveryUi).get? name).map Json.canon).or
        (((Sample.openidCode.delivered .delivery).get? name).map Json.canon)).map
          UserInfo.published := by
  rw [tells.delivered name other, delivers .deliveryUi (by decide), delivers .delivery (by decide),
    Sample.get?_delivered_readOpenidCode .deliveryUi rfl (by decide),
    Sample.get?_delivered_readOpenidCode .delivery rfl (by decide)]

/-- The access token for the code tells its claims when it is ten seconds old. -/
theorem tells_of_serves {text closed : String} {access : Token}
    (kept : (openidRecord text).after.context = Sample.context)
    (serves : (openidRecord text).Serves closed access) (isAccess : access.kind = .accessToken)
    (expires : access.expiresAt = 1700003610) :
    Tells ((openidRecord text).answerLater [] (.still 1700000020) closed) access := by
  have told := serves [] (.still 1700000020) 1700000020
  rw [kept] at told
  have never : Sample.context.ring.NeverReadds (keyChanges []) := by
    intro earlier step later id history
    simp [KeyRing.steps, keyChanges] at history
  refine (told never rfl).1 ⟨isAccess, ?_, ?_⟩
  · rw [context_openidRecord]
    constructor <;> rw [expires] <;> rfl
  · rintro ⟨step, member, -⟩
    rw [kept] at member
    cases member

/-- The next key comes, and the first one goes. -/
def changeOfKeys : List Event :=
  [⟨.still 1700000020, .rotate KeyRing.nextKey⟩, ⟨.still 1700000020, .retire "k1"⟩]

/-- The first key is retired by the change of keys, and nothing is added again. -/
theorem retired_changeOfKeys : Sample.context.ring.Retired (keyChanges changeOfKeys) "k1" ∧
    Sample.context.ring.NeverReadds (keyChanges changeOfKeys) := by
  refine ⟨⟨_, List.mem_cons_of_mem _ (List.mem_singleton_self _), ⟨_, rfl⟩, rfl⟩, ?_⟩
  intro earlier step later id history retires next member
  match earlier with
  | [] =>
    obtain ⟨rfl, -⟩ := List.cons.inj history
    cases retires.2
  | [_] =>
    obtain ⟨-, rest⟩ := List.cons.inj history
    obtain ⟨-, rfl⟩ := List.cons.inj rest
    cases member
  | _ :: _ :: _ => simp [KeyRing.steps, keyChanges, changeOfKeys, Event.keyChange?] at history

/-- The access token tells the language for both consumers and the name and the telephone number for
UserInfo; once its key is retired it is unauthorized. -/
theorem userInfo_throughout_runs_sample : ∃ text tokens told body,
    (Grant.issueCode Sample.context 1700000000 Sample.openidRequest Sample.state).result =
        .ok text ∧
      (openidRecord text).Grants (Grant.codeGrant text) tokens ∧
      (openidRecord text).answerLater [] (.still 1700000020) tokens.accessToken =
        .ok ⟨200, [], told⟩ ∧
      Json.read .strict told = .ok (.object body) ∧
      Members.get? body "locale" = some (.string "en") ∧
      Members.get? body "name" = some (.string "Info User") ∧
      Members.get? body "phone" = some (.string "12") ∧
      IsUnauthorized ((openidRecord text).answerLater changeOfKeys (.still 1700000030)
        tokens.accessToken) := by
  obtain ⟨text, issued⟩ := Sample.exists_issue_openidCode
  obtain ⟨tokens, access, formed, granted, closes, isAccess, expires, delivers⟩ :=
    exists_access_openidRecord issued
  have made : KeyRing.ofKeys [Sample.key] = .ok sample.context.ring := rfl
  have member : openidRecord text ∈ sample.records (openidEvents text) :=
    List.mem_cons_of_mem _ (List.mem_singleton_self _)
  have handed : (openidRecord text).HandsOut .accessToken tokens.accessToken := .access granted
  obtain ⟨throughout, -⟩ := userInfo_throughout_runs made Sample.exact_random (openidEvents text)
  obtain ⟨token, -, seals, serves⟩ := throughout _ member _ _ handed
  obtain ⟨_, sealed⟩ := closes.exists_seals
  obtain rfl := sealed.unique seals
  have same := context_openidRecord text
  have kept := handed.context_after.trans same
  obtain ⟨told, body, answered, read, tells⟩ := tells_of_serves kept serves isAccess expires
  have gone := serves changeOfKeys (.still 1700000030) 1700000030
  rw [kept] at gone
  obtain ⟨retired, never⟩ := retired_changeOfKeys
  refine ⟨text, tokens, told, body, issued, granted, answered, read, ?_, ?_, ?_,
    (gone never rfl).2 fun good => ?_⟩
  · rw [get?_of_tells_openid delivers tells (by decide), UserInfo.isReserved_eq_decide]
    rfl
  · rw [get?_of_tells_openid delivers tells (by decide), UserInfo.isReserved_eq_decide]
    rfl
  · rw [get?_of_tells_openid delivers tells (by decide), UserInfo.isReserved_eq_decide]
    rfl
  · have stays := good.kept
    rw [kept, same] at stays
    exact stays retired

/-- **A level is not told**: it is delivered to UserInfo under a reserved name. -/
theorem untold_level : ∃ text tokens access told body,
    (Grant.issueCode Sample.context 1700000000 Sample.openidRequest Sample.state).result =
        .ok text ∧
      (openidRecord text).Grants (Grant.codeGrant text) tokens ∧
      (openidRecord text).before.context.Seals tokens.accessToken access ∧
      (access.delivered .deliveryUi).get? "_sa_level" = some (.string "gold") ∧
      (openidRecord text).answerLater [] (.still 1700000020) tokens.accessToken =
        .ok ⟨200, [], told⟩ ∧
      Json.read .strict told = .ok (.object body) ∧ Members.get? body "_sa_level" = none := by
  obtain ⟨text, issued⟩ := Sample.exists_issue_openidCode
  obtain ⟨tokens, access, formed, granted, closes, isAccess, expires, delivers⟩ :=
    exists_access_openidRecord issued
  have handed : (openidRecord text).HandsOut .accessToken tokens.accessToken := .access granted
  have same := context_openidRecord text
  have made : KeyRing.ofKeys [Sample.key] = .ok (openidRecord text).before.context.ring := by
    rw [same]
    rfl
  obtain ⟨_, seals, serves⟩ := Record.serves_of_closes (KeyRing.sound_of_ofKeys made)
    handed.context_after closes
  obtain ⟨told, body, answered, read, tells⟩ :=
    tells_of_serves (handed.context_after.trans same) serves isAccess expires
  refine ⟨text, tokens, _, told, body, issued, granted, seals, ?_, answered, read, ?_⟩
  · rw [delivers .deliveryUi (by decide),
      Sample.get?_delivered_readOpenidCode .deliveryUi rfl (by decide)]
    rfl
  · rw [get?_of_tells_openid delivers tells (by decide), UserInfo.isReserved_eq_decide]
    rfl

end Server
end SealedGrant
