import Mathlib
import SealedGrant.Proofs.Grant.Completion
import SealedGrant.Proofs.Grant.Inheritance
import SealedGrant.Proofs.IdToken

/-! # The tokens of one redemption agree

A code is redeemed for an access token, perhaps a refresh token and perhaps an ID token. All of them
name the user, the client, the time of authentication, the nonce and the context class of the code
(`SealedGrant.Token.shares_access`, `SealedGrant.Token.shares_refresh`,
`SealedGrant.IdToken.shares_of_tells`), whatever attributes the code delivers; and there is an ID
token exactly when the access token covers `openid`
(`SealedGrant.Grant.tokens_agree`).
-/

namespace SealedGrant

/-- The members that all tokens of a redemption have in common. -/
def sharedClaims : List Claim := [.subject, .audience, .authTime, .nonce, .acr]

/-- Members have the shared members of a code. -/
def Members.Share (members : Members) (code : Token) : Prop :=
  ∀ claim ∈ sharedClaims, members.get? claim.name = code.claims.members.get? claim.name

namespace Token

variable {parent token : Token}

/-- The shared members of a checked token are read back as they are. -/
theorem canon_shared (formed : parent.WellFormed) {claim : Claim} (shared : claim ∈ sharedClaims) :
    (parent.claims.members.get? claim.name).map Json.canon =
      parent.claims.members.get? claim.name := by
  have text {claim : Claim} (shape : claim.shape = .text) :
      (parent.claims.members.get? claim.name).map Json.canon =
        parent.claims.members.get? claim.name := by
    rw [get?_eq_map_text? formed shape]
    cases parent.claims.text? claim <;> rfl
  simp only [sharedClaims, List.mem_cons, List.not_mem_nil, or_false] at shared
  rcases shared with rfl | rfl | rfl | rfl | rfl
  · exact text rfl
  · rw [get?_audience formed]
    rfl
  · rw [get?_eq_time formed rfl rfl]
    rfl
  · exact text rfl
  · exact text rfl

/-- **An access token shares** the members of its parent. -/
theorem shares_access (formed : parent.WellFormed) {id scope : String} {life : Lifetime}
    (built : build .accessToken (parent.accessMembers id life scope) = .ok token)
    (tokenFormed : token.WellFormed) :
    (token.stored tokenFormed).claims.members.Share parent := by
  obtain ⟨-, claims, -, -⟩ := build_eq_ok_iff.mp built
  intro claim shared
  have carried : (parent.accessMembers id life scope).get? claim.name =
      parent.claims.members.get? claim.name := by
    rw [get?_accessMembers]
    simp only [sharedClaims, List.mem_cons, List.not_mem_nil, or_false] at shared
    rcases shared with rfl | rfl | rfl | rfl | rfl
    · exact if_pos (by decide)
    · exact if_pos (by decide)
    · exact if_pos (by decide)
    · exact if_pos (by decide)
    · exact (get?_eq_map_text? formed rfl).symm
  rw [get?_stored tokenFormed, claims, carried, canon_shared formed shared]

/-- **A refresh token shares** the members of its parent. -/
theorem shares_refresh (formed : parent.WellFormed) (kind : parent.kind ≠ .accessToken)
    {id : String} {life : Lifetime}
    (built : build .refreshToken (parent.refreshMembers id life) = .ok token)
    (tokenFormed : token.WellFormed) :
    (token.stored tokenFormed).claims.members.Share parent := by
  obtain ⟨-, claims, -, -⟩ := build_eq_ok_iff.mp built
  obtain ⟨acr, hasAcr⟩ := acr?_of_ne_accessToken formed kind
  intro claim shared
  have carried : (parent.refreshMembers id life).get? claim.name =
      parent.claims.members.get? claim.name := by
    rw [get?_refreshMembers]
    simp only [sharedClaims, List.mem_cons, List.not_mem_nil, or_false] at shared
    rcases shared with rfl | rfl | rfl | rfl | rfl
    · exact if_pos (by decide)
    · exact if_pos (by decide)
    · exact if_pos (by decide)
    · exact if_pos (by decide)
    · have own : parent.claims.text? .acr = some acr := hasAcr
      rw [get?_eq_map_text? formed rfl, own, hasAcr]
      rfl
  rw [get?_stored tokenFormed, claims, carried, canon_shared formed shared]

end Token

/-- **An ID token shares** the members of its code. -/
theorem IdToken.shares_of_tells {code : Token} (formed : code.WellFormed) {claims : Members}
    {issuer : String} {issuedAt expiresAt : Json}
    (tells : Tells code ⟨issuer, code.clientId, code.subject, issuedAt, expiresAt⟩ claims) :
    claims.Share code := by
  intro claim shared
  simp only [sharedClaims, List.mem_cons, List.not_mem_nil, or_false] at shared
  rcases shared with rfl | rfl | rfl | rfl | rfl
  · exact tells.subject.trans (Token.get?_eq_text formed rfl rfl).symm
  · exact tells.audience.trans (Token.get?_audience formed).symm
  · exact tells.authTime.trans (Token.get?_eq_time formed rfl rfl).symm
  · exact tells.nonce.trans (Token.get?_eq_map_text? formed rfl).symm
  · exact tells.acr.trans (Token.get?_eq_map_text? formed rfl).symm

namespace Grant

variable {context : Context} {request : GrantRequest} {readings : Readings}
  {state last : ServiceState} {tokens : Issued}

/-- A signed ID token is assembled for its grant and expires a span after its issue. -/
theorem exists_claims_of_idToken {now : ℤ} {grant : Token} {text : String}
    (signed : idToken context now grant = .ok text) : ∃ claims,
      IdToken.assemble grant ⟨context.issuer, grant.clientId, grant.subject, .number (.int now),
        .number ((Number.int now).add context.policy.idTtl.amount)⟩ = .ok claims ∧
      text = context.signer.sign claims := by
  obtain ⟨expiry, ends, signed⟩ := exists_of_bind_eq_ok signed
  obtain ⟨claims, assembled, signed⟩ := exists_of_bind_eq_ok signed
  have sum : expiry = (Number.int now).add context.policy.idTtl.amount := by
    unfold expiryAfter at ends
    cases added : (Number.int now).sum context.policy.idTtl.amount with
    | error cause =>
      rw [added] at ends
      cases ends
    | ok total =>
      rw [added] at ends
      obtain rfl := Except.ok.inj ends
      exact Number.sum_eq_ok added
  subst sum
  refine ⟨claims, ?_, ?_⟩
  · generalize IdToken.assemble grant _ = outcome at assembled ⊢
    cases outcome with
    | error cause => cases assembled
    | ok found => exact congrArg Except.ok (Except.ok.inj assembled)
  · split at signed
    · exact (Except.ok.inj signed).symm
    · cases signed

/-- **What is issued for a grant shares** the members of the grant. -/
theorem Issues.exists_shares {now : ℤ} {grant : Token} {supply last : Supply} {access : Token}
    {refresh : Option Token} (formed : grant.WellFormed)
    (issues : Issues context request now grant supply tokens last access refresh) :
    ∃ (accessFormed : access.WellFormed) (read : Option Token),
      context.Seals tokens.accessToken (access.stored accessFormed) ∧
      Option.Rel (fun closed token => context.Seals closed.1 token) tokens.refresh read ∧
      (access.stored accessFormed).claims.members.Share grant ∧
      ∀ token, read = some token → token.claims.members.Share grant := by
  obtain ⟨accessFormed, accessSeals⟩ := issues.accessCloses.exists_seals
  obtain ⟨scope, expiry, -, -, accessBuilt⟩ := issues.accessBuilt.built
  have accessShares := Token.shares_access formed accessBuilt accessFormed
  rcases Context.closes_cases issues.refreshCloses with
      ⟨noText, rfl⟩ | ⟨closed, refresh, refreshFormed, someText, rfl, refreshSeals⟩
  · refine ⟨accessFormed, none, accessSeals, ?_, accessShares, fun _ absent => (nomatch absent)⟩
    rw [noText]
    exact .none
  · obtain ⟨-, refreshExpiry, -, refreshBuilt⟩ := issues.refreshBuilt refresh rfl
    refine ⟨accessFormed, some (refresh.stored refreshFormed), accessSeals, ?_, accessShares,
      fun token same => ?_⟩
    · rw [someText]
      exact .some refreshSeals
    · obtain rfl := Option.some.inj same
      exact Token.shares_refresh formed issues.accessBuilt.notAccess refreshBuilt refreshFormed

/-- **The tokens of one redemption agree.** Whoever redeems a code gets an ID token exactly when the
access token covers `openid`. The access token, the refresh token if there is one and the ID token
name the user, the client, the time of authentication, the nonce and the context class of the code.
The ID token is issued now by the issuer and lives for its span; under every other name that is not
protected it tells what the code delivers to the ID token, or else to both consumers, and nothing
more. -/
theorem tokens_agree (exact : RandomSource.Exact context.random)
    (granted : handle context readings request state = (.granted tokens, last))
    (byCode : request.grantType = some codeGrantType) :
    ∃ code access refresh, accept context readings request = .ok code ∧
      code.kind = .authorizationCode ∧ request.clientId = some code.clientId ∧
      context.Seals tokens.accessToken access ∧
      Option.Rel (fun closed token => context.Seals closed.1 token) tokens.refresh refresh ∧
      access.claims.members.Share code ∧
      (∀ token, refresh = some token → token.claims.members.Share code) ∧
      (tokens.idToken.isSome = true ↔ openidItem ∈ access.scope) ∧
      ∀ text, tokens.idToken = some text → ∃ claims, text = context.signer.sign claims ∧
        claims.Share code ∧
        IdToken.Tells code ⟨context.issuer, code.clientId, code.subject,
          .number (.int readings.now),
          .number ((Number.int readings.now).add context.policy.idTtl.amount)⟩ claims := by
  obtain ⟨code, accepted, -, ran⟩ := handle_eq_granted_iff.mp granted
  obtain ⟨kind, sealed, named, opened, identified⟩ := accept_eq_ok_iff.mp accepted
  have isCode : code.kind = .authorizationCode := by
    have kinds := (presented_eq_ok named).1
    rw [grantKind?, if_pos byCode] at kinds
    rw [(Token.ofSealed_eq_ok_iff.mp opened).1]
    exact (Option.some.inj kinds).symm
  have client : request.clientId = some code.clientId := by
    by_contra other
    rw [identify, if_pos fun same => other same.symm] at identified
    cases identified
  have read := Token.isRead_of_ofSealed opened
  have formed := Token.wellFormed_of_isRead read
  obtain ⟨access, refresh, issues⟩ := issues_of_issue exact ran
  obtain ⟨accessFormed, refreshRead, accessSeals, refreshSeals, accessShares, refreshShares⟩ :=
    issues.exists_shares formed
  have covers : yieldsIdToken code access = true ↔
      openidItem ∈ (access.stored accessFormed).scope := by
    simp [yieldsIdToken, isCode, Token.scope_stored]
  have signedIff : tokens.idToken.isSome = true ↔
      openidItem ∈ (access.stored accessFormed).scope := by
    rw [← covers]
    rcases issues.idToken with ⟨plain, absent⟩ | ⟨due, text, -, present⟩
    · simp [plain, absent]
    · simp [due, present]
  have tells : ∀ text, tokens.idToken = some text → ∃ claims,
      text = context.signer.sign claims ∧ claims.Share code ∧
        IdToken.Tells code ⟨context.issuer, code.clientId, code.subject,
          .number (.int readings.now),
          .number ((Number.int readings.now).add context.policy.idTtl.amount)⟩ claims := by
    intro text present
    rcases issues.idToken with ⟨-, absent⟩ | ⟨-, found, signed, same⟩
    · rw [absent] at present
      cases present
    · rw [same] at present
      obtain rfl := Option.some.inj present
      obtain ⟨claims, assembled, written⟩ := exists_claims_of_idToken signed
      have told := IdToken.tells_of_assemble read assembled
      exact ⟨claims, written, IdToken.shares_of_tells formed told, told⟩
  exact ⟨code, _, refreshRead, accepted, isCode, client, accessSeals, refreshSeals, accessShares,
    refreshShares, signedIff, tells⟩

end Grant

/-! ## A code that delivers attributes

The code of the other examples, with a nonce, a scope that covers `openid` and attributes for both
consumers and for each of them alone. Some of the attributes have the names of protocol members. -/

namespace Sample

/-- What the code is issued for. -/
def openidRequest : Grant.CodeRequest := { codeRequest with
  scope := .string "openid profile"
  options := { codeRequest.options with
    nonce := .string "n-1"
    delivery := .object [("name", .string "User"), ("locale", .string "en"),
      ("sub", .string "someone")]
    deliveryId := .object [("name", .string "Client User"), ("azp", .string "other")]
    deliveryUi := .object [("name", .string "Info User"), ("phone", .string "12"),
      ("sub", .string "nobody"), ("_sa_level", .string "gold")] } }

/-- The code. -/
def openidCode : Token where
  kind := .authorizationCode
  claims := ⟨Token.newMembers .authorizationCode "id-1" {
    clientId := openidRequest.clientId
    issuer := .string context.issuer
    subject := openidRequest.subject
    principal := openidRequest.principal
    issuedAt := .number 1700000000
    expiresAt := .number 1700000300
    authTime := openidRequest.authTime
    redirectUri := openidRequest.redirectUri
    scope := openidRequest.scope } "openid profile" openidRequest.options⟩
  kind_eq := rfl

theorem follows_openidCode : openidCode.claims.Follows .authorizationCode :=
  ClaimSet.check_eq_ok_iff.mp rfl

theorem wellFormed_openidCode : openidCode.WellFormed :=
  ⟨Token.nodup_newMembers _ _, follows_openidCode, isWritable_code⟩

theorem run_mint_openidCode :
    (Grant.mintCode context 1700000000 openidRequest).run .fresh = (.ok openidCode, ⟨1, 0⟩) :=
  Grant.run_mintCode_eq_ok_iff.mpr ⟨1700000300, rfl, Token.run_mint_eq_ok_iff.mpr ⟨rfl, rfl, rfl,
    rfl, "openid profile", rfl, Token.build_eq_ok_iff.mpr
      ⟨rfl, rfl, follows_openidCode, isWritable_code⟩⟩⟩

theorem exists_issue_openidCode :
    ∃ text, (Grant.issueCode context 1700000000 openidRequest state).result = .ok text :=
  Grant.exists_issueCode_of_mintCode run_mint_openidCode rfl rfl (by decide) (by decide)

/-- The code as it is read back. -/
def readOpenidCode : Token := openidCode.stored wellFormed_openidCode

/-- Ten seconds after its issue the code is redeemed. -/
theorem exists_redeem_openidCode {text : String}
    (issued : (Grant.issueCode context 1700000000 openidRequest state).result = .ok text)
    {after : ServiceState} (store : after.store = .memory []) :
    Grant.accept context ⟨1700000010, 1700000010, 1700000010⟩ (Grant.codeGrant text) =
        .ok readOpenidCode ∧
      ∃ tokens last, Grant.handle context ⟨1700000010, 1700000010, 1700000010⟩
        (Grant.codeGrant text) after = (.granted tokens, last) := by
  have minted : (Grant.mintCode context 1700000000 openidRequest).run state.supply =
      (.ok openidCode, ⟨1, 0⟩) := run_mint_openidCode
  have opened : Token.ofSealed context.ring context.sealSkew (.int 1700000010)
      .authorizationCode text = .ok readOpenidCode :=
    Grant.ofSealed_of_issueCode minted exact_random wellFormed_openidCode issued (by decide)
  have identified : Grant.identify context.policy (Grant.codeGrant text) 1700000010
      readOpenidCode = .ok () := by
    rw [readOpenidCode, Grant.identify_stored]
    rfl
  have accepted : Grant.accept context ⟨1700000010, 1700000010, 1700000010⟩
      (Grant.codeGrant text) = .ok readOpenidCode := Grant.accept_of_ofSealed opened identified
  have ready : Grant.Ready context 1700000010 readOpenidCode :=
    Grant.ready_of_issueCode exact_random Grant.isWhole_policy issued opened (by decide)
      (by decide) (by decide)
  have reserved : (Grant.reserve context.policy ⟨1700000010, 1700000010, 1700000010⟩
      readOpenidCode after.store).1 = .ok () := by
    rw [store, readOpenidCode, Grant.reserve_stored]
    rfl
  have authenticated : readOpenidCode.authTime ≤ 1700000010 := by
    rw [readOpenidCode, Token.authTime_stored]
    decide
  obtain ⟨tokens, granted⟩ :=
    (Grant.handle_of_ready ready accepted reserved rfl).1.mpr authenticated
  exact ⟨accepted, tokens, _, Prod.ext granted rfl⟩

/-- The access token has the scope of the code, so there is an ID token. -/
theorem isSome_idToken_of_redeem {text : String} {after last : ServiceState} {tokens : Issued}
    (accepted : Grant.accept context ⟨1700000010, 1700000010, 1700000010⟩
      (Grant.codeGrant text) = .ok readOpenidCode)
    (granted : Grant.handle context ⟨1700000010, 1700000010, 1700000010⟩
      (Grant.codeGrant text) after = (.granted tokens, last)) : tokens.idToken.isSome = true := by
  obtain ⟨code, found, -, ran⟩ := Grant.handle_eq_granted_iff.mp granted
  obtain rfl := Except.ok.inj (accepted.symm.trans found)
  obtain ⟨access, refresh, issues⟩ := Grant.issues_of_issue exact_random ran
  obtain ⟨scope, expiry, narrowed, sum, built⟩ := issues.accessBuilt.built
  obtain rfl : readOpenidCode.scopeText = scope := Except.ok.inj narrowed
  have covers : Grant.yieldsIdToken readOpenidCode access = true := by
    obtain ⟨formed, -⟩ := issues.accessCloses.exists_seals
    rw [← Grant.lifeOf_of_sum sum] at built
    have scopes := (Token.fresh_access built formed).2.1
    rw [Token.scopeText_stored, readOpenidCode, Token.scopeText_stored] at scopes
    rw [Grant.yieldsIdToken, Token.scope, scopes]
    decide
  rcases issues.idToken with ⟨plain, -⟩ | ⟨-, signed, -, present⟩
  · rw [covers] at plain
    cases plain
  · rw [present]
    rfl

/-- What the code delivers is looked up among what was asked for. -/
theorem get?_delivered_readOpenidCode (claim : Claim) {members : Members}
    (given : openidCode.delivered claim = members) (distinct : members.names.Nodup)
    (name : String) : (readOpenidCode.delivered claim).get? name =
      (members.get? name).map Json.canon := by
  rw [readOpenidCode, Token.delivered_stored, given, Members.get?_canon distinct]

end Sample

namespace Grant

/-- The redeemed code yields an ID token: the user's name is the one for the ID token, the language
is the one for both consumers, the id is the user's, and there is no telephone number. -/
theorem tokens_agree_sample : ∃ text tokens last claims,
    (issueCode Sample.context 1700000000 Sample.openidRequest Sample.state).result = .ok text ∧
      handle Sample.context ⟨1700000010, 1700000010, 1700000010⟩ (codeGrant text)
        Sample.state = (.granted tokens, last) ∧
      tokens.idToken = some (Sample.context.signer.sign claims) ∧
      Members.get? claims "sub" = some (.string "user") ∧
      Members.get? claims "nonce" = some (.string "n-1") ∧
      Members.get? claims "exp" = some (.number 1700003610) ∧
      Members.get? claims "name" = some (.string "Client User") ∧
      Members.get? claims "locale" = some (.string "en") ∧
      Members.get? claims "azp" = none ∧ Members.get? claims "phone" = none := by
  obtain ⟨text, issued⟩ := Sample.exists_issue_openidCode
  have fresh : Sample.state.store = .memory [] := rfl
  obtain ⟨accepted, tokens, last, granted⟩ := Sample.exists_redeem_openidCode issued fresh
  obtain ⟨code, access, refresh, found, -, -, -, -, -, -, signed, tells⟩ :=
    tokens_agree Sample.exact_random granted rfl
  obtain rfl := Except.ok.inj (accepted.symm.trans found)
  obtain ⟨signature, present⟩ :=
    Option.isSome_iff_exists.mp (Sample.isSome_idToken_of_redeem accepted granted)
  obtain ⟨claims, rfl, -, told⟩ := tells signature present
  have both := Sample.get?_delivered_readOpenidCode .delivery rfl (by decide)
  have own := Sample.get?_delivered_readOpenidCode .deliveryId rfl (by decide)
  refine ⟨text, tokens, last, claims, issued, granted, present, ?_, ?_, ?_, ?_, ?_, ?_, ?_⟩
  · rw [told.subject, Sample.readOpenidCode, Token.subject_stored]
    rfl
  · have nonce : Sample.readOpenidCode.nonce? = Sample.openidCode.nonce? :=
      ClaimSet.text?_stored Sample.wellFormed_openidCode.distinct .nonce
    rw [told.nonce, nonce]
    rfl
  · rw [told.expiresAt]
    rfl
  · rw [told.delivered "name" (by decide), own, both]
    rfl
  · rw [told.delivered "locale" (by decide), own, both]
    rfl
  · exact told.absent "azp" (by decide)
  · rw [told.delivered "phone" (by decide), own, both]
    rfl

end Grant
end SealedGrant
