import Mathlib
import SealedGrant.Grant.Code
import SealedGrant.Proofs.Grant.Issuance

/-! # Minted codes

A minted token is built of its inputs (`SealedGrant.Token.run_mint_eq_ok_iff`), so it was checked.
A code that is issued is minted at one time and sealed at once
(`SealedGrant.Grant.issueCode_eq_ok_iff`), and its text holds it from then on
(`SealedGrant.Grant.opens_of_issueCode`).
-/

namespace SealedGrant

namespace Token

variable {ids : IdSource} {kind : TokenKind} {request : TokenRequest} {options : TokenOptions}
  {supply last : Supply} {token : Token}

/-- **What is minted** is built of inputs that are all there, with a fresh id. -/
theorem run_mint_eq_ok_iff :
    (mint (some ids) kind request options).run supply = (.ok token, last) ↔
      missingInputs (some ids) request = [] ∧ lacksTimeOrScope request = false ∧
        request.clientId.string?.isNone = false ∧ last = supply.afterId ids ∧
        ∃ scope, scopeInput request.scope = .ok scope ∧
          build kind (newMembers kind (ids.next supply) request scope options) = .ok token := by
  unfold mint
  dsimp only
  by_cases lacking :
      (!(missingInputs (some ids) request).isEmpty || lacksTimeOrScope request) = true
  · rw [if_pos lacking]
    simp only [Draw.run_throw, Prod.mk.injEq, reduceCtorEq, false_and, false_iff]
    intro parts
    obtain ⟨none_missing, given, -⟩ := parts
    rw [none_missing, given] at lacking
    cases lacking
  · rw [if_neg lacking]
    simp only [Bool.or_eq_true, Bool.not_eq_true', not_or, Bool.not_eq_false, Bool.not_eq_true,
      List.isEmpty_iff] at lacking
    cases client : request.clientId.string?.isNone with
    | true => simp
    | false =>
      simp only [Bool.false_eq_true, ↓reduceIte, Draw.run_bind_eq_ok_iff, Draw.run_drawId,
        Draw.run_ofResult, Prod.mk.injEq, Except.ok.injEq]
      constructor
      · intro parts
        obtain ⟨_, _, ⟨rfl, rfl⟩, scope, _, ⟨normal, rfl⟩, built, rfl⟩ := parts
        exact ⟨lacking.1, lacking.2, trivial, rfl, scope, normal, built⟩
      · intro parts
        obtain ⟨-, -, -, rfl, scope, normal, built⟩ := parts
        exact ⟨_, _, ⟨rfl, rfl⟩, scope, _, ⟨normal, rfl⟩, built, rfl⟩

/-- The optional members of a new token, in their order. -/
def optionClaims : List Claim :=
  [.acr, .nonce, .claimsRequest, .delivery, .deliveryId, .deliveryUi, .consentable, .consented,
    .codeChallenge]

/-- The members that every new token has, in their order. -/
def givenClaims : List Claim :=
  [.kind, .id, .audience, .issuer, .subject, .principal, .issuedAt, .expiresAt, .authTime,
    .redirectUri, .scope]

theorem nodup_newMembers (id scope : String) :
    (newMembers kind id request scope options).names.Nodup := by
  have sub : options.members.names.Sublist (optionClaims.map Claim.name) :=
    List.filter_sublist.map Prod.fst
  have all : (newMembers kind id request scope options).names.Sublist
      ((givenClaims ++ optionClaims).map Claim.name) := by
    rw [newMembers, names_append, List.map_append]
    exact (List.Sublist.refl _).append sub
  exact all.nodup (nodup_names _ (by decide))

theorem wellFormed_of_build {members : Members} (distinct : members.names.Nodup)
    (built : build kind members = .ok token) : token.WellFormed := by
  obtain ⟨rfl, claims, follows, writable⟩ := build_eq_ok_iff.mp built
  rw [← claims] at follows
  exact ⟨by rwa [claims], follows, by rwa [claims]⟩

/-- A token is built from members that follow the schema and can be written. -/
theorem exists_build {members : Members} (follows : ClaimSet.Follows ⟨members⟩ kind)
    (writable : (Json.object members).allNumbers Json.isWritable = true) :
    ∃ token, build kind members = .ok token :=
  ⟨⟨kind, ⟨members⟩, kind?_eq_some_of_follows follows⟩,
    build_eq_ok_iff.mpr ⟨rfl, rfl, follows, writable⟩⟩

end Token

namespace Grant

variable {context : Context} {now : ℤ} {request : CodeRequest}

/-- A code is minted when its life can be computed and its inputs can be built. -/
theorem run_mintCode_eq_ok_iff {supply last : Supply} {code : Token} :
    (mintCode context now request).run supply = (.ok code, last) ↔
      ∃ expiry, (Number.int now).sum context.policy.codeTtl.amount = .ok expiry ∧
        (Token.mint (some context.ids) .authorizationCode {
          clientId := request.clientId
          issuer := .string context.issuer
          subject := request.subject
          principal := request.principal
          issuedAt := .number (.int now)
          expiresAt := .number expiry
          authTime := request.authTime
          redirectUri := request.redirectUri
          scope := request.scope } request.options).run supply = (.ok code, last) := by
  unfold mintCode
  simp only [Draw.run_bind_eq_ok_iff, Draw.run_ofResult, Prod.mk.injEq, lifetime_eq_ok_iff]
  constructor
  · intro parts
    obtain ⟨life, _, ⟨⟨expiry, sum, rfl⟩, rfl⟩, minted⟩ := parts
    exact ⟨expiry, sum, minted⟩
  · intro parts
    obtain ⟨expiry, sum, minted⟩ := parts
    exact ⟨_, _, ⟨⟨expiry, sum, rfl⟩, rfl⟩, minted⟩

/-- **A code is issued** when it is minted and sealed. -/
theorem issueCode_eq_ok_iff {state : ServiceState} {text : String} :
    (issueCode context now request state).result = .ok text ↔
      ∃ code between last, (mintCode context now request).run state.supply = (.ok code, between) ∧
        (code.sealed context).run between = (.ok text, last) := by
  unfold issueCode
  cases (mintCode context now request).run state.supply with
  | mk outcome between =>
    cases outcome with
    | error cause => simp
    | ok code =>
      cases sealing : (code.sealed context).run between with
      | mk result last => simp [sealing]

theorem grows_mintCode : (mintCode context now request).Grows := by
  refine Draw.grows_bind (Draw.grows_ofResult _) fun life => ?_
  unfold Token.mint
  dsimp only
  split
  · exact Draw.grows_throw _
  · split
    · exact Draw.grows_throw _
    · exact Draw.grows_bind (Draw.grows_drawId _) fun id =>
        Draw.grows_bind (Draw.grows_ofResult _) fun scope => Draw.grows_ofResult _

theorem reaches_issueCode_of_mintCode {state : ServiceState} {between : Supply}
    {outcome : Except Failure Token}
    (minted : (mintCode context now request).run state.supply = (outcome, between)) :
    between.Reaches (issueCode context now request state).state.supply := by
  unfold issueCode
  rw [minted]
  cases outcome with
  | error cause => exact Supply.Reaches.refl _
  | ok code => exact grows_sealed code between

theorem reaches_issueCode (state : ServiceState) :
    state.supply.Reaches (issueCode context now request state).state.supply :=
  (grows_mintCode state.supply).trans (reaches_issueCode_of_mintCode rfl)

theorem store_issueCode (state : ServiceState) :
    (issueCode context now request state).state.store = state.store := by
  unfold issueCode
  cases (mintCode context now request).run state.supply with
  | mk outcome supply => cases outcome <;> rfl

/-- What is minted as a code was checked, is a code and has a subject. -/
theorem wellFormed_of_mintCode {supply last : Supply} {code : Token}
    (minted : (mintCode context now request).run supply = (.ok code, last)) :
    code.WellFormed ∧ code.kind = .authorizationCode ∧ code.subject.isEmpty = false := by
  obtain ⟨expiry, -, mint⟩ := run_mintCode_eq_ok_iff.mp minted
  obtain ⟨missing, -, -, -, scope, -, built⟩ := Token.run_mint_eq_ok_iff.mp mint
  have formed := Token.wellFormed_of_build (Token.nodup_newMembers _ _) built
  obtain ⟨kind, claims, -, -⟩ := Token.build_eq_ok_iff.mp built
  refine ⟨formed, kind, ?_⟩
  have required : Claim.presence .subject code.kind = .required := by
    rw [kind]
    rfl
  obtain ⟨text, value⟩ := Token.text?_of_required formed required rfl
  have subject : request.subject = .string text := by
    rw [claims] at value
    simpa [ClaimSet.value, Members.getD, Token.newMembers, Members.get?_append, Members.get?_cons,
      Claim.name] using value
  have named : code.subject = text := by
    rw [Token.subject, Token.text, ClaimSet.text?, value]
    rfl
  rw [named]
  simp only [Token.missingInputs, subject, List.append_eq_nil_iff, List.map_eq_nil_iff,
    List.filter_eq_nil_iff] at missing
  have given := missing.2 ("subject", .string text) (by simp)
  simpa [Json.isEmpty] using given

theorem id_of_mintCode {supply last : Supply} {code : Token}
    (minted : (mintCode context now request).run supply = (.ok code, last)) :
    code.id = context.ids.next supply ∧ last = supply.afterId context.ids := by
  obtain ⟨expiry, -, mint⟩ := run_mintCode_eq_ok_iff.mp minted
  obtain ⟨-, -, -, rfl, scope, -, built⟩ := Token.run_mint_eq_ok_iff.mp mint
  obtain ⟨-, claims, -, -⟩ := Token.build_eq_ok_iff.mp built
  refine ⟨?_, rfl⟩
  rw [Token.id, Token.text, ClaimSet.text?, ClaimSet.value, claims]
  rfl

/-- **An issued code opens as the code** until it expires. -/
theorem opens_of_issueCode (exact : RandomSource.Exact context.random) {state : ServiceState}
    {text : String} (issued : (issueCode context now request state).result = .ok text) :
    ∃ code last, (mintCode context now request).run state.supply = (.ok code, last) ∧
      ∃ plain, code.serialize = .ok plain ∧ ∀ skew reading,
        (Number.add (.int code.expiresAt) skew).le reading = false →
          context.ring.unwrap skew reading text = .ok (Utf8.encode plain) := by
  obtain ⟨code, supply, last, minted, closed⟩ := issueCode_eq_ok_iff.mp issued
  exact ⟨code, supply, minted, Token.unwrap_of_sealedBy exact closed⟩

section Minted

variable {state : ServiceState} {code : Token} {last : Supply}
  (minted : (mintCode context now request).run state.supply = (.ok code, last))

include minted

/-- A code that was minted can be sealed when its numbers are finite and its time fits. -/
theorem exists_issueCode_of_mintCode
    (finite : (Json.object code.claims.members).isFinite = true) {secret : Bytes}
    (bound : context.ring.secret? context.ring.current.id = some secret)
    (nonneg : 0 ≤ code.expiresAt) (small : code.expiresAt < KeyRing.expiryLimit) :
    ∃ text, (issueCode context now request state).result = .ok text := by
  obtain ⟨text, closed⟩ :=
    Token.exists_run_sealedBy (wellFormed_of_mintCode minted).1 finite bound nonneg small
      context.random last
  exact ⟨text, issueCode_eq_ok_iff.mpr ⟨code, _, _, minted, closed⟩⟩

/-- An issued code is read back as it was minted, until it expires. -/
theorem ofSealed_of_issueCode (exact : RandomSource.Exact context.random)
    (formed : code.WellFormed) {text : String}
    (issued : (issueCode context now request state).result = .ok text) {skew reading : Number}
    (alive : (Number.add (.int code.expiresAt) skew).le reading = false) :
    Token.ofSealed context.ring skew reading code.kind text = .ok (code.stored formed) := by
  obtain ⟨found, after, again, plain, written, opens⟩ := opens_of_issueCode exact issued
  rw [minted] at again
  cases again
  rw [Token.ofSealed, opens skew reading alive]
  exact Token.readBytes_serialize formed written

end Minted

/-- Only a text that is not empty opens. -/
theorem text_ne_of_ofSealed {ring : KeyRing} {skew reading : Number} {kind : TokenKind}
    {text : String} {token : Token}
    (opened : Token.ofSealed ring skew reading kind text = .ok token) : text ≠ "" := by
  rintro rfl
  cases opened

end Grant

/-! ## A code

A service with one key, and a code that it issues for a user who authenticated in the same second.
-/

namespace Sample

/-- The key. -/
def key : SealingKey := ⟨"k1", List.replicate 16 0, .current, by decide, by decide⟩

/-- The policy: refresh tokens rotate, and clocks may differ by a minute. -/
def policy : Policy where
  accessTtl := 3600
  refreshTtl := 7200
  codeTtl := 300
  idTtl := 3600
  rotation := .rotateAndRevoke
  skewSpan := 60
  pkce := .noClients
  access_positive := rfl
  code_positive := rfl
  id_positive := rfl
  refresh_nonneg := rfl
  skew_nonneg := rfl

/-- The context. -/
def context : Context where
  issuer := "https://op.example"
  policy
  ring := ⟨key, [(key.id, key.secret)]⟩
  sealSkew := 60
  signer := ⟨default, "signer"⟩
  ids := .numbered
  random _ count := List.replicate count 0

/-- Nothing was handed out or reserved. -/
def state : ServiceState := ⟨.fresh, .memory []⟩

/-- What the code is issued for. -/
def codeRequest : Grant.CodeRequest where
  clientId := .string "app"
  subject := .string "user"
  principal := .string "user@example"
  authTime := .number 1700000000
  redirectUri := .string "https://app.example/cb"
  scope := .string "read write"
  options := { TokenOptions.none with acr := .string "basic" }

/-- The code. -/
def code : Token where
  kind := .authorizationCode
  claims := ⟨Token.newMembers .authorizationCode "id-1" {
    clientId := codeRequest.clientId
    issuer := .string context.issuer
    subject := codeRequest.subject
    principal := codeRequest.principal
    issuedAt := .number 1700000000
    expiresAt := .number 1700000300
    authTime := codeRequest.authTime
    redirectUri := codeRequest.redirectUri
    scope := codeRequest.scope } "read write" codeRequest.options⟩
  kind_eq := rfl

theorem exact_random : RandomSource.Exact context.random :=
  fun _ _ => List.length_replicate

theorem allNumbers_code (holds : Number → Bool) :
    (Json.object code.claims.members).allNumbers holds =
      (holds 1700000000 && (holds 1700000300 && (holds 1700000000 && true))) := rfl

theorem follows_code : code.claims.Follows .authorizationCode :=
  ClaimSet.check_eq_ok_iff.mp rfl

theorem isWritable_code :
    (Json.object code.claims.members).allNumbers Json.isWritable = true := by
  have first : Json.isWritable 1700000000 = true :=
    Json.isWritable_of_lt (by norm_num) (by unfold KeyRing.expiryLimit; norm_num)
  have last : Json.isWritable 1700000300 = true :=
    Json.isWritable_of_lt (by norm_num) (by unfold KeyRing.expiryLimit; norm_num)
  rw [allNumbers_code, first, last]
  rfl

theorem wellFormed_code : code.WellFormed :=
  ⟨Token.nodup_newMembers _ _, follows_code, isWritable_code⟩

theorem run_mintCode :
    (Grant.mintCode context 1700000000 codeRequest).run .fresh = (.ok code, ⟨1, 0⟩) :=
  Grant.run_mintCode_eq_ok_iff.mpr ⟨1700000300, rfl, Token.run_mint_eq_ok_iff.mpr ⟨rfl, rfl, rfl,
    rfl, "read write", rfl, Token.build_eq_ok_iff.mpr ⟨rfl, rfl, follows_code, isWritable_code⟩⟩⟩

theorem exists_issueCode :
    ∃ text, (Grant.issueCode context 1700000000 codeRequest state).result = .ok text :=
  Grant.exists_issueCode_of_mintCode run_mintCode rfl rfl (by decide) (by decide)

/-- The text of the code opens as the code while its time is not up. -/
theorem unwrap_code {text : String}
    (issued : (Grant.issueCode context 1700000000 codeRequest state).result = .ok text) :
    ∃ plain, code.serialize = .ok plain ∧ ∀ skew reading,
      (Number.add 1700000300 skew).le reading = false →
        context.ring.unwrap skew reading text = .ok (Utf8.encode plain) := by
  obtain ⟨found, last, minted, plain, written, opens⟩ :=
    Grant.opens_of_issueCode exact_random issued
  rw [state, run_mintCode] at minted
  cases minted
  exact ⟨plain, written, opens⟩

/-- The code as it is read back. -/
def readCode : Token := code.stored wellFormed_code

theorem ofSealed_code {text : String}
    (issued : (Grant.issueCode context 1700000000 codeRequest state).result = .ok text)
    {reading : ℤ} (early : reading < 1700000360) :
    Token.ofSealed context.ring context.sealSkew (.int reading) .authorizationCode text =
      .ok readCode := by
  have minted : (Grant.mintCode context 1700000000 codeRequest).run state.supply =
      (.ok code, ⟨1, 0⟩) := run_mintCode
  refine Grant.ofSealed_of_issueCode minted exact_random wellFormed_code issued ?_
  exact decide_eq_false (not_le.mpr early)

theorem text_ne_of_issueCode {text : String}
    (issued : (Grant.issueCode context 1700000000 codeRequest state).result = .ok text) :
    text ≠ "" :=
  Grant.text_ne_of_ofSealed (ofSealed_code issued (show (0 : ℤ) < 1700000360 by norm_num))

/-! The same code, issued in second zero. -/

/-- What the code of second zero is issued for. -/
def zeroRequest : Grant.CodeRequest := { codeRequest with authTime := .number 0 }

/-- The code of second zero. -/
def zeroCode : Token where
  kind := .authorizationCode
  claims := ⟨Token.newMembers .authorizationCode "id-1" {
    clientId := codeRequest.clientId
    issuer := .string context.issuer
    subject := codeRequest.subject
    principal := codeRequest.principal
    issuedAt := .number 0
    expiresAt := .number 300
    authTime := .number 0
    redirectUri := codeRequest.redirectUri
    scope := codeRequest.scope } "read write" codeRequest.options⟩
  kind_eq := rfl

theorem follows_zeroCode : zeroCode.claims.Follows .authorizationCode :=
  ClaimSet.check_eq_ok_iff.mp rfl

theorem isWritable_zeroCode :
    (Json.object zeroCode.claims.members).allNumbers Json.isWritable = true := by
  have numbers (holds : Number → Bool) : (Json.object zeroCode.claims.members).allNumbers holds =
      (holds 0 && (holds 300 && (holds 0 && true))) := rfl
  have first : Json.isWritable 0 = true :=
    Json.isWritable_of_lt (by norm_num) (by unfold KeyRing.expiryLimit; norm_num)
  have last : Json.isWritable 300 = true :=
    Json.isWritable_of_lt (by norm_num) (by unfold KeyRing.expiryLimit; norm_num)
  rw [numbers, first, last]
  rfl

theorem wellFormed_zeroCode : zeroCode.WellFormed :=
  ⟨Token.nodup_newMembers _ _, follows_zeroCode, isWritable_zeroCode⟩

theorem run_mint_zeroCode :
    (Grant.mintCode context 0 zeroRequest).run .fresh = (.ok zeroCode, ⟨1, 0⟩) :=
  Grant.run_mintCode_eq_ok_iff.mpr ⟨300, rfl, Token.run_mint_eq_ok_iff.mpr ⟨rfl, rfl, rfl, rfl,
    "read write", rfl, Token.build_eq_ok_iff.mpr
      ⟨rfl, rfl, follows_zeroCode, isWritable_zeroCode⟩⟩⟩

theorem exists_issue_zeroCode :
    ∃ text, (Grant.issueCode context 0 zeroRequest state).result = .ok text :=
  Grant.exists_issueCode_of_mintCode run_mint_zeroCode rfl rfl (by decide) (by decide)

/-- The code of second zero as it is read back. -/
def readZeroCode : Token := zeroCode.stored wellFormed_zeroCode

theorem ofSealed_zeroCode {text : String}
    (issued : (Grant.issueCode context 0 zeroRequest state).result = .ok text) {reading : Number}
    (early : (Number.int 360).le reading = false) :
    Token.ofSealed context.ring context.sealSkew reading .authorizationCode text =
      .ok readZeroCode := by
  have minted : (Grant.mintCode context 0 zeroRequest).run state.supply =
      (.ok zeroCode, ⟨1, 0⟩) := run_mint_zeroCode
  exact Grant.ofSealed_of_issueCode minted exact_random wellFormed_zeroCode issued early

end Sample
end SealedGrant
