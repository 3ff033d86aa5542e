import Mathlib
import SealedGrant.Proofs.Grant.Completion
import SealedGrant.Proofs.Pkce

/-! # Codes that are bound to a verifier

A code that is issued with a challenge carries it, and one that is issued without carries none
(`SealedGrant.Grant.challenge?_of_issueCode`); the challenge never hinders the issue
(`SealedGrant.Grant.exists_issueCode_withChallenge`). A request that passes the checks before it
comes to the verifier, and from there the verifier alone decides
(`SealedGrant.Grant.verifier_decides`): the right one is accepted, and what is refused leaves the
code as it was. A verifier that cannot be encoded is the server's failure, and so may be the right
verifier (`SealedGrant.Grant.verifier_meets_server_error`).
-/

namespace SealedGrant

/-- Options with another challenge, or with none. -/
def TokenOptions.withChallenge (options : TokenOptions) (challenge : Option CodeChallenge) :
    TokenOptions :=
  { options with codeChallenge := challenge }

namespace Token

/-- The member of a challenge. -/
def challengeMember (challenge : CodeChallenge) : String × Json :=
  (Claim.codeChallenge.name, .string challenge.text)

variable {kind : TokenKind} {id scope : String} {request : TokenRequest} {options : TokenOptions}
  {challenge : CodeChallenge} {members : Members}

/-- The members that options may set before the challenge. -/
def firstMembers (options : TokenOptions) : Members :=
  [(Claim.acr.name, options.acr), (Claim.nonce.name, options.nonce),
    (Claim.claimsRequest.name, options.claimsRequest), (Claim.delivery.name, options.delivery),
    (Claim.deliveryId.name, options.deliveryId), (Claim.deliveryUi.name, options.deliveryUi),
    (Claim.consentable.name, options.consentable), (Claim.consented.name, options.consented)]

theorem members_eq (options : TokenOptions) : options.members =
    ((firstMembers options).filter fun member => !ClaimSet.isNull member.2) ++
      (options.codeChallenge.map challengeMember).toList := by
  have split : options.members = (firstMembers options ++ [(Claim.codeChallenge.name,
      options.codeChallenge.elim Json.null fun challenge => .string challenge.text)]).filter
        fun member => !ClaimSet.isNull member.2 := by
    unfold TokenOptions.members
    cases options.codeChallenge <;> rfl
  rw [split, List.filter_append]
  cases options.codeChallenge <;> rfl

/-- The challenge is the last member of a new token. -/
theorem newMembers_withChallenge (challenge : Option CodeChallenge) :
    newMembers kind id request scope (options.withChallenge challenge) =
      newMembers kind id request scope (options.withChallenge none) ++
        (challenge.map challengeMember).toList := by
  simp only [newMembers, members_eq]
  simp [TokenOptions.withChallenge, firstMembers]

theorem challenge_not_mem_names (id scope : String) : Claim.codeChallenge.name ∉
    (newMembers kind id request scope (options.withChallenge none)).names := by
  have distinct : (newMembers kind id request scope
      (options.withChallenge (some ⟨"", ""⟩))).names.Nodup := nodup_newMembers id scope
  rw [newMembers_withChallenge, names_append] at distinct
  exact (List.disjoint_of_nodup_append distinct).symm List.mem_cons_self

theorem value_append_challenge {claim : Claim} (other : claim ≠ .codeChallenge) :
    ClaimSet.value ⟨members ++ [challengeMember challenge]⟩ claim =
      ClaimSet.value ⟨members⟩ claim := by
  have names : claim.name ≠ Claim.codeChallenge.name :=
    fun same => other (Claim.name_injective same)
  have apart : Members.get? [challengeMember challenge] claim.name = none := by
    rw [challengeMember, Members.get?_cons, if_neg names, Members.get?_nil]
  rw [ClaimSet.value, ClaimSet.value, Members.getD, Members.getD, Members.get?_append, apart,
    Option.or_none]

section Absent

variable (absent : Claim.codeChallenge.name ∉ members.names)

include absent

theorem text?_challenge : ClaimSet.text? ⟨members⟩ .codeChallenge = none := by
  rw [ClaimSet.text?, ClaimSet.value, Members.getD, Members.get?_eq_none_of_not_mem absent]
  rfl

theorem text?_append_challenge :
    ClaimSet.text? ⟨members ++ [challengeMember challenge]⟩ .codeChallenge =
      some challenge.text := by
  have first := Members.get?_eq_none_of_not_mem absent
  rw [ClaimSet.text?, ClaimSet.value, Members.getD, Members.get?_append, first, Option.none_or,
    challengeMember, Members.get?_cons, if_pos rfl]
  rfl

end Absent

/-- A new token has the challenge of its options. -/
theorem text?_newMembers (options : TokenOptions) :
    ClaimSet.text? ⟨newMembers kind id request scope options⟩ .codeChallenge =
      options.codeChallenge.map CodeChallenge.text := by
  have split : newMembers kind id request scope options = _ :=
    newMembers_withChallenge options.codeChallenge
  have absent : Claim.codeChallenge.name ∉
      (newMembers kind id request scope (options.withChallenge none)).names :=
    challenge_not_mem_names id scope
  rw [split]
  cases options.codeChallenge with
  | none => simpa using text?_challenge absent
  | some challenge => exact text?_append_challenge absent

/-- **A challenge that can be read back fits every code.** -/
theorem follows_append_challenge (absent : Claim.codeChallenge.name ∉ members.names)
    (read : CodeChallenge.ofText? challenge.text = some challenge)
    (follows : ClaimSet.Follows ⟨members⟩ .authorizationCode) :
    ClaimSet.Follows ⟨members ++ [challengeMember challenge]⟩ .authorizationCode where
  kind_eq := by
    rw [value_append_challenge (by decide)]
    exact follows.kind_eq
  present claim required := by
    have other : claim ≠ .codeChallenge := by
      rintro rfl
      cases required
    rw [value_append_challenge other]
    exact follows.present claim required
  fits member found := by
    rcases List.mem_append.mp found with old | new
    · exact follows.fits member old
    · rw [List.mem_singleton.mp new]
      exact ClaimSet.memberFault?_eq_none_iff.mpr ⟨rfl, by decide, rfl⟩
  issued_le := by
    rw [ClaimSet.time, ClaimSet.time, value_append_challenge (by decide),
      value_append_challenge (by decide)]
    exact follows.issued_le
  auth_le := by
    rw [ClaimSet.time, ClaimSet.time, value_append_challenge (by decide),
      value_append_challenge (by decide)]
    exact follows.auth_le
  redirect := by
    rw [ClaimSet.redirectFault?, ClaimSet.text?, value_append_challenge (by decide)]
    exact follows.redirect
  challenge := by
    rw [ClaimSet.challengeFault?, text?_append_challenge absent]
    simp [read]

theorem allNumbers_append_challenge (holds : Number → Bool) :
    (Json.object (members ++ [challengeMember challenge])).allNumbers holds =
      (Json.object members).allNumbers holds := by
  simp [Json.allNumbers, Json.allNumbersOf_eq_all, challengeMember]

/-- What is minted without a challenge is minted with one too, and carries it. -/
theorem exists_run_mint_withChallenge {ids : IdSource} {supply last : Supply} {code : Token}
    (read : CodeChallenge.ofText? challenge.text = some challenge)
    (minted : (mint (some ids) .authorizationCode request (options.withChallenge none)).run supply =
      (.ok code, last)) :
    ∃ bound : Token, (mint (some ids) .authorizationCode request
        (options.withChallenge (some challenge))).run supply = (.ok bound, last) ∧
      bound.claims = ⟨code.claims.members ++ [challengeMember challenge]⟩ := by
  obtain ⟨given, lacks, client, drawn, scope, normal, built⟩ := run_mint_eq_ok_iff.mp minted
  obtain ⟨-, claims, follows, writable⟩ := build_eq_ok_iff.mp built
  obtain ⟨token, made⟩ := exists_build
    (follows_append_challenge (challenge_not_mem_names _ scope) read follows)
    (by rwa [allNumbers_append_challenge])
  have same : newMembers .authorizationCode (ids.next supply) request scope
      (options.withChallenge (some challenge)) = _ := newMembers_withChallenge (some challenge)
  refine ⟨token, run_mint_eq_ok_iff.mpr
    ⟨given, lacks, client, drawn, scope, normal, by rwa [same]⟩, ?_⟩
  rw [claims]
  exact (build_eq_ok_iff.mp made).2.1

end Token

namespace Grant

/-- A request for a code with another challenge, or with none. -/
def CodeRequest.withChallenge (request : CodeRequest) (challenge : Option CodeChallenge) :
    CodeRequest :=
  { request with options := request.options.withChallenge challenge }

variable {context later : Context} {time : ℤ} {codeRequest : CodeRequest} {before : ServiceState}
  {text : String} {challenge : CodeChallenge}

/-- **A challenge never hinders the issue** of a code. -/
theorem exists_issueCode_withChallenge
    (read : CodeChallenge.ofText? challenge.text = some challenge)
    (issued : (issueCode context time (codeRequest.withChallenge none) before).result = .ok text) :
    ∃ bound, (issueCode context time (codeRequest.withChallenge (some challenge)) before).result =
      .ok bound := by
  obtain ⟨code, after, last, minted, closed⟩ := issueCode_eq_ok_iff.mp issued
  obtain ⟨expiry, sum, mint⟩ := run_mintCode_eq_ok_iff.mp minted
  obtain ⟨token, mintBound, claims⟩ := Token.exists_run_mint_withChallenge read mint
  have mintedBound : (mintCode context time (codeRequest.withChallenge (some challenge))).run
      before.supply = (.ok token, after) :=
    run_mintCode_eq_ok_iff.mpr ⟨expiry, sum, mintBound⟩
  obtain ⟨plain, written, wrapped⟩ := Token.run_sealedBy_eq_ok_iff.mp closed
  obtain ⟨seconds, secret, ends, small, bound, -⟩ := KeyRing.run_wrap_eq_ok_iff.mp wrapped
  have finite : (Json.object token.claims.members).isFinite = true := by
    rw [claims]
    exact (Token.allNumbers_append_challenge _).trans
      (Token.isFinite_of_serialize written)
  have expires : token.expiresAt = (seconds : ℕ) := by
    rw [← ends, Token.expiresAt, claims, ClaimSet.time, Token.value_append_challenge (by decide)]
    rfl
  exact exists_issueCode_of_mintCode mintedBound finite bound (by omega) (by omega)

/-- **What opens of an issued code carries its challenge**, if there is one. -/
theorem challenge?_of_issueCode (exact : RandomSource.Exact context.random)
    (issued : (issueCode context time codeRequest before).result = .ok text)
    (agrees : context.ring.Agrees later.ring) {skew reading : Number} {kind : TokenKind}
    {grant : Token} (opened : Token.ofSealed later.ring skew reading kind text = .ok grant) :
    grant.challenge? = codeRequest.options.codeChallenge.bind fun challenge =>
      CodeChallenge.ofText? challenge.text := by
  obtain ⟨code, after, formed, minted, -, -, rfl⟩ :=
    eq_stored_of_issueCode exact issued agrees opened
  obtain ⟨expiry, -, mint⟩ := run_mintCode_eq_ok_iff.mp minted
  obtain ⟨-, -, -, -, scope, -, built⟩ := Token.run_mint_eq_ok_iff.mp mint
  obtain ⟨-, claims, -, -⟩ := Token.build_eq_ok_iff.mp built
  rw [Token.challenge?_stored, Token.challenge?, claims, Token.text?_newMembers, Option.bind_map]
  rfl

/-! ## At the verifier -/

/-- A request comes to the verifier of a code: its text opens as the code, and the code belongs to
the request as far as can be told without the verifier. -/
structure ComesToVerifier (context : Context) (readings : Readings) (request : GrantRequest)
    (text : String) (code : Token) : Prop where
  presents : presented request = .ok (.authorizationCode, text)
  opens : Token.ofSealed context.ring context.sealSkew readings.sealing .authorizationCode text =
    .ok code
  client : request.clientId = some code.clientId
  begun : ∃ latest, (Number.int readings.now).sum context.policy.skew = .ok latest ∧
    latest.lt (.int code.issuedAt) = false
  alive : code.isExpired (.int readings.now) context.policy.skew = .ok false
  redirect : request.redirectUri = some code.redirectUri
  challenged : context.policy.demandsPkce request.publicClient = true →
    code.challenge?.isSome = true

section Request

variable {readings : Readings} {request : GrantRequest} {code : Token} {state : ServiceState}

namespace ComesToVerifier

variable (comes : ComesToVerifier context readings request text code)

include comes

/-- **From the verifier on, the verifier decides.** -/
theorem identify_eq : identify context.policy request readings.now code =
    Pkce.check code.challenge? request.codeVerifier := by
  have kind := (Token.ofSealed_eq_ok_iff.mp comes.opens).1
  have bound : ¬ (code.challenge?.isNone && context.policy.demandsPkce request.publicClient) =
      true := by
    intro owed
    obtain ⟨unbound, demanded⟩ := Bool.and_eq_true_iff.mp owed
    have challenged := comes.challenged demanded
    rw [Option.isNone_iff_eq_none.mp unbound] at challenged
    cases challenged
  rw [identify_eq_matchCode comes.client comes.begun comes.alive, if_pos kind, matchCode,
    if_neg (not_not_intro comes.redirect.symm), if_neg bound]

theorem accept_of_check
    (checked : Pkce.check code.challenge? request.codeVerifier = .ok ()) :
    accept context readings request = .ok code := by
  refine accept_eq_ok_iff.mpr ⟨_, text, comes.presents, comes.opens, ?_⟩
  rw [comes.identify_eq, checked]

theorem accept_of_check_error {cause : Failure}
    (checked : Pkce.check code.challenge? request.codeVerifier = .error cause) :
    accept context readings request = .error ⟨cause, .tokenUnwrapped, some code.id⟩ := by
  unfold accept
  rw [comes.presents]
  dsimp only
  rw [comes.opens]
  dsimp only
  rw [comes.identify_eq, checked]

theorem accept_eq_ok_iff_check : accept context readings request = .ok code ↔
    Pkce.check code.challenge? request.codeVerifier = .ok () := by
  refine ⟨fun accepted => ?_, comes.accept_of_check⟩
  cases checked : Pkce.check code.challenge? request.codeVerifier with
  | ok done => rfl
  | error cause =>
    rw [comes.accept_of_check_error checked] at accepted
    cases accepted

end ComesToVerifier

/-- A request is refused at the verifier with an error code and changes nothing. -/
def RefusedAtVerifier (context : Context) (readings : Readings) (request : GrantRequest)
    (state : ServiceState) (error : ErrorCode) : Prop :=
  ∃ refusal, handle context readings request state = (.refused refusal, state) ∧
    refusal.code = error ∧ refusal.after = .tokenUnwrapped

theorem ComesToVerifier.refused {cause : Failure}
    (comes : ComesToVerifier context readings request text code)
    (checked : Pkce.check code.challenge? request.codeVerifier = .error cause) :
    RefusedAtVerifier context readings request state cause.code := by
  refine ⟨⟨cause, .tokenUnwrapped, some code.id⟩, ?_, rfl, rfl⟩
  unfold handle
  rw [comes.accept_of_check_error checked]

/-- **What the verifier of a request decides** about a code whose challenge was made from a verifier
by a method: the request is accepted exactly when its verifier is not empty and answers for that
one; a request without a verifier is invalid, and one with another verifier has an invalid grant,
unless the verifier cannot be encoded, which is a server error. A request that is not accepted takes
nothing from the code: one that comes with the verifier later goes on to redeem it, as if the other
had never been made. -/
structure DecidedByVerifier (method verifier : String) (context : Context) (readings : Readings)
    (request : GrantRequest) (text : String) (code : Token) (state : ServiceState) : Prop where
  accepted_iff : accept context readings request = .ok code ↔
    ∃ given, request.codeVerifier = some given ∧ given ≠ [] ∧ Pkce.Answers method given verifier
  absent : request.codeVerifier = none ∨ request.codeVerifier = some [] →
    RefusedAtVerifier context readings request state .invalidRequest
  other : ∀ given, request.codeVerifier = some given → given ≠ [] →
    ¬ Pkce.Answers method given verifier → ¬ Pkce.Unencodable method given →
      RefusedAtVerifier context readings request state .invalidGrant
  unencodable : ∀ given, request.codeVerifier = some given → Pkce.Unencodable method given →
    RefusedAtVerifier context readings request state .serverError
  stays : accept context readings request ≠ .ok code → ∀ again retry found,
    ComesToVerifier context again retry text found →
      retry.codeVerifier = some (.ofString verifier) →
        handle context again retry (handle context readings request state).2 =
          redeem context again retry found state

theorem ComesToVerifier.decidedByVerifier {method verifier : String}
    (comes : ComesToVerifier later readings request text code)
    (carries : ∀ again retry found, ComesToVerifier later again retry text found →
      found.challenge? = some challenge)
    (made : Pkce.challenge verifier method = .ok challenge) (filled : verifier ≠ "") :
    DecidedByVerifier method verifier later readings request text code state := by
  have bound := carries readings request code comes
  refine ⟨?_, fun missing => ?_, fun given sent nonempty unlike encodable => ?_,
    fun given sent beyond => ?_, ?_⟩
  · rw [comes.accept_eq_ok_iff_check, bound, Pkce.check_made_eq_ok_iff made]
  · have absent : request.codeVerifier.filter (· ≠ []) = none := by
      rcases missing with missing | missing <;> rw [missing] <;> rfl
    have checked := Pkce.check_of_absent absent challenge
    rw [← bound] at checked
    exact comes.refused checked
  · have checked := (Pkce.check_made made nonempty encodable).2 unlike
    rw [← bound, ← sent] at checked
    exact comes.refused checked
  · have checked := Pkce.check_of_unencodable made beyond
    rw [← bound, ← sent] at checked
    exact comes.refused checked
  · intro unaccepted again retry found returns same
    have kept : (handle later readings request state).2 = state := by
      cases checked : Pkce.check code.challenge? request.codeVerifier with
      | ok done => exact absurd (comes.accept_of_check checked) unaccepted
      | error cause =>
        unfold handle
        rw [comes.accept_of_check_error checked]
    have answers := Pkce.answers_self made
    have nonempty : WideText.ofString verifier ≠ [] := mt WideText.ofString_eq_nil_iff.mp filled
    have accepted : accept later again retry = .ok found := by
      rw [returns.accept_eq_ok_iff_check, carries again retry found returns, same]
      exact (Pkce.check_made made nonempty answers.encodable).1 answers
    rw [kept, handle, accepted]

end Request

/-- **The verifier of a code decides.** -/
theorem verifier_decides (exact : RandomSource.Exact context.random) (time : ℤ)
    (codeRequest : CodeRequest) (before : ServiceState) :
    (∀ method verifier challenge, Pkce.challenge verifier method = .ok challenge → verifier ≠ "" →
      ∀ text, (issueCode context time (codeRequest.withChallenge none) before).result = .ok text →
        ∃ bound, (issueCode context time (codeRequest.withChallenge (some challenge))
          before).result = .ok bound) ∧
    ∀ text, (issueCode context time codeRequest before).result = .ok text →
      ∀ later : Context, context.ring.Agrees later.ring → ∀ readings request code,
        ComesToVerifier later readings request text code → ∀ state,
          (∀ method verifier challenge, Pkce.challenge verifier method = .ok challenge →
            verifier ≠ "" → codeRequest.options.codeChallenge = some challenge →
              DecidedByVerifier method verifier later readings request text code state) ∧
          (codeRequest.options.codeChallenge = none → ∀ given, request.codeVerifier = some given →
            given ≠ [] → RefusedAtVerifier later readings request state .invalidGrant) := by
  refine ⟨fun method verifier challenge made filled text issued =>
    exists_issueCode_withChallenge (Pkce.ofText?_made made filled) issued, ?_⟩
  intro text issued later agrees readings request code comes state
  have carries (again : Readings) (retry : GrantRequest) (found : Token)
      (returns : ComesToVerifier later again retry text found) : found.challenge? =
        codeRequest.options.codeChallenge.bind fun challenge =>
          CodeChallenge.ofText? challenge.text :=
    challenge?_of_issueCode exact issued agrees returns.opens
  constructor
  · intro method verifier challenge made filled bound
    refine comes.decidedByVerifier (fun again retry found returns => ?_) made filled
    rw [carries again retry found returns, bound]
    exact Pkce.ofText?_made made filled
  · intro unbound given sent filled
    have unasked : Pkce.check code.challenge? request.codeVerifier =
        .error (.fault (.identity .unexpectedVerifier)) := by
      rw [carries readings request code comes, unbound, sent]
      exact Pkce.check_none filled
    exact comes.refused unasked

/-! A code that is bound to a verifier with colons and a letter beyond ASCII. -/

/-- The challenge of the verifier. -/
def sampleChallenge : CodeChallenge := ⟨"a:b:ü", "plain"⟩

/-- What the bound code is issued for. -/
def boundRequest : CodeRequest := Sample.codeRequest.withChallenge (some sampleChallenge)

/-- The bound code. -/
def boundCode : Token where
  kind := .authorizationCode
  claims := ⟨Sample.code.claims.members ++ [Token.challengeMember sampleChallenge]⟩
  kind_eq := rfl

/-- The code is presented with a verifier. -/
def boundGrant (text : String) (verifier : WideText) : GrantRequest :=
  { codeGrant text with codeVerifier := some verifier }

theorem wellFormed_boundCode : boundCode.WellFormed := by
  have read : CodeChallenge.ofText? sampleChallenge.text = some sampleChallenge :=
    CodeChallenge.ofText?_text (by decide) (by decide) (by decide)
  have absent : Claim.codeChallenge.name ∉ Sample.code.claims.members.names := by decide
  have distinct : boundCode.claims.members.names.Nodup := by decide
  exact ⟨distinct, Token.follows_append_challenge absent read Sample.follows_code,
    (Token.allNumbers_append_challenge _).trans Sample.isWritable_code⟩

theorem run_mint_boundCode :
    (mintCode Sample.context 1700000000 boundRequest).run Sample.state.supply =
      (.ok boundCode, ⟨1, 0⟩) := by
  have formed := wellFormed_boundCode
  exact run_mintCode_eq_ok_iff.mpr ⟨1700000300, rfl, Token.run_mint_eq_ok_iff.mpr ⟨rfl, rfl, rfl,
    rfl, "read write", rfl, Token.build_eq_ok_iff.mpr ⟨rfl, rfl, formed.follows, formed.writable⟩⟩⟩

section BoundGrant

variable {text : String} (now : ℤ)
  (issued : (issueCode Sample.context 1700000000 boundRequest Sample.state).result = .ok text)
  (begun : 1700000000 ≤ now + 60) (alive : now < 1700000360)

include issued alive

theorem ofSealed_boundCode :
    Token.ofSealed Sample.context.ring Sample.context.sealSkew (.int now) .authorizationCode text =
      .ok (boundCode.stored wellFormed_boundCode) :=
  ofSealed_of_issueCode run_mint_boundCode Sample.exact_random wellFormed_boundCode issued
    (decide_eq_false (not_le.mpr alive))

include begun

theorem comesToVerifier_boundGrant (verifier : WideText) :
    ComesToVerifier Sample.context ⟨now, .int now, .int now⟩ (boundGrant text verifier) text
      (boundCode.stored wellFormed_boundCode) := by
  have opens := ofSealed_boundCode now issued alive
  have presents : presented (codeGrant text) = .ok (.authorizationCode, text) :=
    presented_codeGrant (text_ne_of_ofSealed opens)
  refine ⟨presents, opens, ?_, ⟨.int (now + 60), rfl, ?_⟩, ?_, ?_, fun demanded => ?_⟩
  · rw [Token.clientId_stored]
    rfl
  · rw [Token.issuedAt_stored]
    exact decide_eq_false (not_lt.mpr begun)
  · rw [Token.isExpired, Token.expiresAt_stored]
    exact congrArg Except.ok (decide_eq_false (not_le.mpr alive))
  · rw [Token.redirectUri_stored]
    rfl
  · cases demanded

end BoundGrant

/-- The part of the verifier before its last colon does not answer for it. -/
theorem not_answers_shortened : ¬ Pkce.Answers "plain" (.ofString "a:b") "a:b:ü" := by
  rintro (⟨-, same⟩ | ⟨other, -⟩)
  · exact absurd same (by decide)
  · exact absurd other (by decide)

theorem encodable_shortened : ¬ Pkce.Unencodable "plain" (.ofString "a:b") := by
  rintro ⟨-, unread⟩
  cases unread

/-- The code is issued, refuses the part of the verifier before its last colon, and then still takes
the verifier. -/
theorem verifier_decides_sample : ∃ text,
    (issueCode Sample.context 1700000000 boundRequest Sample.state).result = .ok text ∧
    RefusedAtVerifier Sample.context ⟨1700000010, 1700000010, 1700000010⟩
      (boundGrant text (.ofString "a:b")) Sample.state .invalidGrant ∧
    accept Sample.context ⟨1700000010, 1700000010, 1700000010⟩
      (boundGrant text (.ofString "a:b:ü")) = .ok (boundCode.stored wellFormed_boundCode) := by
  have made : Pkce.challenge "a:b:ü" "plain" = .ok sampleChallenge := rfl
  obtain ⟨plain, unbound⟩ := Sample.exists_issueCode
  obtain ⟨issues, decides⟩ :=
    verifier_decides Sample.exact_random 1700000000 boundRequest Sample.state
  obtain ⟨text, issued⟩ := issues "plain" "a:b:ü" sampleChallenge made (by decide) plain unbound
  have comes := comesToVerifier_boundGrant 1700000010 issued (by norm_num) (by norm_num)
  have wrong := (decides text issued Sample.context (.refl _) _ _ _
    (comes (.ofString "a:b")) Sample.state).1 _ _ _ made (by decide) rfl
  have right := (decides text issued Sample.context (.refl _) _ _ _
    (comes (.ofString "a:b:ü")) Sample.state).1 _ _ _ made (by decide) rfl
  exact ⟨text, issued, wrong.other _ rfl (by decide) not_answers_shortened encodable_shortened,
    right.accepted_iff.mpr ⟨_, rfl, by decide, Or.inl ⟨rfl, rfl⟩⟩⟩

/-- **A verifier may meet a failure of the server.** A lone surrogate does not answer for the
verifier, but it is no invalid grant. Half a minute before the issue, while clocks may differ by a
minute, the verifier itself is of no use after a wrong one: the code is reserved and lost. -/
theorem verifier_meets_server_error : ∃ text,
    (issueCode Sample.context 1700000000 boundRequest Sample.state).result = .ok text ∧
    (ComesToVerifier Sample.context ⟨1700000010, 1700000010, 1700000010⟩
        (boundGrant text [.surrogate 0]) text (boundCode.stored wellFormed_boundCode) ∧
      ¬ Pkce.Answers "plain" [.surrogate 0] "a:b:ü" ∧
      RefusedAtVerifier Sample.context ⟨1700000010, 1700000010, 1700000010⟩
        (boundGrant text [.surrogate 0]) Sample.state .serverError) ∧
    ComesToVerifier Sample.context ⟨1699999970, 1699999970, 1699999970⟩
        (boundGrant text (.ofString "a:b")) text (boundCode.stored wellFormed_boundCode) ∧
      RefusedAtVerifier Sample.context ⟨1699999970, 1699999970, 1699999970⟩
        (boundGrant text (.ofString "a:b")) Sample.state .invalidGrant ∧
      ∃ refusal, (handle Sample.context ⟨1699999970, 1699999970, 1699999970⟩
          (boundGrant text (.ofString "a:b:ü")) Sample.state).1 = .refused refusal ∧
        refusal.code = .serverError ∧ refusal.after = .replayReserved := by
  have made : Pkce.challenge "a:b:ü" "plain" = .ok sampleChallenge := rfl
  have read := Pkce.ofText?_made made (by decide)
  obtain ⟨plain, unbound⟩ := Sample.exists_issueCode
  obtain ⟨text, issued⟩ : ∃ text,
      (issueCode Sample.context 1700000000 boundRequest Sample.state).result = .ok text :=
    exists_issueCode_withChallenge read unbound
  have bound : (boundCode.stored wellFormed_boundCode).challenge? = some sampleChallenge := by
    rw [Token.challenge?_stored]
    exact read
  have beyond : Pkce.Unencodable "plain" [.surrogate 0] := ⟨rfl, rfl⟩
  have broken := Pkce.check_of_unencodable made beyond
  have wrong := (Pkce.check_made made (by decide) encodable_shortened).2 not_answers_shortened
  have right := (Pkce.check_made made (by decide) (Pkce.answers_self made).encodable).1
    (Pkce.answers_self made)
  rw [← bound] at broken wrong right
  have later := comesToVerifier_boundGrant 1700000010 issued (by norm_num) (by norm_num)
  have earlier := comesToVerifier_boundGrant 1699999970 issued (by norm_num) (by norm_num)
  have ready : Ready Sample.context 1699999970 (boundCode.stored wellFormed_boundCode) :=
    ready_of_issueCode Sample.exact_random isWhole_policy issued
      (ofSealed_boundCode 1699999970 issued (by norm_num)) (by decide) (by decide)
      (by decide)
  have accepted := (earlier (.ofString "a:b:ü")).accept_of_check right
  have reserved : (reserve Sample.context.policy ⟨1699999970, 1699999970, 1699999970⟩
      (boundCode.stored wellFormed_boundCode) Sample.state.store).1 = .ok () := by
    rw [reserve_stored]
    rfl
  refine ⟨text, issued, ⟨later _, fun answers => answers.encodable beyond,
    (later _).refused broken⟩, earlier _, (earlier _).refused wrong,
    (handle_of_ready ready accepted reserved rfl).2 ?_⟩
  rw [Token.authTime_stored]
  decide

end Grant

end SealedGrant
