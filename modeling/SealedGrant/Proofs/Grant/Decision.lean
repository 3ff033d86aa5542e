import Mathlib
import SealedGrant.Grant.Redemption
import SealedGrant.Proofs.Pkce
import SealedGrant.Proofs.Token.Minting

/-! # The decision on a request

A request is decided by a list of checks that is read off the request, the presented token and the
answer of the store alone (`SealedGrant.Grant.checks`). The first check that fails gives the error
code of the refusal and how far the request had come; where none fails, only the server's own doing
can keep tokens back (`SealedGrant.Grant.handle_decided`). Some checks are the server's: sums of
times that do not exist are no fault of a request. What becomes of a verifier that cannot be encoded
is left open here (`SealedGrant.Pkce.check_of_unencodable`).
-/

namespace SealedGrant.Grant

/-- A condition on a request: whether it holds, the error code for a request that violates it, and
how far that request has come. -/
structure Check where
  holds : Bool
  code : ErrorCode
  after : Stage

/-- The first check that fails. -/
def firstFailing (checks : List Check) : Option Check :=
  checks.find? fun check => !check.holds

theorem firstFailing_append (first second : List Check) :
    firstFailing (first ++ second) = (firstFailing first).or (firstFailing second) :=
  List.find?_append

@[simp] theorem firstFailing_nil : firstFailing [] = none := rfl

theorem firstFailing_cons (check : Check) (rest : List Check) :
    firstFailing (check :: rest) = if check.holds then firstFailing rest else some check := by
  unfold firstFailing
  cases holds : check.holds <;> simp [holds]

theorem firstFailing_eq_none_iff {checks : List Check} :
    firstFailing checks = none ↔ ∀ check ∈ checks, check.holds = true := by
  simp [firstFailing]

/-! ## The checks -/

/-- The kind of token that a type of grant presents. -/
def grantKind? (request : GrantRequest) : Option TokenKind :=
  if request.grantType = some codeGrantType then some .authorizationCode
  else if request.grantType = some refreshGrantType then some .refreshToken
  else none

/-- The text that a request presents. -/
def presentedText? (request : GrantRequest) : Option String :=
  if request.grantType = some codeGrantType then request.code else request.refreshToken

/-- Whether a parameter was sent and is not empty. -/
def isGiven (parameter : Option String) : Bool :=
  parameter.any (· ≠ "")

/-- What a request must name before its grant is looked at. -/
def requestChecks (request : GrantRequest) : List Check :=
  [⟨isGiven request.grantType, .invalidRequest, .start⟩,
    ⟨(grantKind? request).isSome, .invalidGrant, .start⟩,
    ⟨isGiven (presentedText? request), .invalidRequest, .start⟩,
    ⟨grantKind? request ≠ some .authorizationCode || isGiven request.redirectUri, .invalidRequest,
      .start⟩]

/-- Whether a code goes with the verifier of a request: a verifier is owed exactly when there is a
challenge. -/
def pkceChecks (challenge : Option CodeChallenge) (verifier : Option WideText) : List Check :=
  let given := verifier.any (· ≠ [])
  match challenge with
  | none => [⟨!given, .invalidGrant, .tokenUnwrapped⟩]
  | some challenge =>
      [⟨given, .invalidRequest, .tokenUnwrapped⟩,
        ⟨(Pkce.Method.ofName? challenge.method).isSome, .invalidRequest, .tokenUnwrapped⟩,
        ⟨(Pkce.Method.ofName? challenge.method).any fun method =>
          (verifier.bind WideText.text?).bind method.challengeValue? = some challenge.value,
          .invalidGrant, .tokenUnwrapped⟩]

/-- What binds a code to a request. -/
def codeChecks (policy : Policy) (request : GrantRequest) (code : Token) : List Check :=
  [⟨request.redirectUri = some code.redirectUri, .invalidGrant, .tokenUnwrapped⟩,
    ⟨!policy.demandsPkce request.publicClient || code.challenge?.isSome, .invalidGrant,
      .tokenUnwrapped⟩] ++ pkceChecks code.challenge? request.codeVerifier

/-- What binds a token to a request: its client, its life and, for a code, what binds a code. -/
def identityChecks (policy : Policy) (request : GrantRequest) (now : ℤ) (grant : Token) :
    List Check :=
  [⟨request.clientId = some grant.clientId, .invalidGrant, .tokenUnwrapped⟩,
    ⟨(Number.int now).addable policy.skew, .serverError, .tokenUnwrapped⟩,
    ⟨!((Number.int now).add policy.skew).lt (.int grant.issuedAt), .invalidGrant,
      .tokenUnwrapped⟩,
    ⟨(Number.int grant.expiresAt).addable policy.skew, .serverError, .tokenUnwrapped⟩,
    ⟨!((Number.int grant.expiresAt).add policy.skew).le (.int now), .invalidGrant,
      .tokenUnwrapped⟩] ++
    if grant.kind = .authorizationCode then codeChecks policy request grant else []

/-- What the store answers to the reservation of a grant, if it answers. -/
def storeAnswer? (policy : Policy) (readings : Readings) (grant : Token)
    (store : ReservationStore) : Option ReserveAnswer :=
  (reservationSpan policy readings.now grant).toOption.bind fun span =>
    (store.reserve readings.store grant.id span).1.toOption

/-- What a grant that can be used once needs of the store. -/
def reservationChecks (policy : Policy) (readings : Readings) (grant : Token)
    (store : ReservationStore) : List Check :=
  if grant.kind = .authorizationCode ∨ policy.rotation = .rotateAndRevoke then
    [⟨(storeAnswer? policy readings grant store).isSome, .serverError, .identityVerified⟩,
      ⟨storeAnswer? policy readings grant store = some .reserved, .invalidGrant,
        .identityVerified⟩]
  else []

/-- Whether a request stays within the scope of a grant; a scope of blanks asks for nothing. -/
def asksWithin (request : GrantRequest) (grant : Token) : Bool :=
  request.scope.all fun scope =>
    Text.trim scope = "" || (Scope.items scope).all fun item => grant.scope.contains item

/-- What a request must satisfy once its grant is reserved. -/
def issueChecks (policy : Policy) (request : GrantRequest) (now : ℤ) (grant : Token) :
    List Check :=
  [⟨(Number.int now).addable policy.accessTtl.amount, .serverError, .replayReserved⟩,
    ⟨asksWithin request grant, .invalidScope, .replayReserved⟩]

/-- What a request must satisfy once its text opened as a token. -/
def grantChecks (context : Context) (readings : Readings) (request : GrantRequest)
    (store : ReservationStore) (grant : Token) : List Check :=
  [⟨grantKind? request = some grant.kind, .invalidGrant, .grantParsed⟩] ++
    identityChecks context.policy request readings.now grant ++
    reservationChecks context.policy readings grant store ++
    issueChecks context.policy request readings.now grant

/-- **All checks of a request**, in order, whose text opens as a token or does not open. -/
def checks (context : Context) (readings : Readings) (request : GrantRequest)
    (store : ReservationStore) (opened : Option Token) : List Check :=
  requestChecks request ++
    match opened with
    | none => [⟨false, .invalidGrant, .grantParsed⟩]
    | some grant => grantChecks context readings request store grant

/-- The first check that fails refuses a request; without one it is granted, or the server fails
after the reservation. -/
def DecidedBy (answer : Answer) (checks : List Check) : Prop :=
  match firstFailing checks with
  | some check => ∃ refusal, answer = .refused refusal ∧ refusal.code = check.code ∧
      refusal.after = check.after
  | none => (∃ issued, answer = .granted issued) ∨ ∃ refusal, answer = .refused refusal ∧
      refusal.code = .serverError ∧ refusal.after = .replayReserved

/-- The text that a request presents does not open, or it opens as the canonical text of a checked
token. -/
def Presents (context : Context) (readings : Readings) (request : GrantRequest) :
    Option Token → Prop
  | none => ∀ text, presentedText? request = some text → ∀ bytes,
      context.ring.unwrap context.sealSkew readings.sealing text ≠ .ok bytes
  | some grant => grant.WellFormed ∧ ∀ text, presentedText? request = some text → ∃ plain,
      grant.serialize = .ok plain ∧
        context.ring.unwrap context.sealSkew readings.sealing text = .ok (Utf8.encode plain)

/-! ## Each step and its checks -/

/-- What a step gives agrees with its checks: a failure is the first check that fails, and where it
gives a value no check fails. -/
def StepBy {α : Type} (result : Except Failure α) (checks : List Check) (after : Stage) : Prop :=
  match result with
  | .error cause => ∃ check, firstFailing checks = some check ∧ cause.code = check.code ∧
      after = check.after
  | .ok _ => firstFailing checks = none

section StepBy

variable {α : Type} {result : Except Failure α} {check : Check} {rest : List Check} {after : Stage}

theorem stepBy_nil (value : α) : StepBy (.ok value) [] after :=
  firstFailing_nil

theorem stepBy_cons (holds : check.holds = true) (step : StepBy result rest after) :
    StepBy result (check :: rest) after := by
  unfold StepBy at step ⊢
  rw [firstFailing_cons, if_pos holds]
  exact step

theorem stepBy_error {cause : Failure} (fails : check.holds = false)
    (code : cause.code = check.code) (stage : after = check.after) :
    StepBy (.error cause : Except Failure α) (check :: rest) after := by
  refine ⟨check, ?_, code, stage⟩
  rw [firstFailing_cons, fails]
  rfl

end StepBy

theorem given?_cases (parameter : Option String) :
    (isGiven parameter = false ∧ given? parameter = none) ∨
      ∃ text, isGiven parameter = true ∧ given? parameter = some text := by
  cases parameter with
  | none => exact Or.inl ⟨rfl, rfl⟩
  | some text =>
    by_cases empty : text = ""
    · subst empty
      exact Or.inl ⟨rfl, rfl⟩
    · have given : decide (text ≠ "") = true := decide_eq_true empty
      exact Or.inr ⟨text, given, Option.filter_eq_some_iff.mpr ⟨rfl, given⟩⟩

theorem eq_some_of_given? {parameter : Option String} {text : String}
    (present : given? parameter = some text) : parameter = some text :=
  (Option.filter_eq_some_iff.mp present).1

theorem grantType_ne : refreshGrantType ≠ codeGrantType := by decide

/-- What is read of a request is what it presents. -/
theorem presented_eq_ok {request : GrantRequest} {kind : TokenKind} {text : String}
    (read : presented request = .ok (kind, text)) :
    grantKind? request = some kind ∧ presentedText? request = some text := by
  unfold presented given? at read
  unfold grantKind? presentedText?
  split at read
  · cases read
  · next grantType sent =>
    obtain ⟨named, -⟩ := Option.filter_eq_some_iff.mp sent
    rw [named]
    split at read
    · next isCode =>
      subst isCode
      split at read
      · cases read
      · cases read
      · next code _ sentCode _ =>
        cases read
        exact ⟨rfl, (Option.filter_eq_some_iff.mp sentCode).1⟩
    · next notCode =>
      split at read
      · next isRefresh =>
        subst isRefresh
        split at read
        · cases read
        · next token sentToken =>
          cases read
          exact ⟨rfl, (Option.filter_eq_some_iff.mp sentToken).1⟩
      · cases read

theorem stepBy_presented_code {request : GrantRequest}
    (named : request.grantType = some codeGrantType) :
    StepBy ((presented request).mapError .fault) (requestChecks request) .start := by
  have typed : given? request.grantType = some codeGrantType := by
    rw [named]
    rfl
  have kind : grantKind? request = some .authorizationCode := if_pos named
  have text : presentedText? request = request.code := if_pos named
  unfold requestChecks presented
  rw [typed, kind, text]
  dsimp only
  rw [if_pos rfl]
  refine stepBy_cons (by rw [named]; rfl) (stepBy_cons rfl ?_)
  rcases given?_cases request.code with ⟨missing, absent⟩ | ⟨code, sent, present⟩
  · rw [absent]
    exact stepBy_error missing rfl rfl
  · rw [present]
    refine stepBy_cons sent ?_
    rcases given?_cases request.redirectUri with ⟨missing, absent⟩ | ⟨uri, sent, present⟩
    · rw [absent]
      exact stepBy_error missing rfl rfl
    · rw [present]
      exact stepBy_cons sent (stepBy_nil _)

theorem stepBy_presented_refresh {request : GrantRequest}
    (named : request.grantType = some refreshGrantType) :
    StepBy ((presented request).mapError .fault) (requestChecks request) .start := by
  have typed : given? request.grantType = some refreshGrantType := by
    rw [named]
    rfl
  have kind : grantKind? request = some .refreshToken := by
    simp [grantKind?, named, grantType_ne]
  have text : presentedText? request = request.refreshToken := by
    simp [presentedText?, named, grantType_ne]
  unfold requestChecks presented
  rw [typed, kind, text]
  dsimp only
  rw [if_neg grantType_ne, if_pos rfl]
  refine stepBy_cons (by rw [named]; rfl) (stepBy_cons rfl ?_)
  rcases given?_cases request.refreshToken with ⟨missing, absent⟩ | ⟨token, sent, present⟩
  · rw [absent]
    exact stepBy_error missing rfl rfl
  · rw [present]
    exact stepBy_cons sent (stepBy_cons rfl (stepBy_nil _))

theorem stepBy_presented (request : GrantRequest) :
    StepBy ((presented request).mapError .fault) (requestChecks request) .start := by
  rcases given?_cases request.grantType with ⟨missing, absent⟩ | ⟨grantType, sent, present⟩
  · unfold requestChecks presented
    rw [absent]
    exact stepBy_error missing rfl rfl
  · have named := eq_some_of_given? present
    by_cases isCode : grantType = codeGrantType
    · exact stepBy_presented_code (isCode ▸ named)
    · by_cases isRefresh : grantType = refreshGrantType
      · exact stepBy_presented_refresh (isRefresh ▸ named)
      · have kind : grantKind? request = none := by
          simp [grantKind?, named, isCode, isRefresh]
        unfold requestChecks presented
        rw [present, kind]
        dsimp only
        rw [if_neg isCode, if_neg isRefresh]
        exact stepBy_cons sent (stepBy_error rfl rfl rfl)

section Encodable

variable {policy : Policy} {request : GrantRequest} {now : ℤ} {grant : Token}

theorem stepBy_pkce (challenge : Option CodeChallenge) (verifier : Option WideText)
    (encodable : ∀ made, challenge = some made → ∀ given, verifier = some given →
      ¬ Pkce.Unencodable made.method given) :
    StepBy (Pkce.check challenge verifier) (pkceChecks challenge verifier) .tokenUnwrapped := by
  unfold Pkce.check pkceChecks
  by_cases missing : verifier.any (· ≠ []) = false
  · have absent : verifier.filter (· ≠ []) = none := by
      rw [Option.filter_eq_none_iff]
      exact fun given sent => Bool.eq_false_iff.mp
        ((Option.any_eq_false _ _).mp missing given sent)
    rw [absent, missing]
    cases challenge with
    | none => exact stepBy_cons rfl (stepBy_nil _)
    | some challenge => exact stepBy_error rfl rfl rfl
  · have filled : verifier.any (· ≠ []) = true := Bool.eq_true_of_not_eq_false missing
    obtain ⟨given, rfl, nonempty⟩ := (Option.any_eq_true _ _).mp filled
    have present : (some given).filter (· ≠ []) = some given :=
      Option.filter_eq_some_iff.mpr ⟨rfl, nonempty⟩
    rw [present, filled]
    cases challenge with
    | none => exact stepBy_error rfl rfl rfl
    | some challenge =>
      refine stepBy_cons rfl ?_
      dsimp only
      rw [Pkce.verify_eq (encodable challenge rfl given rfl), Option.bind_some]
      cases known : Pkce.Method.ofName? challenge.method with
      | none => exact stepBy_error rfl rfl rfl
      | some method =>
        refine stepBy_cons rfl ?_
        dsimp only
        by_cases matched :
            (WideText.text? given).bind method.challengeValue? = some challenge.value
        · rw [beq_iff_eq.mpr matched]
          exact stepBy_cons (decide_eq_true matched) (stepBy_nil _)
        · rw [beq_eq_false_iff_ne.mpr matched]
          exact stepBy_error (decide_eq_false matched) rfl rfl

/-- The verifier of a request, if it has one, can be encoded as far as the challenge of a token
takes that. -/
def EncodesVerifier (request : GrantRequest) (grant : Token) : Prop :=
  ∀ challenge, grant.challenge? = some challenge → ∀ verifier,
    request.codeVerifier = some verifier → ¬ Pkce.Unencodable challenge.method verifier

theorem stepBy_matchCode (encodes : EncodesVerifier request grant) :
    StepBy (matchCode policy request grant) (codeChecks policy request grant)
      .tokenUnwrapped := by
  unfold matchCode codeChecks
  by_cases uri : request.redirectUri = some grant.redirectUri
  · refine stepBy_cons (by simpa using uri) ?_
    simp only [uri, ne_eq, not_true_eq_false, ↓reduceIte]
    by_cases owed : (grant.challenge?.isNone && policy.demandsPkce request.publicClient) = true
    · rw [if_pos owed]
      rw [Bool.and_eq_true, Option.isNone_iff_eq_none] at owed
      exact stepBy_error (by simp [owed.1, owed.2]) rfl rfl
    · rw [if_neg owed]
      refine stepBy_cons ?_ (stepBy_pkce _ _ encodes)
      revert owed
      cases policy.demandsPkce request.publicClient <;> cases grant.challenge? <;> simp
  · rw [if_pos fun same => uri same.symm]
    exact stepBy_error (by simpa using uri) rfl rfl

theorem stepBy_identify (encodes : EncodesVerifier request grant) :
    StepBy (identify policy request now grant) (identityChecks policy request now grant)
      .tokenUnwrapped := by
  unfold identify identityChecks
  rw [Token.isExpired_eq]
  unfold Number.sum
  by_cases client : request.clientId = some grant.clientId
  · refine stepBy_cons (by simpa using client) ?_
    rw [if_neg (not_not_intro client.symm)]
    cases added : (Number.int now).addable policy.skew with
    | false => exact stepBy_error rfl rfl rfl
    | true =>
      refine stepBy_cons rfl ?_
      simp only [↓reduceIte]
      cases future : ((Number.int now).add policy.skew).lt (.int grant.issuedAt) with
      | true => exact stepBy_error rfl rfl rfl
      | false =>
        refine stepBy_cons rfl ?_
        cases ends : (Number.int grant.expiresAt).addable policy.skew with
        | false => exact stepBy_error rfl rfl rfl
        | true =>
          refine stepBy_cons rfl ?_
          simp only [↓reduceIte, Except.map]
          cases expired : ((Number.int grant.expiresAt).add policy.skew).le (.int now) with
          | true => exact stepBy_error rfl rfl rfl
          | false =>
            refine stepBy_cons rfl ?_
            by_cases code : grant.kind = .authorizationCode
            · simp only [code, ne_eq, not_true_eq_false, ↓reduceIte]
              exact stepBy_matchCode encodes
            · simp only [code, ne_eq, not_false_eq_true, ↓reduceIte]
              exact stepBy_nil ()
  · rw [if_pos fun same => client same.symm]
    exact stepBy_error (by simpa using client) rfl rfl

end Encodable

theorem isServerError_of_reserve {store : ReservationStore} {now ttl : Number} {id : String}
    {cause : Failure} (failed : (store.reserve now id ttl).1 = .error cause) :
    IsServerError cause := by
  cases store with
  | down outage =>
    cases failed
    cases outage <;> rfl
  | memory entries =>
    simp only [ReservationStore.reserve, ReservationStore.reserveEntry] at failed
    split at failed
    · cases failed
    · split at failed <;> cases failed
      rfl
  | table rows =>
    cases whole : now.whole with
    | error found =>
      simp only [ReservationStore.reserve, whole] at failed
      cases failed
      rfl
    | ok seconds =>
      cases rows with
      | none =>
        simp only [ReservationStore.reserve, whole] at failed
        cases failed
        rfl
      | some rows =>
        simp only [ReservationStore.reserve, whole, ReservationStore.reserveRow] at failed
        split at failed
        · cases failed
          rfl
        · split at failed
          · cases failed
            rfl
          · split at failed <;> cases failed

theorem stepBy_reserve (policy : Policy) (readings : Readings) (grant : Token)
    (store : ReservationStore) :
    StepBy (reserve policy readings grant store).1 (reservationChecks policy readings grant store)
      .identityVerified := by
  have single : singleUse policy grant.kind = true ↔
      grant.kind = .authorizationCode ∨ policy.rotation = .rotateAndRevoke := by
    simp [singleUse, Policy.rotates]
  unfold reserve reservationChecks
  by_cases once : singleUse policy grant.kind = true
  · rw [if_pos once, if_pos (single.mp once)]
    cases spans : reservationSpan policy readings.now grant with
    | error cause =>
      have silent : storeAnswer? policy readings grant store = none := by
        rw [storeAnswer?, spans]
        rfl
      rw [silent]
      exact stepBy_error rfl rfl rfl
    | ok span =>
      have answers : storeAnswer? policy readings grant store =
          (store.reserve readings.store grant.id span).1.toOption := by
        rw [storeAnswer?, spans]
        rfl
      have failure (cause : Failure) :
          (store.reserve readings.store grant.id span).1 = .error cause → IsServerError cause :=
        isServerError_of_reserve
      rw [answers]
      dsimp only
      generalize store.reserve readings.store grant.id span = reservation at failure ⊢
      obtain ⟨answer, last⟩ := reservation
      cases answer with
      | error cause => exact stepBy_error rfl (failure cause rfl) rfl
      | ok answer =>
        refine stepBy_cons rfl ?_
        cases answer with
        | reserved => exact stepBy_cons rfl (stepBy_nil ())
        | alreadyPresent => exact stepBy_error rfl rfl rfl
  · rw [if_neg once, if_neg (mt single.mpr once)]
    exact stepBy_nil ()

/-- A request's scope is admitted exactly when it stays within the scope of the grant. -/
theorem narrow_eq (request : GrantRequest) (grant : Token) :
    (asksWithin request grant = true ∧ ∃ scope, grant.narrow (scopeRequest request) = .ok scope) ∨
      (asksWithin request grant = false ∧
        ∃ extra, grant.narrow (scopeRequest request) = .error (.fault (.scope extra))) := by
  unfold scopeRequest asksWithin
  cases request.scope with
  | none => exact Or.inl ⟨rfl, _, rfl⟩
  | some scope =>
    by_cases blank : Text.trim scope = ""
    · simp only [blank, ↓reduceIte]
      exact Or.inl ⟨by simp [blank], _, rfl⟩
    · simp only [blank, ↓reduceIte, Token.narrow, Token.wanted?]
      cases within : (Scope.items scope).all fun item => grant.scope.contains item with
      | true =>
        have none_extra : ((Scope.items scope).filter fun item =>
            !grant.scope.contains item).isEmpty = true := by
          rw [List.isEmpty_iff, List.filter_eq_nil_iff]
          intro item member
          simpa using List.all_eq_true.mp within item member
        rw [if_pos none_extra]
        exact Or.inl ⟨by simp only [Option.all_some, blank, decide_false, within, Bool.or_true],
          _, rfl⟩
      | false =>
        have some_extra : ¬ ((Scope.items scope).filter fun item =>
            !grant.scope.contains item).isEmpty = true := by
          rw [List.isEmpty_iff, List.filter_eq_nil_iff]
          intro none_extra
          have all : ((Scope.items scope).all fun item => grant.scope.contains item) = true :=
            List.all_eq_true.mpr fun item member => by simpa using none_extra item member
          rw [within] at all
          cases all
        rw [if_neg some_extra]
        exact Or.inr ⟨by simp only [Option.all_some, blank, decide_false, within, Bool.or_false],
          _, rfl⟩

/-- Where the checks for issuing hold, issuing fails only by the server's doing; otherwise it fails
for the first of them. -/
theorem issue_decided (context : Context) (request : GrantRequest) (now : ℤ) (grant : Token)
    {supply last : Supply} {result : Except Failure Issued}
    (ran : (issue context request now grant).run supply = (result, last)) :
    StepBy result (issueChecks context.policy request now grant) .replayReserved ∨
      (firstFailing (issueChecks context.policy request now grant) = none ∧
        ∃ cause, result = .error cause ∧ cause.code = .serverError) := by
  unfold issueChecks
  cases added : (Number.int now).addable context.policy.accessTtl.amount with
  | false =>
    have life : lifetime now context.policy.accessTtl =
        .error (.defect (.arithmetic .beyondDoubles)) := by
      simp only [lifetime, expiryAfter, Number.sum, added, Bool.false_eq_true, ↓reduceIte]
      rfl
    rw [issue_eq, derive_eq, Draw.run_bind, Draw.run_bind, Draw.run_ofResult, life] at ran
    cases ran
    exact Or.inl (stepBy_error rfl rfl rfl)
  | true =>
    have life : lifetime now context.policy.accessTtl = .ok ⟨.number (.int now),
        .number ((Number.int now).add context.policy.accessTtl.amount)⟩ := by
      simp only [lifetime, expiryAfter, Number.sum, added, ↓reduceIte]
      rfl
    rcases narrow_eq request grant with ⟨within, scope, narrowed⟩ | ⟨beyond, extra, refused⟩
    · have passes : firstFailing
          [⟨true, .serverError, .replayReserved⟩,
            ⟨asksWithin request grant, .invalidScope, .replayReserved⟩] = none := by
        rw [within]
        rfl
      cases result with
      | ok issued => exact Or.inl passes
      | error cause =>
        exact Or.inr ⟨passes, cause, rfl, failsWith_issue narrowed supply cause last ran⟩
    · rw [issue_eq, derive_eq, Draw.run_bind, Draw.run_bind, Draw.run_ofResult, life] at ran
      dsimp only at ran
      rw [Token.deriveAccess, Draw.run_bind, Draw.run_bind, Draw.run_ofResult, refused] at ran
      cases ran
      refine Or.inl (stepBy_cons rfl (stepBy_error beyond rfl rfl))

/-! ## The whole decision -/

theorem decidedBy_refused {cause : Failure} {after : Stage} {id : Option String}
    {first : List Check} (rest : List Check)
    (step : StepBy (.error cause : Except Failure Unit) first after) :
    DecidedBy (.refused ⟨cause, after, id⟩) (first ++ rest) := by
  obtain ⟨check, found, code, stage⟩ := step
  unfold DecidedBy
  rw [firstFailing_append, found]
  exact ⟨_, rfl, code, stage⟩

theorem decidedBy_append {answer : Answer} {first rest : List Check}
    (passes : firstFailing first = none) (decided : DecidedBy answer rest) :
    DecidedBy answer (first ++ rest) := by
  unfold DecidedBy at decided ⊢
  rw [firstFailing_append, passes, Option.none_or]
  exact decided

section Stored

variable {grant : Token} (formed : grant.WellFormed)

theorem identify_stored (policy : Policy) (request : GrantRequest) (now : ℤ) :
    identify policy request now (grant.stored formed) = identify policy request now grant := by
  simp only [identify, Token.clientId_stored, Token.issuedAt_stored, Token.isExpired,
    Token.expiresAt_stored, Token.kind_stored, matchCode, Token.redirectUri_stored,
    Token.challenge?_stored]

theorem storeAnswer?_stored (policy : Policy) (readings : Readings) (store : ReservationStore) :
    storeAnswer? policy readings (grant.stored formed) store =
      storeAnswer? policy readings grant store := by
  simp only [storeAnswer?, reservationSpan, Token.expiresAt_stored, Token.id_stored]

theorem reservationChecks_stored (policy : Policy) (readings : Readings)
    (store : ReservationStore) :
    reservationChecks policy readings (grant.stored formed) store =
      reservationChecks policy readings grant store := by
  simp only [reservationChecks, storeAnswer?_stored, Token.kind_stored]

theorem issueChecks_stored (policy : Policy) (request : GrantRequest) (now : ℤ) :
    issueChecks policy request now (grant.stored formed) =
      issueChecks policy request now grant := by
  simp only [issueChecks, asksWithin, Token.scope_stored]

end Stored

/-- Reserving and issuing, decided by their checks. -/
theorem redeem_decided (context : Context) (readings : Readings) (request : GrantRequest)
    (grant : Token) (state : ServiceState) :
    DecidedBy (redeem context readings request grant state).1
      (reservationChecks context.policy readings grant state.store ++
        issueChecks context.policy request readings.now grant) := by
  have reserves := stepBy_reserve context.policy readings grant state.store
  unfold redeem
  cases reserved : reserve context.policy readings grant state.store with
  | mk outcome store =>
  rw [reserved] at reserves
  cases outcome with
  | error cause => exact decidedBy_refused _ reserves
  | ok done =>
    refine decidedBy_append reserves ?_
    dsimp only
    cases ran : (issue context request readings.now grant).run state.supply with
    | mk result supply =>
      have decided := issue_decided context request readings.now grant ran
      cases result with
      | ok issued =>
        rcases decided with step | ⟨-, cause, equal, -⟩
        · unfold DecidedBy
          rw [show firstFailing _ = none from step]
          exact Or.inl ⟨issued, rfl⟩
        · cases equal
      | error cause =>
        rcases decided with step | ⟨passes, found, equal, code⟩
        · have decided : DecidedBy (.refused ⟨cause, .replayReserved, some grant.id⟩) (_ ++ []) :=
            decidedBy_refused [] step
          rwa [List.append_nil] at decided
        · cases equal
          unfold DecidedBy
          rw [passes]
          exact Or.inr ⟨_, rfl, code, rfl⟩

/-- **The decision of the token endpoint.** The first check that fails gives the error code and the
stage of the refusal; tokens are granted only where no check fails, and kept back there only by the
server's own doing. -/
theorem handle_decided (context : Context) (readings : Readings) (request : GrantRequest)
    (state : ServiceState) (opened : Option Token)
    (presents : Presents context readings request opened)
    (encodes : ∀ grant, opened = some grant → EncodesVerifier request grant) :
    DecidedBy (handle context readings request state).1
      (checks context readings request state.store opened) := by
  have named := stepBy_presented request
  unfold handle accept checks
  cases read : presented request with
  | error cause =>
    rw [read] at named
    exact decidedBy_refused _ named
  | ok grantRead =>
    obtain ⟨kind, text⟩ := grantRead
    obtain ⟨kindEq, textEq⟩ := presented_eq_ok read
    rw [read] at named
    refine decidedBy_append named ?_
    dsimp only
    cases opened with
    | none =>
      have closed : ∃ cause, Token.ofSealed context.ring context.sealSkew readings.sealing kind
          text = .error (.fault (.sealing cause)) := by
        unfold Token.ofSealed
        cases result : context.ring.unwrap context.sealSkew readings.sealing text with
        | ok bytes => exact absurd result (presents text textEq bytes)
        | error cause => exact ⟨cause, rfl⟩
      obtain ⟨cause, closed⟩ := closed
      rw [closed]
      have failing : StepBy (.error (.fault (.sealing cause)) : Except Failure Unit)
          [⟨false, .invalidGrant, .grantParsed⟩] .grantParsed := stepBy_error rfl rfl rfl
      exact decidedBy_refused [] failing
    | some grant =>
      obtain ⟨formed, opens⟩ := presents
      obtain ⟨plain, written, unwrapped⟩ := opens text textEq
      have read : Token.ofSealed context.ring context.sealSkew readings.sealing kind text =
          Token.readBytes kind (Utf8.encode plain) := by
        rw [Token.ofSealed, unwrapped]
      dsimp only
      rw [read, grantChecks, kindEq, List.append_assoc, List.append_assoc]
      by_cases same : grant.kind = kind
      · subst same
        rw [Token.readBytes_serialize formed written]
        have kinds : firstFailing
            [⟨some grant.kind = some grant.kind, .invalidGrant, .grantParsed⟩] = none := by
          simp [firstFailing_cons]
        refine decidedBy_append kinds ?_
        dsimp only
        rw [identify_stored]
        have identified : StepBy (identify context.policy request readings.now grant) _ _ :=
          stepBy_identify (encodes grant rfl)
        cases result : identify context.policy request readings.now grant with
        | error cause =>
          rw [result] at identified
          exact decidedBy_refused _ identified
        | ok done =>
          rw [result] at identified
          refine decidedBy_append identified ?_
          have redeemed := redeem_decided context readings request (grant.stored formed) state
          rwa [reservationChecks_stored, issueChecks_stored] at redeemed
      · obtain ⟨found, refused⟩ := Token.readBytes_serialize_of_ne formed written same
        rw [refused]
        exact decidedBy_refused _ (stepBy_error (by simpa using fun equal => same equal.symm)
          rfl rfl)

/-- A request of the client that presents a code. -/
def codeGrant (text : String) : GrantRequest where
  grantType := some codeGrantType
  clientId := some "app"
  code := some text
  refreshToken := none
  redirectUri := some "https://app.example/cb"
  codeVerifier := none
  scope := none
  publicClient := false

theorem presented_codeGrant {text : String} (given : text ≠ "") :
    presented (codeGrant text) = .ok (.authorizationCode, text) := by
  have filtered : given? (some text) = some text := Option.filter_eq_some_iff.mpr
    ⟨rfl, decide_eq_true given⟩
  unfold presented codeGrant
  dsimp only
  rw [filtered]
  rfl

theorem encodesVerifier_codeGrant (text : String) (grant : Token) :
    EncodesVerifier (codeGrant text) grant :=
  fun _ _ _ sent => nomatch sent

/-- A code that was issued is presented as long as its envelope is not expired. -/
theorem presents_code {text : String} {context : Context} {readings : Readings}
    (issued : (issueCode Sample.context 1700000000 Sample.codeRequest Sample.state).result =
      .ok text) (ring : context.ring = Sample.context.ring)
    (alive : (Number.add 1700000300 context.sealSkew).le readings.sealing = false) :
    Presents context readings (codeGrant text) (some Sample.code) := by
  obtain ⟨plain, written, opens⟩ := Sample.unwrap_code issued
  refine ⟨Sample.wellFormed_code, fun found same => ⟨plain, written, ?_⟩⟩
  cases same
  rw [ring]
  exact opens _ _ alive

/-- A code that was issued is decided by its checks ten seconds later. -/
theorem handle_decided_sample : ∃ text,
    Presents Sample.context ⟨1700000010, 1700000010, 1700000010⟩ (codeGrant text)
        (some Sample.code) ∧
      EncodesVerifier (codeGrant text) Sample.code ∧
      DecidedBy (handle Sample.context ⟨1700000010, 1700000010, 1700000010⟩ (codeGrant text)
          Sample.state).1
        (checks Sample.context ⟨1700000010, 1700000010, 1700000010⟩ (codeGrant text)
          Sample.state.store (some Sample.code)) := by
  obtain ⟨text, issued⟩ := Sample.exists_issueCode
  have presents : Presents Sample.context ⟨1700000010, 1700000010, 1700000010⟩ (codeGrant text)
      (some Sample.code) := presents_code issued rfl rfl
  exact ⟨text, presents, encodesVerifier_codeGrant text _,
    handle_decided _ _ _ _ _ presents fun grant _ => encodesVerifier_codeGrant text grant⟩

/-! ## Times without a sum -/

/-- A context that tolerates a difference of `0.0` seconds, which is a double, and whose envelopes
stay open for long. -/
def doubleContext : Context :=
  { Sample.context with
    policy := { Sample.policy with
      skewSpan := .seconds (.double (.zero false))
      skew_nonneg := rfl }
    sealSkew := .int (2 ^ 1025) }

/-- A clock that shows the first whole second that no double comes near. -/
def farReadings : Readings := ⟨2 ^ 1024, .int (2 ^ 1024), .int (2 ^ 1024)⟩

variable {text : String}

/-- Of the checks that a request is to blame for, the first that fails is the one of the time. -/
theorem firstFailing_farReadings (given : text ≠ "") :
    firstFailing ((checks doubleContext farReadings (codeGrant text) Sample.state.store
      (some Sample.code)).filter fun check => check.code ≠ .serverError) =
        some ⟨false, .invalidGrant, .tokenUnwrapped⟩ := by
  have isGiven_text : isGiven (some text) = true := decide_eq_true given
  have kind : grantKind? (codeGrant text) = some .authorizationCode := rfl
  have presented : presentedText? (codeGrant text) = some text := rfl
  have client : (codeGrant text).clientId = some Sample.code.clientId := rfl
  have begun : ((Number.int farReadings.now).add doubleContext.policy.skew).lt
      (.int Sample.code.issuedAt) = false := by decide +kernel
  have late : ((Number.int Sample.code.expiresAt).add doubleContext.policy.skew).le
      (.int farReadings.now) = true := by decide +kernel
  have named : (requestChecks (codeGrant text)).filter (fun check => check.code ≠ .serverError) =
      requestChecks (codeGrant text) := rfl
  have passes : firstFailing (requestChecks (codeGrant text)) = none := by
    rw [requestChecks, kind, presented]
    simp only [firstFailing_cons, isGiven_text]
    rfl
  rw [checks, List.filter_append, firstFailing_append, named, passes, Option.none_or]
  dsimp only [grantChecks, identityChecks]
  rw [kind, client, begun, late]
  rfl

theorem identify_farReadings :
    identify doubleContext.policy (codeGrant text) farReadings.now Sample.readCode =
      .error (.defect (.arithmetic .beyondDoubles)) := by
  have beyond : (Number.int farReadings.now).addable doubleContext.policy.skew = false := by
    decide +kernel
  rw [Sample.readCode, identify_stored]
  unfold identify Number.sum
  rw [beyond]
  rfl

/-- **A code whose time is up may meet a failure of the server instead.** Of the checks that a
request is to blame for, the first that fails is the one of the time, an invalid grant; but the sum
that it takes does not exist. -/
theorem server_error_beyond_doubles : ∃ text,
    Presents doubleContext farReadings (codeGrant text) (some Sample.code) ∧
    EncodesVerifier (codeGrant text) Sample.code ∧
    firstFailing ((checks doubleContext farReadings (codeGrant text) Sample.state.store
      (some Sample.code)).filter fun check => check.code ≠ .serverError) =
        some ⟨false, .invalidGrant, .tokenUnwrapped⟩ ∧
    ∃ refusal, (handle doubleContext farReadings (codeGrant text) Sample.state).1 =
      .refused refusal ∧ refusal.code = .serverError := by
  obtain ⟨text, issued⟩ := Sample.exists_issueCode
  have minted : (mintCode Sample.context 1700000000 Sample.codeRequest).run Sample.state.supply =
      (.ok Sample.code, ⟨1, 0⟩) := Sample.run_mintCode
  have alive : (Number.add 1700000300 doubleContext.sealSkew).le farReadings.sealing = false := by
    decide +kernel
  have opened : Token.ofSealed doubleContext.ring doubleContext.sealSkew farReadings.sealing
      .authorizationCode text = .ok Sample.readCode :=
    ofSealed_of_issueCode minted Sample.exact_random Sample.wellFormed_code issued alive
  have given := Sample.text_ne_of_issueCode issued
  refine ⟨text, presents_code issued rfl alive, encodesVerifier_codeGrant text _,
    firstFailing_farReadings given, ⟨.defect (.arithmetic .beyondDoubles), .tokenUnwrapped,
      some Sample.readCode.id⟩, ?_, rfl⟩
  unfold handle accept
  rw [presented_codeGrant given]
  dsimp only
  rw [opened]
  dsimp only
  rw [identify_farReadings]

end SealedGrant.Grant
