import Mathlib
import SealedGrant.Proofs.Grant.Inheritance
import SealedGrant.Proofs.Grant.Redemption
import SealedGrant.Proofs.Token.Delivery

/-! # Grants that differ in what they deliver

Two codes that agree but for attributes for one consumer alone are redeemed alike: they are
accepted, reserved and issued for in the same way, and what is issued is the same but for what that
consumer gets (`SealedGrant.Grant.handle_alike`).
-/

namespace SealedGrant

open Token (AgreeBut SealedAlike)

/-- **What is issued is alike**: the same but for the access token and the ID token, which are
related. -/
structure Issued.Alike (closed : String → String → Prop)
    (signed : Option String → Option String → Prop) (left right : Issued) : Prop where
  grantId : left.grantId = right.grantId
  accessToken : closed left.accessToken right.accessToken
  accessId : left.accessId = right.accessId
  expiresIn : left.expiresIn = right.expiresIn
  scope : left.scope = right.scope
  refresh : left.refresh = right.refresh
  idToken : signed left.idToken right.idToken

/-- **Two answers agree**: they are one refusal, or what they grant is related. -/
inductive SameAnswer (related : Issued → Issued → Prop) : Answer → Answer → Prop where
  | refused (refusal : Refusal) : SameAnswer related (.refused refusal) (.refused refusal)
  | granted {left right : Issued} (both : related left right) :
      SameAnswer related (.granted left) (.granted right)

/-- Two texts hold tokens that agree but for the attributes for UserInfo alone. -/
def Context.SealsAlike (context : Context) (leftText rightText : String) : Prop :=
  ∃ left right, context.Seals leftText left ∧ context.Seals rightText right ∧
    AgreeBut .deliveryUi left right

/-- What is issued alike is told alike, when an ID token is signed for both or for neither. -/
theorem Issued.Alike.listed_eq {closed : String → String → Prop}
    {signed : Option String → Option String → Prop} {left right : Issued}
    (alike : Issued.Alike closed signed left right)
    (presence : left.idToken.isSome = right.idToken.isSome) : left.listed = right.listed := by
  have presented (idToken : Option String) : (idToken.toList.map fun _ => "id_token") =
      if idToken.isSome then ["id_token"] else [] := by
    cases idToken <;> rfl
  rw [Issued.listed, alike.accessId, alike.refresh, presented, presence, ← presented]
  rfl

namespace SameAnswer

variable {related : Issued → Issued → Prop} {left right : Answer}

theorem mono {wider : Issued → Issued → Prop} (same : SameAnswer related left right)
    (implies : ∀ first second, left = .granted first → right = .granted second →
      related first second → wider first second) : SameAnswer wider left right := by
  cases same with
  | refused refusal => exact .refused refusal
  | granted both => exact .granted (implies _ _ rfl rfl both)

/-- Answers that agree are told the log alike. -/
theorem logEntry_eq (same : SameAnswer related left right)
    (alike : ∀ first second, related first second → first.grantId = second.grantId ∧
      first.listed = second.listed) (request : GrantRequest) :
    left.logEntry request = right.logEntry request := by
  cases same with
  | refused refusal => rfl
  | granted both =>
    obtain ⟨grantId, listed⟩ := alike _ _ both
    rw [Answer.logEntry, Answer.logEntry, grantId, listed]

end SameAnswer

namespace IdToken

/-- **The attributes for UserInfo alone do not reach the ID token.** -/
theorem assemble_eq {left right : Token} (agree : AgreeBut .deliveryUi left right)
    (frame : Frame) : assemble left frame = assemble right frame := by
  rw [assemble, attributes, agree.delivered_eq (by decide), agree.delivered_eq (by decide),
    agree.authTime_eq .deliveryUi, agree.nonce?_eq .deliveryUi, agree.acr?_eq .deliveryUi]
  rfl

theorem assemble_alike {left right : Token} (frame : Frame) :
    SameResult (fun _ _ => True) (assemble left frame) (assemble right frame) := by
  unfold assemble
  cases frame.subject.isEmpty with
  | true => exact .error _
  | false => exact .ok trivial

end IdToken

namespace Grant

variable {context : Context} {policy : Policy} {readings : Readings} {request : GrantRequest}
  {state : ServiceState} {now : ℤ} {hidden : Claim} {left right : Token}
  {closed : String → String → Prop} {signed : Option String → Option String → Prop}

section Agree

variable (agree : AgreeBut hidden left right) (lone : hidden.IsPrivate)

include agree lone

theorem reserve_eq (store : ReservationStore) :
    reserve policy readings left store = reserve policy readings right store := by
  unfold reserve reservationSpan
  rw [agree.kind_eq lone, agree.id_eq lone, agree.expiresAt_eq lone]

theorem matchCode_eq : matchCode policy request left = matchCode policy request right := by
  unfold matchCode
  rw [agree.redirectUri_eq lone, agree.challenge?_eq lone]

theorem identify_eq :
    identify policy request now left = identify policy request now right := by
  have expired (skew : Number) :
      left.isExpired (.int now) skew = right.isExpired (.int now) skew := by
    rw [Token.isExpired_eq, Token.isExpired_eq, agree.expiresAt_eq lone]
  unfold identify
  rw [agree.clientId_eq lone, agree.issuedAt_eq lone, expired, agree.kind_eq lone,
    matchCode_eq agree lone]

theorem refreshOf_eq : refreshOf context now left = refreshOf context now right := by
  unfold refreshOf
  rw [agree.kind_eq lone]
  simp only [agree.deriveRefresh_eq lone]

end Agree

/-! ## Issuing alike -/

/-- What is issued holds an access token and, if any, a refresh token. -/
theorem exists_seals_of_issue (exact : RandomSource.Exact context.random) {grant : Token}
    {supply last : Supply} {tokens : Issued}
    (ran : (issue context request now grant).run supply = (.ok tokens, last)) :
    ∃ access refresh, context.Seals tokens.accessToken access ∧
      Option.Rel (fun closed token => context.Seals closed.1 token) tokens.refresh refresh := by
  obtain ⟨access, refresh, issues⟩ := issues_of_issue exact ran
  obtain ⟨accessFormed, accessSeals⟩ := issues.accessCloses.exists_seals
  rcases Context.closes_cases issues.refreshCloses with
      ⟨noText, -⟩ | ⟨closed, refresh, refreshFormed, someText, -, refreshSeals⟩
  · rw [noText]
    exact ⟨_, none, accessSeals, .none⟩
  · rw [someText]
    exact ⟨_, some _, accessSeals, .some refreshSeals⟩

section Issue

variable {access : Token → Token → Prop}

/-- Two grants of one kind sign alike beside access tokens of one scope. -/
theorem signedOf_alike {first second : Token} (kind : left.kind = right.kind)
    (scope : first.scopeText = second.scopeText) (unsigned : signed none none)
    (signs : SameResult (fun a b => signed (some a) (some b)) (idToken context now left)
      (idToken context now right)) :
    Draw.Alike signed (signedOf context now left first) (signedOf context now right second) := by
  have yields : yieldsIdToken left first = yieldsIdToken right second := by
    rw [yieldsIdToken, Token.scope, kind, scope]
    rfl
  unfold signedOf
  rw [yields]
  cases yieldsIdToken right second with
  | false => exact Draw.alike_pure unsigned
  | true => exact Draw.alike_map (Draw.alike_ofResult signs) fun _ _ both => both

/-- **Issuing alike**: two grants that agree but for a private member, derive access tokens alike
that are sealed alike, and sign alike, are issued for alike. -/
theorem issue_alike (agree : AgreeBut hidden left right) (lone : hidden.IsPrivate)
    (derives : ∀ life, Draw.Alike access
      (left.deriveAccess (scopeRequest request) life (some context.ids) true)
      (right.deriveAccess (scopeRequest request) life (some context.ids) true))
    (seals : ∀ first second, access first second → first.id = second.id ∧
      first.scopeText = second.scopeText ∧
        Draw.Alike closed (first.sealed context) (second.sealed context))
    (unsigned : signed none none)
    (signs : SameResult (fun a b => signed (some a) (some b)) (idToken context now left)
      (idToken context now right)) :
    Draw.Alike (Issued.Alike closed signed) (issue context request now left)
      (issue context request now right) := by
  have derived : Draw.Alike (fun first second => access first.access second.access ∧
      first.refresh = second.refresh ∧ signed first.idToken second.idToken)
      (derive context request now left) (derive context request now right) := by
    rw [derive_eq, derive_eq, refreshOf_eq agree lone]
    refine Draw.alike_bind_self fun _ life _ _ => Draw.alike_bind (derives life) ?_
    intro first second both
    refine Draw.alike_bind_self fun _ refresh _ _ => ?_
    obtain ⟨-, scope, -⟩ := seals first second both
    refine Draw.alike_bind (signedOf_alike (agree.kind_eq lone) scope unsigned signs) ?_
    intro firstSigned secondSigned same
    exact Draw.alike_pure ⟨both, rfl, same⟩
  rw [issue_eq, issue_eq]
  refine Draw.alike_bind derived ?_
  rintro ⟨first, refresh, firstSigned⟩ ⟨second, _, secondSigned⟩ ⟨both, rfl, same⟩
  obtain ⟨id, scope, sealing⟩ := seals first second both
  refine Draw.alike_bind sealing fun firstText secondText texts => ?_
  refine Draw.alike_bind_self fun _ refreshed _ _ => Draw.alike_pure ?_
  exact ⟨agree.id_eq lone, texts, id, rfl, scope, rfl, same⟩

/-- Whether an ID token is signed does not depend on the attributes that it holds. -/
theorem idToken_alike (agree : AgreeBut .deliveryId left right) :
    SameResult (fun _ _ => True) (idToken context now left) (idToken context now right) := by
  unfold idToken
  rw [agree.clientId_eq .deliveryId, agree.subject_eq .deliveryId]
  refine SameResult.bind (SameResult.of_eq (fun _ => rfl) rfl) ?_
  rintro expiry _ rfl
  refine SameResult.bind ((IdToken.assemble_alike _).mapError _) fun first second _ => ?_
  cases Json.isWritable expiry with
  | true => exact .ok trivial
  | false => exact .error _

/-- **Codes that differ in the attributes for the ID token alone** are issued for alike: all but the
ID token is the same. -/
theorem issue_alike_deliveryId (agree : AgreeBut .deliveryId left right) :
    Draw.Alike (Issued.Alike Eq fun first second => first.isSome = second.isSome)
      (issue context request now left) (issue context request now right) := by
  have derives (life : Token.Lifetime) : Draw.Alike Eq
      (left.deriveAccess (scopeRequest request) life (some context.ids) true)
      (right.deriveAccess (scopeRequest request) life (some context.ids) true) := by
    rw [agree.deriveAccess_eq]
    exact Draw.alike_of_eq (fun _ => rfl) rfl
  refine issue_alike agree .deliveryId derives ?_ rfl
    ((idToken_alike agree).mono fun _ _ _ => rfl)
  rintro first _ rfl
  exact ⟨rfl, rfl, Draw.alike_of_eq (fun _ => rfl) rfl⟩

/-- Tokens that agree but for the attributes for UserInfo are sealed alike and read back so. -/
theorem sealed_alike_deliveryUi (exact : RandomSource.Exact context.random)
    (agree : AgreeBut .deliveryUi left right) (leftFormed : left.WellFormed)
    (rightFormed : right.WellFormed) (finite : (Json.object left.claims.members).isFinite =
      (Json.object right.claims.members).isFinite) :
    Draw.Alike context.SealsAlike (left.sealed context) (right.sealed context) := by
  refine (Token.sealed_alike (agree.expiresAt_eq .deliveryUi) leftFormed rightFormed finite
    context).mono_of_run ?_
  intro supply leftText rightText last leftRan rightRan _
  exact ⟨_, _, Context.seals_of_sealed exact leftFormed leftRan,
    Context.seals_of_sealed exact rightFormed rightRan, agree.stored leftFormed rightFormed⟩

/-- **Codes that differ in the attributes for UserInfo alone** are issued for alike: all but the
access token is the same, and the access tokens differ in those attributes alone. -/
theorem issue_alike_deliveryUi (exact : RandomSource.Exact context.random)
    (agree : AgreeBut .deliveryUi left right) (leftFormed : left.WellFormed)
    (rightFormed : right.WellFormed)
    (leftFinite : (Json.object left.claims.members).isFinite = true)
    (rightFinite : (Json.object right.claims.members).isFinite = true) :
    Draw.Alike (Issued.Alike context.SealsAlike Eq) (issue context request now left)
      (issue context request now right) := by
  have derives (life : Token.Lifetime) := (agree.deriveAccess_alike leftFormed rightFormed
    leftFinite rightFinite (scopeRequest request) life (some context.ids)).mono_of_run
      fun _ _ _ _ leftRan rightRan both => And.intro both
        (And.intro (Token.IsMade.access _ _ _ _ _ _ _ leftRan).wellFormed
          (Token.IsMade.access _ _ _ _ _ _ _ rightRan).wellFormed)
  refine issue_alike agree .deliveryUi derives ?_ rfl ?_
  · rintro first second ⟨⟨shared, finite⟩, firstFormed, secondFormed⟩
    exact ⟨shared.id_eq .deliveryUi, shared.scopeText_eq .deliveryUi,
      sealed_alike_deliveryUi exact shared firstFormed secondFormed finite⟩
  · have same : idToken context now left = idToken context now right := by
      simp only [idToken, IdToken.assemble_eq agree, agree.clientId_eq .deliveryUi,
        agree.subject_eq .deliveryUi]
    exact (SameResult.of_eq (fun _ => rfl) same).mono fun _ _ => congrArg some

/-- One grant is issued for like itself. -/
theorem issue_alike_self (exact : RandomSource.Exact context.random) (grant : Token) :
    Draw.Alike (Issued.Alike context.SealsAlike Eq) (issue context request now grant)
      (issue context request now grant) := by
  refine Draw.alike_self fun supply tokens last ran => ?_
  obtain ⟨access, -, seals, -⟩ := exists_seals_of_issue exact ran
  exact ⟨rfl, ⟨access, access, seals, seals, fun _ _ => rfl⟩, rfl, rfl, rfl, rfl, rfl⟩

end Issue

/-! ## Redeeming alike -/

section Redeem

variable {related : Issued → Issued → Prop}

/-- **Redeeming alike**: two grants with one id that are reserved in the same way and issued for
alike get answers that agree, and leave one state. -/
theorem redeem_alike (id : left.id = right.id)
    (reserves : reserve context.policy readings left state.store =
      reserve context.policy readings right state.store)
    (issues : Draw.Alike related (issue context request readings.now left)
      (issue context request readings.now right)) :
    SameAnswer related (redeem context readings request left state).1
        (redeem context readings request right state).1 ∧
      (redeem context readings request left state).2 =
        (redeem context readings request right state).2 := by
  unfold redeem
  rw [reserves, id]
  cases reserve context.policy readings right state.store with
  | mk outcome store =>
    cases outcome with
    | error cause => exact ⟨.refused _, rfl⟩
    | ok done =>
      obtain ⟨results, supplies⟩ := issues state.supply
      dsimp only
      generalize (issue context request readings.now left).run state.supply = leftRan
        at results supplies ⊢
      generalize (issue context request readings.now right).run state.supply = rightRan
        at results supplies ⊢
      obtain ⟨leftResult, supply⟩ := leftRan
      obtain ⟨rightResult, _⟩ := rightRan
      subst supplies
      cases results with
      | error cause => exact ⟨.refused _, rfl⟩
      | ok both => exact ⟨.granted both, rfl⟩

variable {ring : KeyRing} {secret : Bytes} {leftText rightText : String}

/-- Requests that differ in the code alone present the codes, or the same refresh token, or
nothing. -/
theorem presented_cases (request : GrantRequest) (leftGiven : leftText ≠ "")
    (rightGiven : rightText ≠ "") :
    presented { request with code := some leftText } =
        presented { request with code := some rightText } ∨
      presented { request with code := some leftText } = .ok (.authorizationCode, leftText) ∧
        presented { request with code := some rightText } =
          .ok (.authorizationCode, rightText) := by
  have given {text : String} (present : text ≠ "") : given? (some text) = some text :=
    Option.filter_eq_some_iff.mpr ⟨rfl, decide_eq_true present⟩
  unfold presented
  dsimp only
  rw [given leftGiven, given rightGiven]
  cases given? request.grantType with
  | none => exact Or.inl rfl
  | some grantType =>
    dsimp only
    by_cases isCode : grantType = codeGrantType
    · rw [if_pos isCode, if_pos isCode]
      cases given? request.redirectUri with
      | none => exact Or.inl rfl
      | some redirectUri => exact Or.inr ⟨rfl, rfl⟩
    · rw [if_neg isCode, if_neg isCode]
      exact Or.inl rfl

variable (codes : SealedAlike hidden ring left right leftText rightText)
  (lone : hidden.IsPrivate) (binds : ring.secret? ring.current.id = some secret)
  (authentic : context.ring.Authentic ring.current.id secret [leftText, rightText])

include codes lone binds authentic

/-- **Accepting alike**: requests that differ in the code alone have one grant accepted, or the two
codes, or neither for one cause. -/
theorem accept_alike (readings : Readings) (request : GrantRequest) :
    SameResult
      (fun first second => first = second ∨
        first = left.stored codes.leftFormed ∧ second = right.stored codes.rightFormed)
      (accept context readings { request with code := some leftText })
      (accept context readings { request with code := some rightText }) := by
  have identifies (text : String) :
      identify context.policy { request with code := some text } =
        identify context.policy request := rfl
  unfold accept
  rw [identifies, identifies]
  rcases presented_cases request codes.leftSealed.text_ne codes.rightSealed.text_ne with
      same | ⟨first, second⟩
  · -- a refresh token is presented, or nothing that could be a grant
    rw [same]
    refine SameResult.of_eq ?_ rfl
    exact fun _ => Or.inl rfl
  · have agree := codes.agree.stored codes.leftFormed codes.rightFormed
    have opened := codes.ofSealed lone binds authentic context.sealSkew readings.sealing
    rw [first, second]
    dsimp only
    generalize Token.ofSealed context.ring context.sealSkew readings.sealing .authorizationCode
      leftText = leftResult at opened ⊢
    generalize Token.ofSealed context.ring context.sealSkew readings.sealing .authorizationCode
      rightText = rightResult at opened ⊢
    cases opened with
    | error cause => exact .error _
    | ok both =>
      obtain ⟨rfl, rfl⟩ := both
      dsimp only
      rw [identify_eq agree lone, agree.id_eq lone]
      cases identify context.policy request readings.now (right.stored codes.rightFormed) with
      | error cause => exact .error _
      | ok done => exact .ok (Or.inr ⟨rfl, rfl⟩)

/-- **Redemptions of codes that differ in a private member agree** when the codes are issued for
alike. -/
theorem handle_alike (issues : ∀ now, Draw.Alike related
      (issue context request now (left.stored codes.leftFormed))
      (issue context request now (right.stored codes.rightFormed)))
    (others : ∀ now grant, Draw.Alike related (issue context request now grant)
      (issue context request now grant)) :
    SameAnswer related
        (handle context readings { request with code := some leftText } state).1
        (handle context readings { request with code := some rightText } state).1 ∧
      (handle context readings { request with code := some leftText } state).2 =
        (handle context readings { request with code := some rightText } state).2 := by
  have accepted := accept_alike codes lone binds authentic readings request
  unfold handle
  generalize accept context readings { request with code := some leftText } = leftResult
    at accepted ⊢
  generalize accept context readings { request with code := some rightText } = rightResult
    at accepted ⊢
  cases accepted with
  | error refusal => exact ⟨.refused refusal, rfl⟩
  | ok both =>
    rcases both with rfl | ⟨rfl, rfl⟩
    · exact redeem_alike rfl rfl (others readings.now _)
    · have agree := codes.agree.stored codes.leftFormed codes.rightFormed
      exact redeem_alike (agree.id_eq lone) (reserve_eq agree lone state.store)
        (issues readings.now)

end Redeem

theorem exists_seals_of_handle (exact : RandomSource.Exact context.random) {tokens : Issued}
    (granted : (handle context readings request state).1 = .granted tokens) :
    ∃ access refresh, context.Seals tokens.accessToken access ∧
      Option.Rel (fun closed token => context.Seals closed.1 token) tokens.refresh refresh := by
  obtain ⟨grant, -, -, ran⟩ := handle_eq_granted_iff.mp (Prod.ext granted rfl)
  exact exists_seals_of_issue exact ran

end Grant
end SealedGrant
