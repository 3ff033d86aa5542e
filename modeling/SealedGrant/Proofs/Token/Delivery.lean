import Mathlib
import SealedGrant.Proofs.Token.RoundTrip
import SealedGrant.Proofs.TwoRuns

/-! # Tokens that differ in what they deliver

Two tokens agree but for one member when every other known member is the same in both
(`SealedGrant.Token.AgreeBut`). If that member delivers attributes to the ID token alone or to
UserInfo alone, all else that is read of the tokens is the same. So their refresh tokens are derived
alike (`SealedGrant.Token.AgreeBut.deriveRefresh_eq`); their access tokens are derived alike and
agree but for the attributes for UserInfo (`SealedGrant.Token.AgreeBut.deriveAccess_eq`,
`SealedGrant.Token.AgreeBut.deriveAccess_alike`). And sealed under one key they open alike, whatever
the ring and the time (`SealedGrant.Token.SealedAlike.ofSealed`).
-/

namespace SealedGrant

/-- A member that delivers attributes to one consumer alone. -/
inductive Claim.IsPrivate : Claim → Prop where
  | deliveryId : IsPrivate .deliveryId
  | deliveryUi : IsPrivate .deliveryUi

namespace Claim.IsPrivate

variable {hidden : Claim} (lone : hidden.IsPrivate)

include lone

/-- Only members that hold objects are private. -/
theorem ne_of_shape {claim : Claim} (shape : claim.shape ≠ .object) : claim ≠ hidden := by
  rintro rfl
  cases lone <;> exact shape rfl

theorem not_mem_inheritedClaims : hidden ∉ Token.inheritedClaims := by
  cases lone <;> decide

end Claim.IsPrivate

namespace ClaimSet

/-- **Two claim sets agree but for one member**: every other known member is the same in both, or
absent from both. -/
def AgreeBut (hidden : Claim) (left right : ClaimSet) : Prop :=
  ∀ claim, claim ≠ hidden → left.members.get? claim.name = right.members.get? claim.name

namespace AgreeBut

variable {hidden : Claim} {left right : ClaimSet} (agree : AgreeBut hidden left right)

include agree

theorem value_eq {claim : Claim} (other : claim ≠ hidden) : left.value claim = right.value claim :=
  congrArg (·.getD .null) (agree claim other)

variable (lone : hidden.IsPrivate)

include lone

theorem text?_eq {claim : Claim} (shape : claim.shape ≠ .object) :
    left.text? claim = right.text? claim :=
  congrArg Json.string? (agree.value_eq (lone.ne_of_shape shape))

theorem time_eq {claim : Claim} (shape : claim.shape ≠ .object) :
    left.time claim = right.time claim :=
  congrArg (fun value => value.int?.getD 0) (agree.value_eq (lone.ne_of_shape shape))

omit lone in
/-- Claim sets of one kind that agree but for a member which no rule on several members reads are at
fault alike, when their members are. -/
theorem faultAs?_eq {kind : TokenKind}
    (apart : hidden ∉ [Claim.issuedAt, .expiresAt, .authTime, .redirectUri, .codeChallenge])
    (present : hidden.presence kind = .required →
      isNull (left.value hidden) = isNull (right.value hidden))
    (fits : left.members.findSome? (memberFault? kind) =
      right.members.findSome? (memberFault? kind)) : left.faultAs? kind = right.faultAs? kind := by
  have value {claim : Claim}
      (read : claim ∈ [Claim.issuedAt, .expiresAt, .authTime, .redirectUri, .codeChallenge]) :
      left.value claim = right.value claim := by
    refine agree.value_eq ?_
    rintro rfl
    exact apart read
  have missing : left.missing? kind = right.missing? kind := by
    refine congrArg (Option.map ClaimFault.missing) (List.find?_congr fun claim member => ?_)
    have required : claim.presence kind = .required :=
      of_decide_eq_true (List.mem_filter.mp member).2
    by_cases own : claim = hidden
    · subst own
      exact present required
    · rw [agree.value_eq own]
  have times : left.timeFault? = right.timeFault? := by
    rw [timeFault?, time, time, time, value (by decide), value (by decide), value (by decide)]
    rfl
  have redirect : left.redirectFault? = right.redirectFault? := by
    rw [redirectFault?, text?, value (by decide)]
    rfl
  have challenge : left.challengeFault? = right.challengeFault? := by
    rw [challengeFault?, text?, value (by decide)]
    rfl
  rw [faultAs?, faultAs?, missing, fits, times, redirect, challenge]

end AgreeBut
end ClaimSet

namespace KeyRing

/-- A ring closes any two texts alike. -/
theorem wrap_alike (ring : KeyRing) (random : RandomSource) (first second : Bytes)
    (expiry : Number) : Draw.Alike (fun _ _ => True) (ring.wrap random first expiry)
      (ring.wrap random second expiry) := by
  have closed : Draw.Alike (fun _ _ => True) (ring.wrapBytes random first expiry)
      (ring.wrapBytes random second expiry) := by
    refine Draw.alike_bind_self fun _ seconds _ _ => Draw.alike_bind_self fun _ nonce _ _ => ?_
    cases ring.secret? ring.current.id with
    | none => exact Draw.alike_self fun _ _ _ _ => trivial
    | some secret => exact Draw.alike_pure trivial
  exact Draw.alike_bind closed fun _ _ _ => Draw.alike_pure trivial

/-- No other secret opens what was sealed under a secret: whatever a ring binds the key id to, it is
that secret or opens none of the texts. -/
def Authentic (ring : KeyRing) (id : String) (secret : Bytes) (texts : List String) : Prop :=
  ∀ other, ring.secret? id = some other →
    other = secret ∨ ∀ text ∈ texts, ∀ plain expiry, ¬ Opens id other text plain expiry

/-- **A ring opens alike** two texts that were sealed under one secret until one time: both to their
plaintexts, or neither for the same cause. -/
theorem unwrap_alike {ring : KeyRing} {id leftText rightText : String}
    {secret leftPlain rightPlain : Bytes} {expiry : ℕ}
    (leftOpens : Opens id secret leftText leftPlain expiry)
    (rightOpens : Opens id secret rightText rightPlain expiry)
    (authentic : ring.Authentic id secret [leftText, rightText]) (skew now : Number) :
    SameResult (fun first second => first = leftPlain ∧ second = rightPlain)
      (ring.unwrap skew now leftText) (ring.unwrap skew now rightText) := by
  cases known : ring.secret? id with
  | none =>
    rw [unwrap_eq_unknownKey_of_opens leftOpens known,
      unwrap_eq_unknownKey_of_opens rightOpens known]
    exact .error _
  | some found =>
    cases late : (Number.add (.int expiry) skew).le now with
    | true =>
      rw [unwrap_eq_expired_of_opens leftOpens known late,
        unwrap_eq_expired_of_opens rightOpens known late]
      exact .error _
    | false =>
      -- the id may have been retired and bound to another secret since
      rcases authentic found known with rfl | closed
      · rw [unwrap_eq_ok_iff.mpr ⟨_, _, _, known, leftOpens, late⟩,
          unwrap_eq_ok_iff.mpr ⟨_, _, _, known, rightOpens, late⟩]
        exact .ok ⟨rfl, rfl⟩
      · rw [unwrap_eq_tampered_of_opens leftOpens known late fun _ =>
            closed leftText (by simp) _ _,
          unwrap_eq_tampered_of_opens rightOpens known late fun _ =>
            closed rightText (by simp) _ _]
        exact .error _

end KeyRing

namespace Token

/-- Two tokens agree but for one member. -/
def AgreeBut (hidden : Claim) (left right : Token) : Prop :=
  ClaimSet.AgreeBut hidden left.claims right.claims

namespace AgreeBut

variable {hidden : Claim} {left right : Token} (agree : AgreeBut hidden left right)

include agree

/-- What is read back of two tokens agrees as they do. -/
theorem stored (leftFormed : left.WellFormed) (rightFormed : right.WellFormed) :
    AgreeBut hidden (left.stored leftFormed) (right.stored rightFormed) := by
  intro claim other
  rw [get?_stored, get?_stored, agree claim other]

theorem value_eq {claim : Claim} (other : claim ≠ hidden) :
    left.claims.value claim = right.claims.value claim :=
  ClaimSet.AgreeBut.value_eq agree other

theorem delivered_eq {claim : Claim} (other : claim ≠ hidden) :
    left.delivered claim = right.delivered claim := by
  rw [delivered, agree.value_eq other]
  rfl

theorem carried_eq {claims : List Claim} (absent : hidden ∉ claims) :
    left.carried claims = right.carried claims := by
  unfold carried
  refine List.filterMap_congr fun claim member => ?_
  rw [agree claim]
  rintro rfl
  exact absent member

section Private

variable (lone : hidden.IsPrivate)

include lone

theorem text?_eq {claim : Claim} (shape : claim.shape ≠ .object) :
    left.claims.text? claim = right.claims.text? claim :=
  ClaimSet.AgreeBut.text?_eq agree lone shape

theorem text_eq {claim : Claim} (shape : claim.shape ≠ .object) :
    left.text claim = right.text claim :=
  congrArg (·.getD "") (agree.text?_eq lone shape)

theorem time_eq {claim : Claim} (shape : claim.shape ≠ .object) :
    left.claims.time claim = right.claims.time claim :=
  ClaimSet.AgreeBut.time_eq agree lone shape

theorem kind_eq : left.kind = right.kind := by
  have same : left.claims.kind? = right.claims.kind? :=
    congrArg (·.bind TokenKind.ofCode?) (agree.text?_eq lone (by decide))
  rw [left.kind_eq, right.kind_eq] at same
  exact Option.some.inj same

theorem id_eq : left.id = right.id := agree.text_eq lone (by decide)

theorem subject_eq : left.subject = right.subject := agree.text_eq lone (by decide)

theorem redirectUri_eq : left.redirectUri = right.redirectUri := agree.text_eq lone (by decide)

theorem scopeText_eq : left.scopeText = right.scopeText := agree.text_eq lone (by decide)

theorem issuedAt_eq : left.issuedAt = right.issuedAt := agree.time_eq lone (by decide)

theorem expiresAt_eq : left.expiresAt = right.expiresAt := agree.time_eq lone (by decide)

theorem authTime_eq : left.authTime = right.authTime := agree.time_eq lone (by decide)

theorem acr?_eq : left.acr? = right.acr? := agree.text?_eq lone (by decide)

theorem nonce?_eq : left.nonce? = right.nonce? := agree.text?_eq lone (by decide)

theorem clientId_eq : left.clientId = right.clientId := by
  rw [clientId, agree.value_eq (lone.ne_of_shape (by decide))]
  rfl

theorem challenge?_eq : left.challenge? = right.challenge? :=
  congrArg (·.bind CodeChallenge.ofText?) (agree.text?_eq lone (by decide))

theorem narrow_eq (request : ScopeRequest) : left.narrow request = right.narrow request := by
  have items : left.scope = right.scope := congrArg Scope.items (agree.scopeText_eq lone)
  rw [narrow, agree.scopeText_eq lone, items]
  rfl

theorem inherit_eq (kind : TokenKind) (scope : String) (life : Lifetime) (ids : Option IdSource) :
    left.inherit kind scope life ids = right.inherit kind scope life ids := by
  unfold inherit
  rw [agree.kind_eq lone, agree.carried_eq lone.not_mem_inheritedClaims]

theorem acrIfAny_eq (wanted : Bool) : left.acrIfAny wanted = right.acrIfAny wanted := by
  rw [acrIfAny, agree.acr?_eq lone]
  rfl

/-- **One refresh token is derived from both.** -/
theorem deriveRefresh_eq (request : ScopeRequest) (life : Lifetime) (ids : Option IdSource) :
    left.deriveRefresh request life ids = right.deriveRefresh request life ids := by
  rw [deriveRefresh, agree.narrow_eq lone, acrAlways, agree.acr?_eq lone]
  simp only [agree.inherit_eq lone]
  rfl

end Private

omit agree in
/-- **One access token is derived** from two tokens that differ in the attributes for the ID token
alone. -/
theorem deriveAccess_eq (agree : AgreeBut .deliveryId left right) (request : ScopeRequest)
    (life : Lifetime) (ids : Option IdSource) (withAcr : Bool) :
    left.deriveAccess request life ids withAcr = right.deriveAccess request life ids withAcr := by
  have absent : Claim.deliveryId ∉ [Claim.delivery, Claim.deliveryUi] := by decide
  rw [deriveAccess, agree.narrow_eq .deliveryId, agree.acrIfAny_eq .deliveryId,
    agree.carried_eq absent]
  simp only [agree.inherit_eq .deliveryId]
  rfl

end AgreeBut

/-! ## Deriving alike -/

/-- **Tokens are built alike** from members of one kind that are at fault alike and can be written
alike. -/
theorem build_alike {kind : TokenKind} {left right : Members}
    (leftNamed : ClaimSet.value ⟨left⟩ .kind = .string kind.code)
    (rightNamed : ClaimSet.value ⟨right⟩ .kind = .string kind.code)
    (faulty : ClaimSet.faultAs? ⟨left⟩ kind = ClaimSet.faultAs? ⟨right⟩ kind)
    (writable : (Json.object left).allNumbers Json.isWritable =
      (Json.object right).allNumbers Json.isWritable) :
    SameResult (fun first second => first.claims = ⟨left⟩ ∧ second.claims = ⟨right⟩)
      (build kind left) (build kind right) := by
  cases fault : ClaimSet.faultAs? ⟨right⟩ kind with
  | some cause =>
    rw [fault] at faulty
    rw [build, build, ClaimSet.ofChecked, ClaimSet.ofChecked]
    simp only [ClaimSet.check, leftNamed, rightNamed, TokenKind.ofCode?_code, faulty, fault]
    exact .error _
  | none =>
    have leftFollows := ClaimSet.follows_iff.mpr ⟨leftNamed, faulty.trans fault⟩
    have rightFollows := ClaimSet.follows_iff.mpr ⟨rightNamed, fault⟩
    cases wide : (Json.object right).allNumbers Json.isWritable with
    | false =>
      rw [wide] at writable
      rw [build, build, ClaimSet.ofChecked, ClaimSet.ofChecked,
        ClaimSet.check_eq_ok_iff.mpr leftFollows, ClaimSet.check_eq_ok_iff.mpr rightFollows]
      simp only [ClaimSet.ofMembers?, writable, wide, Bool.false_eq_true, ↓reduceIte]
      exact .error _
    | true =>
      obtain ⟨first, leftBuilt⟩ := exists_build leftFollows (writable.trans wide)
      obtain ⟨second, rightBuilt⟩ := exists_build rightFollows wide
      rw [leftBuilt, rightBuilt]
      exact .ok ⟨(build_eq_ok_iff.mp leftBuilt).2.1, (build_eq_ok_iff.mp rightBuilt).2.1⟩

section Access

variable (parent : Token) (id : String) (life : Lifetime) (scope : String)

/-- The members of an access token but for the attributes for UserInfo alone. -/
def commonMembers : Members :=
  parent.carried inheritedClaims ++ freshMembers .accessToken id life scope ++
    parent.acrIfAny true ++ parent.carried [.delivery]

theorem accessMembers_eq :
    parent.accessMembers id life scope =
      parent.commonMembers id life scope ++ parent.carried [.deliveryUi] := by
  have split : parent.carried [.delivery, .deliveryUi] =
      parent.carried [.delivery] ++ parent.carried [.deliveryUi] :=
    List.filterMap_append (l := [Claim.delivery])
  rw [accessMembers, commonMembers, split, List.append_assoc _ (parent.carried [.delivery])]

variable {parent} {id life scope} (formed : parent.WellFormed)

include formed

/-- The attributes that a checked token delivers to UserInfo are right in an access token. -/
theorem findSome?_accessMembers :
    (parent.accessMembers id life scope).findSome? (ClaimSet.memberFault? .accessToken) =
      (parent.commonMembers id life scope).findSome? (ClaimSet.memberFault? .accessToken) := by
  have right : (parent.carried [.deliveryUi]).findSome? (ClaimSet.memberFault? .accessToken) =
      none := by
    rw [List.findSome?_eq_none_iff]
    intro member found
    obtain ⟨claim, listed, same⟩ := List.mem_filterMap.mp found
    obtain rfl := List.mem_singleton.mp listed
    obtain ⟨value, present, rfl⟩ := Option.map_eq_some_iff.mp same
    obtain ⟨given, -, fits⟩ := fits_parent formed present
    exact ClaimSet.memberFault?_eq_none_iff.mpr ⟨given, by decide, fits⟩
  rw [accessMembers_eq, List.findSome?_append, right, Option.or_none]

/-- What holds of all numbers of a token leaves the rest of its access token to decide. -/
theorem allNumbers_accessMembers_eq {holds : Number → Bool}
    (all : (Json.object parent.claims.members).allNumbers holds = true) :
    (Json.object (parent.accessMembers id life scope)).allNumbers holds =
      (Json.object (parent.commonMembers id life scope)).allNumbers holds := by
  have delivered := allNumbers_carried formed all [.deliveryUi]
  rw [Json.allNumbersOf_eq_all] at delivered
  rw [accessMembers_eq, Json.allNumbers, Json.allNumbers, Json.allNumbersOf_eq_all,
    Json.allNumbersOf_eq_all, List.all_append, delivered, Bool.and_true]

end Access

namespace AgreeBut

variable {left right : Token} (agree : AgreeBut .deliveryUi left right)

include agree

theorem commonMembers_eq (id : String) (life : Lifetime) (scope : String) :
    left.commonMembers id life scope = right.commonMembers id life scope := by
  rw [commonMembers, agree.carried_eq (by decide), agree.acrIfAny_eq .deliveryUi,
    agree.carried_eq (by decide)]
  rfl

theorem accessMembers (id : String) (life : Lifetime) (scope : String) :
    ClaimSet.AgreeBut .deliveryUi ⟨left.accessMembers id life scope⟩
      ⟨right.accessMembers id life scope⟩ := by
  intro claim other
  rw [get?_accessMembers, get?_accessMembers, agree claim other, agree.acr?_eq .deliveryUi]

/-- **Access tokens are derived alike** from two checked tokens that differ in the attributes for
UserInfo alone: they agree but for those, and the numbers of both are finite or not. -/
theorem deriveAccess_alike (leftFormed : left.WellFormed) (rightFormed : right.WellFormed)
    (leftFinite : (Json.object left.claims.members).isFinite = true)
    (rightFinite : (Json.object right.claims.members).isFinite = true) (request : ScopeRequest)
    (life : Lifetime) (ids : Option IdSource) :
    Draw.Alike
      (fun first second => AgreeBut .deliveryUi first second ∧
        (Json.object first.claims.members).isFinite = (Json.object second.claims.members).isFinite)
      (left.deriveAccess request life ids true) (right.deriveAccess request life ids true) := by
  have numbers {holds : Number → Bool} (id scope : String)
      (leftAll : (Json.object left.claims.members).allNumbers holds = true)
      (rightAll : (Json.object right.claims.members).allNumbers holds = true) :
      (Json.object (left.accessMembers id life scope)).allNumbers holds =
        (Json.object (right.accessMembers id life scope)).allNumbers holds := by
    rw [allNumbers_accessMembers_eq leftFormed leftAll, agree.commonMembers_eq,
      allNumbers_accessMembers_eq rightFormed rightAll]
  have named (parent : Token) (id scope : String) :
      ClaimSet.value ⟨parent.accessMembers id life scope⟩ .kind =
        .string TokenKind.accessToken.code := by
    rw [Token.value_eq, get?_accessMembers]
    rfl
  -- whatever is wrong with the members is wrong with those that both have in common
  have fits (id scope : String) :
      (left.accessMembers id life scope).findSome? (ClaimSet.memberFault? .accessToken) =
        (right.accessMembers id life scope).findSome? (ClaimSet.memberFault? .accessToken) := by
    rw [findSome?_accessMembers leftFormed, agree.commonMembers_eq,
      findSome?_accessMembers rightFormed]
  rw [deriveAccess, deriveAccess, agree.narrow_eq .deliveryUi]
  refine Draw.alike_bind_self fun _ scope _ _ => ?_
  rw [agree.inherit_eq .deliveryUi]
  refine Draw.alike_bind_self fun _ members _ ran => Draw.alike_ofResult ?_
  obtain ⟨id, rfl⟩ := exists_of_run_inherit ran
  have inherited : left.carried inheritedClaims = right.carried inheritedClaims :=
    agree.carried_eq (by decide)
  rw [← inherited]
  change SameResult _ (build .accessToken (left.accessMembers id life scope)) _
  rw [inherited]
  change SameResult _ _ (build .accessToken (right.accessMembers id life scope))
  have shared := agree.accessMembers id life scope
  refine (build_alike (named left id scope) (named right id scope)
    (shared.faultAs?_eq (by decide) (fun required => absurd required (by decide)) (fits id scope))
    (numbers id scope leftFormed.writable rightFormed.writable)).mono ?_
  rintro first second ⟨leftClaims, rightClaims⟩
  rw [AgreeBut, leftClaims, rightClaims]
  exact ⟨shared, numbers id scope leftFinite rightFinite⟩

end AgreeBut

/-! ## Sealing and opening alike -/

/-- Tokens have texts alike when one thing or nothing keeps both from being written. -/
theorem serialize_alike {first second : Token}
    (same : (Json.object first.claims.members).sorted.writeError? =
      (Json.object second.claims.members).sorted.writeError?) :
    SameResult (fun _ _ => True) first.serialize second.serialize := by
  rw [serialize_eq, serialize_eq, same]
  cases (Json.object second.claims.members).sorted.writeError? with
  | none => exact .ok trivial
  | some cause => exact .error _

/-- **Tokens are sealed alike** that expire at one time and have numbers that are finite or not in
both. -/
theorem sealed_alike {first second : Token} (expires : first.expiresAt = second.expiresAt)
    (firstFormed : first.WellFormed) (secondFormed : second.WellFormed)
    (finite : (Json.object first.claims.members).isFinite =
      (Json.object second.claims.members).isFinite) (context : Context) :
    Draw.Alike (fun _ _ => True) (first.sealed context) (second.sealed context) := by
  have same : (Json.object first.claims.members).sorted.writeError? =
      (Json.object second.claims.members).sorted.writeError? := by
    rw [writeError?_of_wellFormed firstFormed, writeError?_of_wellFormed secondFormed, finite]
  refine Draw.alike_bind (Draw.alike_ofResult (serialize_alike same)) fun left right _ => ?_
  rw [expires]
  intro supply
  obtain ⟨results, supplies⟩ := KeyRing.wrap_alike context.ring context.random (Utf8.encode left)
    (Utf8.encode right) (.int second.expiresAt) supply
  rw [run_ofDefect, run_ofDefect]
  exact ⟨results.mapError _, supplies⟩

/-- A text is the sealed form of a token. -/
def IsSealedIn (token : Token) (ring : KeyRing) (text : String) : Prop :=
  ∃ random supply last, RandomSource.Exact random ∧
    (token.sealedBy ring random).run supply = (.ok text, last)

/-- **Two sealed codes that differ in one member**: both are checked, agree but for that member, and
were sealed under one key. -/
structure SealedAlike (hidden : Claim) (ring : KeyRing) (left right : Token)
    (leftText rightText : String) : Prop where
  leftFormed : left.WellFormed
  rightFormed : right.WellFormed
  kind : left.kind = .authorizationCode
  agree : AgreeBut hidden left right
  leftSealed : left.IsSealedIn ring leftText
  rightSealed : right.IsSealedIn ring rightText

theorem IsSealedIn.opens {token : Token} {ring : KeyRing} {text : String}
    (closed : token.IsSealedIn ring text) :
    ∃ plain secret seconds, token.serialize = .ok plain ∧
      ring.secret? ring.current.id = some secret ∧ token.expiresAt = (seconds : ℕ) ∧
      KeyRing.Opens ring.current.id secret text (Utf8.encode plain) seconds := by
  obtain ⟨random, supply, last, exact, ran⟩ := closed
  exact opens_of_sealedBy exact ran

theorem IsSealedIn.text_ne {token : Token} {ring : KeyRing} {text : String}
    (closed : token.IsSealedIn ring text) : text ≠ "" := by
  obtain ⟨_, _, _, -, -, -, opens⟩ := closed.opens
  exact opens.text_ne

theorem IsSealedIn.isFinite {token : Token} {ring : KeyRing} {text : String}
    (closed : token.IsSealedIn ring text) :
    (Json.object token.claims.members).isFinite = true := by
  obtain ⟨plain, _, _, written, -⟩ := closed.opens
  exact isFinite_of_serialize written

namespace SealedAlike

variable {hidden : Claim} {ring : KeyRing} {left right : Token} {leftText rightText : String}
  (codes : SealedAlike hidden ring left right leftText rightText)

include codes

/-- **Two codes that differ in a private member open alike**, whatever the ring and the time: both
as they are read back, or neither for the same cause. -/
theorem ofSealed (lone : hidden.IsPrivate) {opening : KeyRing} {secret : Bytes}
    (binds : ring.secret? ring.current.id = some secret)
    (authentic : opening.Authentic ring.current.id secret [leftText, rightText])
    (skew now : Number) :
    SameResult
      (fun first second => first = left.stored codes.leftFormed ∧
        second = right.stored codes.rightFormed)
      (Token.ofSealed opening skew now .authorizationCode leftText)
      (Token.ofSealed opening skew now .authorizationCode rightText) := by
  obtain ⟨leftPlain, _, seconds, leftWritten, leftBinds, leftEnds, leftOpens⟩ :=
    codes.leftSealed.opens
  obtain ⟨rightPlain, _, _, rightWritten, rightBinds, rightEnds, rightOpens⟩ :=
    codes.rightSealed.opens
  obtain rfl := Option.some.inj (leftBinds.symm.trans binds)
  obtain rfl := Option.some.inj (rightBinds.symm.trans binds)
  have ends := codes.agree.expiresAt_eq lone
  rw [leftEnds, rightEnds, Nat.cast_inj] at ends
  subst ends
  have leftRead := readBytes_serialize codes.leftFormed leftWritten
  have rightRead := readBytes_serialize codes.rightFormed rightWritten
  rw [codes.kind] at leftRead
  rw [← codes.agree.kind_eq lone, codes.kind] at rightRead
  have opened := KeyRing.unwrap_alike leftOpens rightOpens authentic skew now
  unfold Token.ofSealed
  generalize opening.unwrap skew now leftText = leftResult at opened ⊢
  generalize opening.unwrap skew now rightText = rightResult at opened ⊢
  cases opened with
  | error cause => exact .error _
  | ok both =>
    obtain ⟨rfl, rfl⟩ := both
    dsimp only
    rw [leftRead, rightRead]
    exact .ok ⟨rfl, rfl⟩

end SealedAlike

end Token
end SealedGrant
