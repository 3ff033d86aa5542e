import Mathlib
import SealedGrant.Grant.Issuance
import SealedGrant.Proofs.Token.Derivation

/-! # What is issued for a grant

Issuing derives all tokens, then seals them (`SealedGrant.Grant.run_derive_eq_ok_iff`,
`SealedGrant.Grant.run_issue_eq_ok_iff`). Once the scope is admitted it fails only by the server's
own doing (`SealedGrant.Grant.failsWith_issue`), and what it drew stays drawn either way
(`SealedGrant.Grant.grows_issue`).
-/

namespace SealedGrant.Grant

open Token (Lifetime)

theorem lifetime_eq_ok_iff {now : ℤ} {ttl : Duration} {life : Lifetime} :
    lifetime now ttl = .ok life ↔
      ∃ expiry, (Number.int now).sum ttl.amount = .ok expiry ∧
        life = ⟨.number (.int now), .number expiry⟩ := by
  unfold lifetime expiryAfter
  cases (Number.int now).sum ttl.amount with
  | error cause =>
    simp only [reduceCtorEq, false_and, exists_false, iff_false]
    intro equal
    cases equal
  | ok expiry =>
    constructor
    · intro equal
      cases equal
      exact ⟨expiry, rfl, rfl⟩
    · intro parts
      obtain ⟨_, same, rfl⟩ := parts
      cases same
      rfl

variable {context : Context} {request : GrantRequest} {now : ℤ} {grant : Token}
  {supply last : Supply}

/-- The refresh token that a grant yields, if it yields one. -/
def refreshOf (context : Context) (now : ℤ) (grant : Token) : Draw Failure (Option Token) :=
  if yieldsRefresh context.policy grant.kind then do
    let life ← Draw.ofResult (lifetime now context.policy.refreshTtl)
    some <$> grant.deriveRefresh .inherit life (some context.ids)
  else pure none

/-- The ID token that a grant yields beside an access token, if it yields one. -/
def signedOf (context : Context) (now : ℤ) (grant access : Token) : Draw Failure (Option String) :=
  if yieldsIdToken grant access then some <$> Draw.ofResult (idToken context now grant)
  else pure none

theorem derive_eq : derive context request now grant = (do
    let life ← Draw.ofResult (lifetime now context.policy.accessTtl)
    let access ← grant.deriveAccess (scopeRequest request) life (some context.ids) true
    let refresh ← refreshOf context now grant
    let signed ← signedOf context now grant access
    return ⟨access, refresh, signed⟩) := by
  unfold derive refreshOf signedOf
  refine bind_congr fun life => bind_congr fun access => ?_
  cases yieldsRefresh context.policy grant.kind <;> cases yieldsIdToken grant access <;>
    simp

theorem run_refreshOf_eq_ok_iff {refresh : Option Token} :
    (refreshOf context now grant).run supply = (.ok refresh, last) ↔
      (yieldsRefresh context.policy grant.kind = false ∧ refresh = none ∧ last = supply) ∨
        (yieldsRefresh context.policy grant.kind = true ∧ ∃ expiry token,
          (Number.int now).sum context.policy.refreshTtl.amount = .ok expiry ∧
            refresh = some token ∧
            (grant.deriveRefresh .inherit ⟨.number (.int now), .number expiry⟩
              (some context.ids)).run supply = (.ok token, last)) := by
  unfold refreshOf
  cases yieldsRefresh context.policy grant.kind with
  | false => simp [eq_comm]
  | true =>
    simp only [↓reduceIte, Draw.run_bind_eq_ok_iff, Draw.run_ofResult, Prod.mk.injEq,
      lifetime_eq_ok_iff, Draw.run_map, reduceCtorEq, false_and, false_or, true_and]
    constructor
    · intro parts
      obtain ⟨life, _, ⟨⟨expiry, sum, rfl⟩, rfl⟩, mapped, rfl⟩ := parts
      cases result : (grant.deriveRefresh .inherit ⟨.number (.int now), .number expiry⟩
        (some context.ids)).run supply with
      | mk outcome later =>
        rw [result] at mapped
        cases outcome with
        | error cause => cases mapped
        | ok token =>
          cases mapped
          exact ⟨expiry, token, sum, rfl, result⟩
    · intro parts
      obtain ⟨expiry, token, sum, rfl, derived⟩ := parts
      refine ⟨_, supply, ⟨⟨expiry, sum, rfl⟩, rfl⟩, ?_⟩
      rw [derived]
      exact ⟨rfl, rfl⟩

theorem run_signedOf_eq_ok_iff {access : Token} {signed : Option String} :
    (signedOf context now grant access).run supply = (.ok signed, last) ↔
      last = supply ∧
        ((yieldsIdToken grant access = false ∧ signed = none) ∨
          (yieldsIdToken grant access = true ∧ ∃ text, idToken context now grant = .ok text ∧
            signed = some text)) := by
  unfold signedOf
  cases yieldsIdToken grant access with
  | false => simp [eq_comm, and_comm]
  | true =>
    simp only [↓reduceIte, Draw.run_map, Draw.run_ofResult, Prod.mk.injEq, reduceCtorEq, false_and,
      false_or, true_and]
    cases idToken context now grant with
    | error cause => simp [Except.map]
    | ok text => simp [Except.map, eq_comm, and_comm]

/-- **What is derived for a grant**: an access token, then a refresh token and an ID token where
they are due. -/
theorem run_derive_eq_ok_iff {derived : Derived} :
    (derive context request now grant).run supply = (.ok derived, last) ↔
      ∃ expiry between, (Number.int now).sum context.policy.accessTtl.amount = .ok expiry ∧
        (grant.deriveAccess (scopeRequest request) ⟨.number (.int now), .number expiry⟩
          (some context.ids) true).run supply = (.ok derived.access, between) ∧
        (refreshOf context now grant).run between = (.ok derived.refresh, last) ∧
        (signedOf context now grant derived.access).run last = (.ok derived.idToken, last) := by
  rw [derive_eq]
  simp only [Draw.run_bind_eq_ok_iff, Draw.run_ofResult, Prod.mk.injEq, lifetime_eq_ok_iff,
    Draw.run_pure, Except.ok.injEq]
  constructor
  · intro parts
    obtain ⟨life, _, ⟨⟨expiry, sum, rfl⟩, rfl⟩, access, between, first, refresh, afterRefresh,
      second, signed, afterSigned, third, rfl, rfl⟩ := parts
    obtain rfl := (run_signedOf_eq_ok_iff.mp third).1
    exact ⟨expiry, between, sum, first, second, third⟩
  · intro parts
    obtain ⟨expiry, between, sum, first, second, third⟩ := parts
    exact ⟨_, supply, ⟨⟨expiry, sum, rfl⟩, rfl⟩, _, between, first, _, last, second, _, last, third,
      rfl, rfl⟩

/-- The sealed form of a refresh token and its id, if there is one. -/
def sealedRefresh (context : Context) (refresh : Option Token) :
    Draw Failure (Option (String × String)) :=
  match refresh with
  | some token => do return some ((← token.sealed context), token.id)
  | none => pure none

theorem run_sealedRefresh_eq_ok_iff {refresh : Option Token} {closed : Option (String × String)} :
    (sealedRefresh context refresh).run supply = (.ok closed, last) ↔
      (refresh = none ∧ closed = none ∧ last = supply) ∨
        ∃ token text, refresh = some token ∧ closed = some (text, token.id) ∧
          (token.sealed context).run supply = (.ok text, last) := by
  cases refresh with
  | none => simp [sealedRefresh, eq_comm]
  | some token =>
    simp only [sealedRefresh, Draw.run_bind_eq_ok_iff, Draw.run_pure, Prod.mk.injEq,
      reduceCtorEq, false_and, false_or, Option.some.injEq]
    constructor
    · intro parts
      obtain ⟨text, _, closedToken, same, rfl⟩ := parts
      cases same
      exact ⟨token, text, rfl, rfl, closedToken⟩
    · intro parts
      obtain ⟨_, text, rfl, rfl, closedToken⟩ := parts
      exact ⟨text, last, closedToken, rfl, rfl⟩

theorem issue_eq : issue context request now grant = (do
    let derived ← derive context request now grant
    let accessToken ← derived.access.sealed context
    let refresh ← sealedRefresh context derived.refresh
    return ⟨grant.id, accessToken, derived.access.id, context.policy.accessTtl,
      derived.access.scopeText, refresh, derived.idToken⟩) := by
  unfold issue sealedRefresh
  refine bind_congr fun derived => bind_congr fun accessToken => ?_
  cases derived.refresh <;> simp

/-- **What is issued for a grant**: all tokens are derived, then the access token is sealed, then
the refresh token. -/
theorem run_issue_eq_ok_iff {issued : Issued} :
    (issue context request now grant).run supply = (.ok issued, last) ↔
      ∃ derived first second accessText refresh,
        (derive context request now grant).run supply = (.ok derived, first) ∧
        (derived.access.sealed context).run first = (.ok accessText, second) ∧
        (sealedRefresh context derived.refresh).run second = (.ok refresh, last) ∧
        issued = ⟨grant.id, accessText, derived.access.id, context.policy.accessTtl,
          derived.access.scopeText, refresh, derived.idToken⟩ := by
  rw [issue_eq]
  simp only [Draw.run_bind_eq_ok_iff, Draw.run_pure, Prod.mk.injEq, Except.ok.injEq]
  constructor
  · intro parts
    obtain ⟨derived, first, derives, accessText, second, seals, refresh, third, later, rfl, rfl⟩ :=
      parts
    exact ⟨derived, first, second, accessText, refresh, derives, seals, later, rfl⟩
  · intro parts
    obtain ⟨derived, first, second, accessText, refresh, derives, seals, later, rfl⟩ := parts
    exact ⟨derived, first, derives, accessText, second, seals, refresh, last, later, rfl, rfl⟩

/-- A failure that is the server's. -/
def IsServerError (cause : Failure) : Prop :=
  cause.code = .serverError

theorem isServerError_defect (cause : Defect) : IsServerError (.defect cause) := rfl

theorem failsWith_ofDefect {α : Type} (draw : Draw Defect α) :
    (Token.ofDefect draw).FailsWith IsServerError := by
  intro supply cause last failed
  rw [Token.run_ofDefect] at failed
  cases result : draw.run supply with
  | mk outcome later =>
    rw [result] at failed
    cases outcome with
    | ok value => cases failed
    | error found =>
      cases failed
      exact isServerError_defect found

theorem isServerError_of_lifetime {ttl : Duration} {cause : Failure}
    (failed : lifetime now ttl = .error cause) : IsServerError cause := by
  unfold lifetime expiryAfter at failed
  cases sum : (Number.int now).sum ttl.amount with
  | ok expiry =>
    rw [sum] at failed
    cases failed
  | error found =>
    rw [sum] at failed
    cases failed
    exact isServerError_defect _

theorem isServerError_of_build {kind : TokenKind} {members : Members} {cause : Failure}
    (failed : Token.build kind members = .error cause) : IsServerError cause := by
  unfold Token.build at failed
  split at failed
  · next claims checked =>
    unfold Token.ofClaims at failed
    split at failed
    · cases failed
    · split at failed <;> cases failed <;> rfl
  · cases failed
    rfl
  · cases failed
    rfl
  · cases failed
    rfl

theorem failsWith_sealed (token : Token) : (token.sealed context).FailsWith IsServerError := by
  refine Draw.failsWith_bind (Draw.failsWith_ofResult fun cause failed => ?_)
    fun text => failsWith_ofDefect _
  unfold Token.serialize at failed
  split at failed
  · cases failed
  · cases failed
    exact isServerError_defect _

theorem failsWith_inherit (kind : TokenKind) (scope : String) (life : Lifetime)
    (ids : Option IdSource) : (grant.inherit kind scope life ids).FailsWith IsServerError := by
  unfold Token.inherit
  split
  · exact Draw.failsWith_throw rfl
  · split
    · exact Draw.failsWith_throw rfl
    · split
      · exact Draw.failsWith_throw rfl
      · refine Draw.failsWith_bind ?_ fun id => Draw.failsWith_pure _
        intro supply cause last failed
        cases failed

/-- Where the scope is admitted, deriving and signing fail only by the server's doing. -/
theorem failsWith_deriveAccess {scopeAsked : ScopeRequest} {scope : String}
    (narrowed : grant.narrow scopeAsked = .ok scope) (life : Lifetime) (ids : Option IdSource)
    (withAcr : Bool) :
    (grant.deriveAccess scopeAsked life ids withAcr).FailsWith IsServerError := by
  refine Draw.failsWith_bind (Draw.failsWith_ofResult fun cause failed => ?_) fun text =>
    Draw.failsWith_bind (failsWith_inherit _ _ _ _) fun members =>
      Draw.failsWith_ofResult fun cause failed => isServerError_of_build failed
  rw [narrowed] at failed
  cases failed

theorem failsWith_deriveRefresh (life : Lifetime) (ids : Option IdSource) :
    (grant.deriveRefresh .inherit life ids).FailsWith IsServerError := by
  refine Draw.failsWith_bind (Draw.failsWith_ofResult fun cause failed => ?_) fun text =>
    Draw.failsWith_bind (failsWith_inherit _ _ _ _) fun members =>
      Draw.failsWith_ofResult fun cause failed => isServerError_of_build failed
  cases failed

theorem isServerError_of_idToken {cause : Failure}
    (failed : idToken context now grant = .error cause) : IsServerError cause := by
  unfold idToken expiryAfter at failed
  cases sum : (Number.int now).sum context.policy.idTtl.amount with
  | error found =>
    rw [sum] at failed
    cases failed
    exact isServerError_defect _
  | ok expiry =>
    rw [sum] at failed
    unfold IdToken.assemble at failed
    by_cases nameless : grant.subject.isEmpty = true
    · simp only [nameless, ↓reduceIte] at failed
      cases failed
      rfl
    · simp only [nameless, Bool.false_eq_true, ↓reduceIte] at failed
      change (if Json.isWritable expiry then _ else _) = _ at failed
      split at failed
      · cases failed
      · cases failed
        exact isServerError_defect _

/-- **Issuing fails only by the server's doing**, once the scope is admitted. -/
theorem failsWith_issue {scope : String}
    (narrowed : grant.narrow (scopeRequest request) = .ok scope) :
    (issue context request now grant).FailsWith IsServerError := by
  have derives : (derive context request now grant).FailsWith IsServerError := by
    rw [derive_eq]
    refine Draw.failsWith_bind
      (Draw.failsWith_ofResult fun cause failed => isServerError_of_lifetime failed) fun life =>
      Draw.failsWith_bind (failsWith_deriveAccess narrowed _ _ _) fun access =>
      Draw.failsWith_bind ?_ fun refresh => Draw.failsWith_bind ?_ fun signed =>
      Draw.failsWith_pure _
    · unfold refreshOf
      split
      · exact Draw.failsWith_bind
          (Draw.failsWith_ofResult fun cause failed => isServerError_of_lifetime failed) fun life =>
          Draw.failsWith_map (failsWith_deriveRefresh _ _)
      · exact Draw.failsWith_pure _
    · unfold signedOf
      split
      · exact Draw.failsWith_map
          (Draw.failsWith_ofResult fun cause failed => isServerError_of_idToken failed)
      · exact Draw.failsWith_pure _
  rw [issue_eq]
  refine Draw.failsWith_bind derives fun derived =>
    Draw.failsWith_bind (failsWith_sealed _) fun accessToken =>
    Draw.failsWith_bind ?_ fun refresh => Draw.failsWith_pure _
  cases derived.refresh with
  | none => exact Draw.failsWith_pure _
  | some token =>
    exact Draw.failsWith_bind (failsWith_sealed _) fun text => Draw.failsWith_pure _

/-! ## What is drawn stays drawn -/

theorem grows_ofDefect {α : Type} {draw : Draw Defect α} (grows : draw.Grows) :
    (Token.ofDefect draw).Grows := by
  intro supply
  rw [Token.run_ofDefect]
  exact grows supply

theorem grows_wrap (ring : KeyRing) (random : RandomSource) (plain : Bytes) (expiry : Number) :
    (ring.wrap random plain expiry).Grows := by
  refine Draw.grows_bind (Draw.grows_bind (Draw.grows_ofResult _) fun seconds =>
    Draw.grows_bind (Draw.grows_drawBytes _ _) fun nonce => ?_) fun bytes => Draw.grows_pure _
  cases ring.secret? ring.current.id with
  | none => exact Draw.grows_throw _
  | some secret => exact Draw.grows_pure _

theorem grows_sealed (token : Token) : (token.sealed context).Grows :=
  Draw.grows_bind (Draw.grows_ofResult _) fun _ => grows_ofDefect (grows_wrap _ _ _ _)

theorem grows_inherit (kind : TokenKind) (scope : String) (life : Lifetime) (ids : IdSource) :
    (grant.inherit kind scope life (some ids)).Grows := by
  unfold Token.inherit
  split
  · exact Draw.grows_throw _
  · dsimp only
    split
    · exact Draw.grows_throw _
    · exact Draw.grows_bind (Draw.grows_drawId _) fun id => Draw.grows_pure _

theorem grows_issue : (issue context request now grant).Grows := by
  have access (life : Lifetime) :
      (grant.deriveAccess (scopeRequest request) life (some context.ids) true).Grows :=
    Draw.grows_bind (Draw.grows_ofResult _) fun _ => Draw.grows_bind (grows_inherit _ _ _ _)
      fun _ => Draw.grows_ofResult _
  have refresh : (refreshOf context now grant).Grows := by
    unfold refreshOf
    split
    · exact Draw.grows_bind (Draw.grows_ofResult _) fun _ => Draw.grows_map _
        (Draw.grows_bind (Draw.grows_ofResult _) fun _ => Draw.grows_bind (grows_inherit _ _ _ _)
          fun _ => Draw.grows_ofResult _)
    · exact Draw.grows_pure _
  have signed (token : Token) : (signedOf context now grant token).Grows := by
    unfold signedOf
    split
    · exact Draw.grows_map _ (Draw.grows_ofResult _)
    · exact Draw.grows_pure _
  have closed (token : Option Token) : (sealedRefresh context token).Grows := by
    cases token with
    | none => exact Draw.grows_pure _
    | some token => exact Draw.grows_bind (grows_sealed _) fun _ => Draw.grows_pure _
  rw [issue_eq, derive_eq]
  exact Draw.grows_bind
    (Draw.grows_bind (Draw.grows_ofResult _) fun life => Draw.grows_bind (access life) fun token =>
      Draw.grows_bind refresh fun _ => Draw.grows_bind (signed token) fun _ => Draw.grows_pure _)
    fun derived => Draw.grows_bind (grows_sealed _) fun _ => Draw.grows_bind (closed _) fun _ =>
      Draw.grows_pure _

end SealedGrant.Grant
