import Mathlib
import SealedGrant.Proofs.Json.Merging
import SealedGrant.Proofs.Token.Sealing
import SealedGrant.Token.Derive

/-! # Derived tokens

The members of a derived token are known claim by claim (`SealedGrant.Token.get?_accessMembers`,
`SealedGrant.Token.get?_refreshMembers`): what is inherited is the parent's member, absent where it
is absent there, and what is fresh is not the parent's. A derivation from a checked parent fails for
the scope or for the times, and for nothing else (`SealedGrant.Token.follows_iff_of_continues`).
-/

namespace SealedGrant

namespace Token

variable (parent : Token)

theorem get?_carried (claims : List Claim) (claim : Claim) :
    (parent.carried claims).get? claim.name =
      if claim ∈ claims then parent.claims.members.get? claim.name else none := by
  induction claims with
  | nil => rfl
  | cons first rest ih =>
    have unfolded : parent.carried (first :: rest) =
        ((parent.claims.members.get? first.name).map (first.name, ·)).toList ++
          parent.carried rest := by
      unfold carried
      cases found : parent.claims.members.get? first.name <;> simp [found]
    rw [unfolded, Members.get?_append, ih]
    by_cases same : claim = first
    · subst same
      cases found : parent.claims.members.get? claim.name with
      | none => simp
      | some value => simp [Members.get?_cons]
    · have names : claim.name ≠ first.name := fun equal => same (Claim.name_injective equal)
      cases found : parent.claims.members.get? first.name with
      | none => simp [same]
      | some value => simp [Members.get?_cons, names, same]

theorem names_carried (claims : List Claim) :
    (parent.carried claims).names.Sublist (claims.map Claim.name) := by
  induction claims with
  | nil => exact List.Sublist.slnil
  | cons first rest ih =>
    unfold carried at ih ⊢
    cases found : parent.claims.members.get? first.name with
    | none => simpa [found] using ih.cons _
    | some value => simpa [found, Members.names] using ih

/-- The members of an access token of a parent. -/
def accessMembers (id : String) (life : Lifetime) (scope : String) : Members :=
  parent.carried inheritedClaims ++ freshMembers .accessToken id life scope ++
    parent.acrIfAny true ++ parent.carried [.delivery, .deliveryUi]

/-- The members of a refresh token of a parent. -/
def refreshMembers (id : String) (life : Lifetime) : Members :=
  parent.carried inheritedClaims ++ freshMembers .refreshToken id life parent.scopeText ++
    parent.acrAlways

/-- The members that are fresh in every derived token. -/
def freshClaims : List Claim := [.kind, .id, .issuedAt, .expiresAt, .scope]

/-- The fresh members of a derived token, claim by claim. -/
def fresh? (kind : TokenKind) (id : String) (life : Lifetime) (scope : String) :
    Claim → Option Json
  | .kind => some (.string kind.code)
  | .id => some (.string id)
  | .issuedAt => some life.issuedAt
  | .expiresAt => some life.expiresAt
  | .scope => some (.string scope)
  | _ => none

theorem get?_freshMembers (kind : TokenKind) (id : String) (life : Lifetime) (scope : String)
    (claim : Claim) : (freshMembers kind id life scope).get? claim.name =
      fresh? kind id life scope claim := by
  simp only [freshMembers, Members.get?_cons, Members.get?_nil]
  cases claim <;> simp [fresh?, Claim.name]

theorem get?_acrIfAny (claim : Claim) :
    (parent.acrIfAny true).get? claim.name =
      if claim = .acr then parent.acr?.map .string else none := by
  unfold acrIfAny
  cases parent.acr? with
  | none => simp
  | some acr =>
    simp only [↓reduceIte, Members.get?_cons]
    by_cases same : claim = .acr
    · simp [same]
    · have names : claim.name ≠ Claim.acr.name := fun equal => same (Claim.name_injective equal)
      simp [same, names]

/-- **An access token, claim by claim.** -/
theorem get?_accessMembers (id : String) (life : Lifetime) (scope : String) (claim : Claim) :
    (parent.accessMembers id life scope).get? claim.name =
      if claim ∈ inheritedClaims ++ [.delivery, .deliveryUi] then
        parent.claims.members.get? claim.name
      else if claim = .acr then parent.acr?.map .string
      else fresh? .accessToken id life scope claim := by
  rw [accessMembers, Members.get?_append, Members.get?_append, Members.get?_append, get?_carried,
    get?_carried, get?_freshMembers, get?_acrIfAny]
  cases claim <;> simp [inheritedClaims, fresh?]

/-- **A refresh token, claim by claim.** -/
theorem get?_refreshMembers (id : String) (life : Lifetime) (claim : Claim) :
    (parent.refreshMembers id life).get? claim.name =
      if claim ∈ inheritedClaims then parent.claims.members.get? claim.name
      else if claim = .acr then some (parent.acr?.elim .null .string)
      else fresh? .refreshToken id life parent.scopeText claim := by
  have acr : (parent.acrAlways).get? claim.name =
      if claim = .acr then some (parent.acr?.elim .null .string) else none := by
    unfold acrAlways
    rw [Members.get?_cons]
    by_cases same : claim = .acr
    · cases parent.acr? <;> simp [same]
    · have names : claim.name ≠ Claim.acr.name := fun equal => same (Claim.name_injective equal)
      simp [same, names]
  rw [refreshMembers, Members.get?_append, Members.get?_append, get?_carried, get?_freshMembers,
    acr]
  cases claim <;> simp [inheritedClaims, fresh?]

theorem nodup_names (claims : List Claim) (distinct : claims.Nodup) :
    (claims.map Claim.name).Nodup :=
  distinct.map fun _ _ => Claim.name_injective

theorem names_append (left right : Members) :
    Members.names (left ++ right) = left.names ++ right.names :=
  List.map_append

theorem names_freshMembers (kind : TokenKind) (id : String) (life : Lifetime) (scope : String) :
    (freshMembers kind id life scope).names =
      freshClaims.map Claim.name := rfl

/-- What is derived repeats no name: what is inherited, what is fresh, a context class and what else
is carried over. -/
theorem nodup_derived {kind : TokenKind} {id scope : String} {life : Lifetime} {acr : Members}
    (only : acr.names.Sublist [Claim.acr.name]) {claims : List Claim}
    (apart : (inheritedClaims ++ freshClaims ++ [Claim.acr] ++ claims).Nodup) :
    (parent.carried inheritedClaims ++ freshMembers kind id life scope ++ acr ++
      parent.carried claims).names.Nodup := by
  have sub : (parent.carried inheritedClaims ++ freshMembers kind id life scope ++ acr ++
      parent.carried claims).names.Sublist
        ((inheritedClaims ++ freshClaims ++ [Claim.acr] ++ claims).map Claim.name) := by
    rw [names_append, names_append, names_append, names_freshMembers, List.map_append,
      List.map_append, List.map_append]
    exact (((parent.names_carried _).append (List.Sublist.refl _)).append only).append
      (parent.names_carried _)
  exact sub.nodup (nodup_names _ apart)

theorem names_acrIfAny (wanted : Bool) :
    (parent.acrIfAny wanted).names.Sublist [Claim.acr.name] := by
  unfold acrIfAny
  cases parent.acr? with
  | none => exact List.nil_sublist _
  | some acr =>
    cases wanted with
    | true => exact List.Sublist.refl _
    | false => exact List.nil_sublist _

theorem nodup_accessMembers (id : String) (life : Lifetime) (scope : String) :
    (parent.accessMembers id life scope).names.Nodup :=
  parent.nodup_derived (parent.names_acrIfAny true) (by decide)

theorem nodup_refreshed (id : String) (life : Lifetime) (scope : String) :
    (parent.carried inheritedClaims ++ freshMembers .refreshToken id life scope ++
      parent.acrAlways).names.Nodup := by
  have distinct : (parent.carried inheritedClaims ++ freshMembers .refreshToken id life scope ++
      parent.acrAlways ++ parent.carried []).names.Nodup :=
    parent.nodup_derived (List.Sublist.refl _) (by decide)
  rwa [show parent.carried [] = [] from rfl, List.append_nil] at distinct

theorem nodup_refreshMembers (id : String) (life : Lifetime) :
    (parent.refreshMembers id life).names.Nodup :=
  parent.nodup_refreshed id life parent.scopeText

section Follows

variable {parent : Token} (formed : parent.WellFormed)

theorem value_eq (members : Members) (claim : Claim) :
    ClaimSet.value ⟨members⟩ claim = (members.get? claim.name).getD .null := rfl

/-- A lifetime in whole seconds. -/
def Lifetime.whole (issuedAt expiresAt : ℤ) : Lifetime :=
  ⟨.number (.int issuedAt), .number (.int expiresAt)⟩

/-- Members of a kind that continue a parent: the inherited ones, the fresh ones, and others that
are right for the kind. -/
structure Continues (parent : Token) (kind : TokenKind) (members : Members) (id : String)
    (now expires : ℤ) (scope : String) : Prop where
  distinct : members.names.Nodup
  inherited : ∀ claim ∈ inheritedClaims,
    members.get? claim.name = parent.claims.members.get? claim.name
  fresh : ∀ claim ∈ freshClaims,
    members.get? claim.name = fresh? kind id (.whole now expires) scope claim
  others : ∀ claim ∉ inheritedClaims ++ freshClaims, ∀ value,
    members.get? claim.name = some value → ClaimSet.memberFault? kind (claim.name, value) = none
  demanded : ∀ claim ∉ inheritedClaims ++ freshClaims, claim.presence kind = .required →
    ClaimSet.isNull ((members.get? claim.name).getD .null) = false
  unbound : members.get? Claim.codeChallenge.name = none

/-- What is inherited belongs to all kinds alike. -/
theorem presence_of_mem_inheritedClaims {claim : Claim} (inherited : claim ∈ inheritedClaims)
    (first second : TokenKind) : claim.presence first = claim.presence second := by
  revert inherited
  cases claim <;> cases first <;> cases second <;> decide

theorem presence_ne_forbidden_of_mem_freshClaims {claim : Claim} (fresh : claim ∈ freshClaims)
    (kind : TokenKind) : claim.presence kind ≠ .forbidden := by
  revert fresh
  cases claim <;> cases kind <;> decide

include formed

theorem fits_parent {claim : Claim} {value : Json}
    (found : parent.claims.members.get? claim.name = some value) :
    ClaimSet.isNull value = false ∧ claim.presence parent.kind ≠ .forbidden ∧
      claim.shape.fits value = true :=
  ClaimSet.memberFault?_eq_none_iff.mp
    ((ClaimSet.fits_iff formed.distinct).mp formed.follows.fits claim value found)

theorem describes_parent {claim : Claim} {value : Json}
    (found : parent.claims.members.get? claim.name = some value) : claim.shape.Describes value :=
  formed.follows.describes ((Members.get?_eq_some_iff formed.distinct).mp found)

/-- A required member is there and has its shape. -/
theorem exists_of_required {claim : Claim} (required : claim.presence parent.kind = .required) :
    ∃ value, parent.claims.members.get? claim.name = some value ∧
      claim.shape.Describes value := by
  have present := formed.follows.present claim required
  rw [ClaimSet.value, Members.getD] at present
  cases found : parent.claims.members.get? claim.name with
  | none =>
    rw [found] at present
    cases present
  | some value => exact ⟨value, rfl, describes_parent formed found⟩

/-- The times of a checked token are not negative. -/
theorem time_nonneg {claim : Claim} (shape : claim.shape = .time) :
    0 ≤ parent.claims.time claim := by
  unfold ClaimSet.time ClaimSet.value Members.getD
  cases found : parent.claims.members.get? claim.name with
  | none => decide
  | some value =>
    have described := describes_parent formed found
    rw [shape] at described
    obtain ⟨seconds, rfl⟩ := described
    exact Int.natCast_nonneg seconds

namespace Continues

omit formed in
theorem value_of_mem_inheritedClaims {kind : TokenKind} {members : Members} {id scope : String}
    {now expires : ℤ} (continues : Continues parent kind members id now expires scope)
    {claim : Claim} (member : claim ∈ inheritedClaims) :
    ClaimSet.value ⟨members⟩ claim = parent.claims.value claim := by
  rw [value_eq, continues.inherited claim member]
  rfl

omit formed in
theorem value_of_mem_freshClaims {kind : TokenKind} {members : Members} {id scope : String}
    {now expires : ℤ} (continues : Continues parent kind members id now expires scope)
    {claim : Claim} (member : claim ∈ freshClaims) :
    ClaimSet.value ⟨members⟩ claim =
      (fresh? kind id (.whole now expires) scope claim).getD .null := by
  rw [value_eq, continues.fresh claim member]

end Continues

/-- **When a token can be derived**: it is issued after its user authenticated and does not expire
before it is issued. -/
theorem follows_iff_of_continues {kind : TokenKind} {members : Members} {id scope : String}
    {now expires : ℤ} (continues : Continues parent kind members id now expires scope) :
    ClaimSet.Follows ⟨members⟩ kind ↔ 0 ≤ now ∧ now ≤ expires ∧ parent.authTime ≤ now := by
  have issued : ClaimSet.time ⟨members⟩ .issuedAt = now := by
    rw [ClaimSet.time, continues.value_of_mem_freshClaims (by decide)]
    rfl
  have ends : ClaimSet.time ⟨members⟩ .expiresAt = expires := by
    rw [ClaimSet.time, continues.value_of_mem_freshClaims (by decide)]
    rfl
  have authenticated : ClaimSet.time ⟨members⟩ .authTime = parent.authTime := by
    rw [ClaimSet.time, continues.value_of_mem_inheritedClaims (by decide)]
    rfl
  constructor
  · intro follows
    refine ⟨?_, ?_, ?_⟩
    · have fits := (ClaimSet.fits_iff continues.distinct).mp follows.fits .issuedAt
        (.number (.int now)) (continues.fresh .issuedAt (by decide))
      exact of_decide_eq_true (ClaimSet.memberFault?_eq_none_iff.mp fits).2.2
    · have ordered := follows.issued_le
      rwa [issued, ends] at ordered
    · have ordered := follows.auth_le
      rwa [authenticated, issued] at ordered
  · intro parts
    obtain ⟨nonneg, issuedLe, authLe⟩ := parts
    exact {
      kind_eq := by
        rw [continues.value_of_mem_freshClaims (by decide)]
        rfl
      present := by
        intro claim required
        by_cases known : claim ∈ inheritedClaims ++ freshClaims
        · rcases List.mem_append.mp known with member | member
          · rw [continues.value_of_mem_inheritedClaims member]
            apply formed.follows.present
            rw [presence_of_mem_inheritedClaims member parent.kind kind, required]
          · rw [continues.value_of_mem_freshClaims member]
            simp only [freshClaims, List.mem_cons, List.not_mem_nil, or_false] at member
            rcases member with rfl | rfl | rfl | rfl | rfl <;> rfl
        · exact continues.demanded claim known required
      fits := by
        rw [ClaimSet.fits_iff continues.distinct]
        intro claim value found
        by_cases known : claim ∈ inheritedClaims ++ freshClaims
        · rcases List.mem_append.mp known with member | member
          · rw [continues.inherited claim member] at found
            obtain ⟨present, allowed, fits⟩ := fits_parent formed found
            rw [presence_of_mem_inheritedClaims member parent.kind kind] at allowed
            exact ClaimSet.memberFault?_eq_none_iff.mpr ⟨present, allowed, fits⟩
          · rw [continues.fresh claim member] at found
            have allowed := presence_ne_forbidden_of_mem_freshClaims member kind
            have expiresNonneg : 0 ≤ expires := nonneg.trans issuedLe
            refine ClaimSet.memberFault?_eq_none_iff.mpr ⟨?_, allowed, ?_⟩
            · simp only [freshClaims, List.mem_cons, List.not_mem_nil, or_false] at member
              rcases member with rfl | rfl | rfl | rfl | rfl <;> cases found <;> rfl
            · simp only [freshClaims, List.mem_cons, List.not_mem_nil, or_false] at member
              rcases member with rfl | rfl | rfl | rfl | rfl <;> cases found
              · rfl
              · rfl
              · exact decide_eq_true nonneg
              · exact decide_eq_true expiresNonneg
              · rfl
        · exact continues.others claim known value found
      issued_le := by rwa [issued, ends]
      auth_le := by rwa [authenticated, issued]
      redirect := by
        have same : ClaimSet.text? ⟨members⟩ .redirectUri = parent.claims.text? .redirectUri := by
          rw [ClaimSet.text?, continues.value_of_mem_inheritedClaims (by decide)]
          rfl
        rw [ClaimSet.redirectFault?, same]
        exact formed.follows.redirect
      challenge := by
        have absent : ClaimSet.text? ⟨members⟩ .codeChallenge = none := by
          rw [ClaimSet.text?, value_eq, continues.unbound]
          rfl
        rw [ClaimSet.challengeFault?, absent] }

/-- A member that is present has a string for its text. -/
theorem text?_of_required {claim : Claim} (required : claim.presence parent.kind = .required)
    (shape : claim.shape = .text) : ∃ text, parent.claims.value claim = .string text := by
  obtain ⟨value, found, described⟩ := exists_of_required formed required
  rw [shape] at described
  obtain ⟨text, rfl⟩ := described
  refine ⟨text, ?_⟩
  rw [ClaimSet.value, Members.getD, found]
  rfl

theorem acr?_of_ne_accessToken (parentKind : parent.kind ≠ .accessToken) :
    ∃ acr, parent.acr? = some acr := by
  have required : Claim.presence .acr parent.kind = .required := by
    cases kind : parent.kind with
    | accessToken => exact absurd kind parentKind
    | authorizationCode => rfl
    | refreshToken => rfl
  obtain ⟨acr, value⟩ := text?_of_required formed required rfl
  exact ⟨acr, congrArg Json.string? value⟩

theorem continues_accessMembers (id scope : String) (now expires : ℤ) :
    Continues parent .accessToken (parent.accessMembers id (.whole now expires) scope) id now
      expires scope where
  distinct := parent.nodup_accessMembers _ _ _
  inherited claim member := by
    rw [get?_accessMembers, if_pos (List.mem_append_left _ member)]
  fresh claim member := by
    rw [get?_accessMembers]
    simp only [freshClaims, List.mem_cons, List.not_mem_nil, or_false] at member
    rcases member with rfl | rfl | rfl | rfl | rfl <;> rfl
  others claim other value found := by
    rw [get?_accessMembers] at found
    rw [ClaimSet.memberFault?_eq_none_iff]
    split at found
    · next carried =>
      obtain ⟨present, -, fits⟩ := fits_parent formed found
      refine ⟨present, ?_, fits⟩
      revert carried other
      cases claim <;> decide
    · split at found
      · next acr =>
        subst acr
        obtain ⟨text, -, rfl⟩ := Option.map_eq_some_iff.mp found
        exact ⟨rfl, by decide, rfl⟩
      · exfalso
        revert found other
        cases claim <;> simp [fresh?, inheritedClaims, freshClaims]
  demanded claim other required := by
    exfalso
    revert required other
    cases claim <;> decide
  unbound := by
    rw [get?_accessMembers]
    rfl

theorem continues_refreshMembers (parentKind : parent.kind ≠ .accessToken) (id : String)
    (now expires : ℤ) :
    Continues parent .refreshToken (parent.refreshMembers id (.whole now expires)) id now expires
      parent.scopeText where
  distinct := parent.nodup_refreshMembers _ _
  inherited claim member := by
    rw [get?_refreshMembers, if_pos member]
  fresh claim member := by
    rw [get?_refreshMembers]
    simp only [freshClaims, List.mem_cons, List.not_mem_nil, or_false] at member
    rcases member with rfl | rfl | rfl | rfl | rfl <;> rfl
  others claim other value found := by
    obtain ⟨acr, found_acr⟩ := acr?_of_ne_accessToken formed parentKind
    rw [get?_refreshMembers, found_acr] at found
    rw [ClaimSet.memberFault?_eq_none_iff]
    split at found
    · next carried => exact absurd (List.mem_append_left _ carried) other
    · split at found
      · next same =>
        subst same
        cases found
        exact ⟨rfl, by decide, rfl⟩
      · exfalso
        revert found other
        cases claim <;> simp [fresh?, inheritedClaims, freshClaims]
  demanded claim other required := by
    obtain ⟨acr, found_acr⟩ := acr?_of_ne_accessToken formed parentKind
    rw [get?_refreshMembers, found_acr]
    revert required other
    cases claim <;> simp [inheritedClaims, freshClaims, Claim.presence, ClaimSet.isNull]
  unbound := by
    rw [get?_refreshMembers]
    rfl

theorem mem_of_mem_carried {claims : List Claim} {member : String × Json}
    (found : member ∈ parent.carried claims) : member ∈ parent.claims.members := by
  obtain ⟨claim, -, value⟩ := List.mem_filterMap.mp found
  obtain ⟨value, present, rfl⟩ := Option.map_eq_some_iff.mp value
  exact (Members.get?_eq_some_iff formed.distinct).mp present

/-- What holds of all numbers of a parent holds of what is carried over. -/
theorem allNumbers_carried {holds : Number → Bool}
    (all : (Json.object parent.claims.members).allNumbers holds = true) (claims : List Claim) :
    Json.allNumbersOf holds (parent.carried claims) = true := by
  rw [Json.allNumbers, Json.allNumbersOf_eq_all, List.all_eq_true] at all
  rw [Json.allNumbersOf_eq_all, List.all_eq_true]
  exact fun member found => all member (mem_of_mem_carried formed found)

theorem allNumbers_accessMembers {holds : Number → Bool} {id scope : String} {now expires : ℤ}
    (all : (Json.object parent.claims.members).allNumbers holds = true)
    (nowHolds : holds (.int now) = true) (expiresHolds : holds (.int expires) = true) :
    (Json.object (parent.accessMembers id (.whole now expires) scope)).allNumbers holds = true := by
  have inherited := allNumbers_carried formed all inheritedClaims
  have delivered := allNumbers_carried formed all [.delivery, .deliveryUi]
  rw [Json.allNumbersOf_eq_all] at inherited delivered
  rw [Json.allNumbers, Json.allNumbersOf_eq_all, accessMembers, List.all_append, List.all_append,
    List.all_append, inherited, delivered]
  have acr : (parent.acrIfAny true).all
      (fun member => Json.allNumbers holds member.2) = true := by
    unfold acrIfAny
    cases parent.acr? <;> rfl
  simp only [acr, freshMembers, Lifetime.whole, List.all_cons, Json.allNumbers, nowHolds,
    expiresHolds, List.all_nil, Bool.and_self]

theorem allNumbers_refreshMembers {holds : Number → Bool} {id : String} {now expires : ℤ}
    (all : (Json.object parent.claims.members).allNumbers holds = true)
    (nowHolds : holds (.int now) = true) (expiresHolds : holds (.int expires) = true) :
    (Json.object (parent.refreshMembers id (.whole now expires))).allNumbers holds = true := by
  have inherited := allNumbers_carried formed all inheritedClaims
  rw [Json.allNumbersOf_eq_all] at inherited
  rw [Json.allNumbers, Json.allNumbersOf_eq_all, refreshMembers, List.all_append, List.all_append,
    inherited]
  have acr : parent.acrAlways.all (fun member => Json.allNumbers holds member.2) = true := by
    unfold acrAlways
    cases parent.acr? <;> rfl
  simp only [acr, freshMembers, Lifetime.whole, List.all_cons, Json.allNumbers, nowHolds,
    expiresHolds, List.all_nil, Bool.and_self]

end Follows

section Runs

variable {parent : Token}

theorem run_inherit_eq_ok_iff {kind : TokenKind} {scope : String} {life : Lifetime}
    {ids : IdSource} {supply last : Supply} {members : Members} :
    (parent.inherit kind scope life (some ids)).run supply = (.ok members, last) ↔
      parent.kind ≠ .accessToken ∧ ClaimSet.isNull life.issuedAt = false ∧
        ClaimSet.isNull life.expiresAt = false ∧ last = supply.afterId ids ∧
        members = parent.carried inheritedClaims ++
          freshMembers kind (ids.next supply) life scope := by
  unfold inherit
  by_cases access : parent.kind = .accessToken
  · simp [access]
  · by_cases absent : (ClaimSet.isNull life.issuedAt || ClaimSet.isNull life.expiresAt) = true
    · simp only [access, absent, ↓reduceIte, Draw.run_throw, Prod.mk.injEq, reduceCtorEq, false_and,
        false_iff]
      intro parts
      obtain ⟨-, issued, expires, -⟩ := parts
      rw [issued, expires] at absent
      cases absent
    · have given := absent
      simp only [Bool.or_eq_true, not_or, Bool.not_eq_true] at given
      simp only [access, given, Bool.or_self, Bool.false_eq_true, ↓reduceIte, Draw.run_bind,
        Draw.run_drawId, Draw.run_pure, Prod.mk.injEq, Except.ok.injEq, ne_eq, not_false_eq_true,
        true_and]
      constructor
      · rintro ⟨rfl, rfl⟩
        exact ⟨rfl, rfl⟩
      · rintro ⟨rfl, rfl⟩
        exact ⟨rfl, rfl⟩

/-- **Deriving an access token** draws one id and builds the token's members. -/
theorem run_deriveAccess_eq_ok_iff {request : ScopeRequest} {life : Lifetime} {ids : IdSource}
    {supply last : Supply} {token : Token} :
    (parent.deriveAccess request life (some ids) true).run supply = (.ok token, last) ↔
      parent.kind ≠ .accessToken ∧ ClaimSet.isNull life.issuedAt = false ∧
        ClaimSet.isNull life.expiresAt = false ∧ last = supply.afterId ids ∧
        ∃ scope, parent.narrow request = .ok scope ∧
          build .accessToken (parent.accessMembers (ids.next supply) life scope) = .ok token := by
  simp only [deriveAccess, Draw.run_bind_eq_ok_iff, Draw.run_ofResult, Prod.mk.injEq,
    run_inherit_eq_ok_iff]
  constructor
  · intro parts
    obtain ⟨scope, _, ⟨narrowed, rfl⟩, members, _, ⟨kind, issued, expires, rfl, rfl⟩, built, rfl⟩ :=
      parts
    exact ⟨kind, issued, expires, rfl, scope, narrowed, built⟩
  · intro parts
    obtain ⟨kind, issued, expires, rfl, scope, narrowed, built⟩ := parts
    exact ⟨scope, _, ⟨narrowed, rfl⟩, _, _, ⟨kind, issued, expires, rfl, rfl⟩, built, rfl⟩

/-- **Deriving a refresh token** that inherits the scope draws one id and builds its members. -/
theorem run_deriveRefresh_eq_ok_iff {life : Lifetime} {ids : IdSource}
    {supply last : Supply} {token : Token} :
    (parent.deriveRefresh .inherit life (some ids)).run supply = (.ok token, last) ↔
      parent.kind ≠ .accessToken ∧ ClaimSet.isNull life.issuedAt = false ∧
        ClaimSet.isNull life.expiresAt = false ∧ last = supply.afterId ids ∧
        build .refreshToken (parent.refreshMembers (ids.next supply) life) = .ok token := by
  simp only [deriveRefresh, Draw.run_bind_eq_ok_iff, Draw.run_ofResult, Prod.mk.injEq,
    run_inherit_eq_ok_iff]
  constructor
  · intro parts
    obtain ⟨scope, _, ⟨narrowed, rfl⟩, members, _, ⟨kind, issued, expires, rfl, rfl⟩, built, rfl⟩ :=
      parts
    cases narrowed
    exact ⟨kind, issued, expires, rfl, built⟩
  · intro parts
    obtain ⟨kind, issued, expires, rfl, built⟩ := parts
    exact ⟨_, _, ⟨rfl, rfl⟩, _, _, ⟨kind, issued, expires, rfl, rfl⟩, built, rfl⟩

end Runs

end Token
end SealedGrant
