import Mathlib
import SealedGrant.Proofs.Scope
import SealedGrant.Proofs.Token.Minting
import SealedGrant.Proofs.Token.Opened

/-! # What a derivation comes to

A derivation is judged in two steps. A request that names an item beyond the parent's scope is
refused for its scope, whatever else is wrong (`SealedGrant.Token.exists_narrow_error`); all others
narrow the scope to what they name (`SealedGrant.Token.narrow_eq_ok`). Then the parent must not be
an access token and the times must be in order; and with that every checked parent has a child,
since what is inherited is right for every kind (`SealedGrant.Token.continues_derivedMembers`). The
child has the fresh members, the parent's inherited and kept ones, and no others
(`SealedGrant.Token.get?_derivedMembers`).
-/

namespace SealedGrant

/-- The items that a request names; it names none when it inherits the scope. -/
def ScopeRequest.asked : ScopeRequest → List String
  | .inherit => []
  | .text scope => Scope.items scope
  | .items scope => scope

/-- The scope that a request obtains: the parent's own text, or the items in the order of their
first occurrences with single spaces between. -/
def ScopeRequest.granted (request : ScopeRequest) (parent : Token) : String :=
  match request with
  | .inherit => parent.scopeText
  | .text _ | .items _ => " ".intercalate request.asked.eraseDups

/-- The items that a request makes of a scope: those that it names, or all of them. -/
def ScopeRequest.listed (request : ScopeRequest) (scope : List String) : List String :=
  match request with
  | .inherit => scope
  | .text _ | .items _ => request.asked

namespace Token

variable {parent : Token} {request : ScopeRequest}

/-- What is wanted of a request: the items that it names, each once. -/
theorem mem_wanted_iff {items : List String} (wanted : wanted? request = some items)
    {item : String} : item ∈ items ↔ item ∈ request.asked := by
  cases request with
  | inherit => cases wanted
  | text scope =>
    cases wanted
    rfl
  | items scope =>
    cases wanted
    exact List.mem_eraseDups

/-- **A request beyond the parent's scope is refused**, whatever the parent and the times are. -/
theorem exists_narrow_error (beyond : ∃ item ∈ request.asked, item ∉ parent.scope) :
    ∃ extra, parent.narrow request = .error (.fault (.scope extra)) := by
  obtain ⟨item, asked, outside⟩ := beyond
  unfold narrow
  cases wanted : wanted? request with
  | none =>
    cases request with
    | inherit => cases asked
    | text scope => cases wanted
    | items scope => cases wanted
  | some items =>
    have extra : ¬ (items.filter fun item => !parent.scope.contains item).isEmpty = true := by
      rw [List.isEmpty_iff, List.filter_eq_nil_iff]
      intro within
      exact within item ((mem_wanted_iff wanted).mpr asked) (by simpa using outside)
    exact ⟨_, if_neg extra⟩

/-- **A request within the parent's scope is granted** as it is named. -/
theorem narrow_eq_ok (within : ∀ item ∈ request.asked, item ∈ parent.scope) :
    parent.narrow request = .ok (request.granted parent) := by
  unfold narrow
  cases wanted : wanted? request with
  | none =>
    cases request with
    | inherit => rfl
    | text scope => cases wanted
    | items scope => cases wanted
  | some items =>
    have inside : ∀ item ∈ items, item ∈ parent.scope :=
      fun item member => within item ((mem_wanted_iff wanted).mp member)
    have no_extra : (items.filter fun item => !parent.scope.contains item).isEmpty = true := by
      rw [List.isEmpty_iff, List.filter_eq_nil_iff]
      intro item member
      simpa using inside item member
    -- the items of a scope are not empty, so none is dropped
    have filled : items.filter (· ≠ "") = items := by
      rw [List.filter_eq_self]
      intro item member
      exact decide_eq_true (Scope.forall_mem_items _ item (inside item member)).1
    have text : Scope.text items = request.granted parent := by
      rw [Scope.text, filled]
      cases request with
      | inherit => cases wanted
      | text scope =>
        cases wanted
        rfl
      | items scope =>
        cases wanted
        rw [Scope.eraseDups_of_nodup (Scope.nodup_eraseDups scope)]
        rfl
    exact (if_pos no_extra).trans (congrArg Except.ok text)

theorem narrow_eq_ok_iff {scope : String} :
    parent.narrow request = .ok scope ↔
      (∀ item ∈ request.asked, item ∈ parent.scope) ∧ request.granted parent = scope := by
  by_cases within : ∀ item ∈ request.asked, item ∈ parent.scope
  · rw [narrow_eq_ok within, Except.ok.injEq]
    exact (and_iff_right within).symm
  · refine iff_of_false ?_ fun both => within both.1
    push Not at within
    obtain ⟨extra, refused⟩ := exists_narrow_error within
    rw [refused]
    exact nofun

/-- **What is granted reads as it was asked for**: the first occurrences of the items that the
request names, or the parent's scope. -/
theorem firstOccurrences_of_narrow {scope : String} (narrowed : parent.narrow request = .ok scope) :
    Scope.FirstOccurrences (request.listed parent.scope) (Scope.items scope) := by
  obtain ⟨within, rfl⟩ := narrow_eq_ok_iff.mp narrowed
  have named : Scope.FirstOccurrences request.asked
      (Scope.items (" ".intercalate request.asked.eraseDups)) := by
    have each : ∀ item ∈ request.asked.eraseDups, item ≠ "" ∧ Scope.IsSolid item := by
      intro item member
      exact Scope.forall_mem_items _ item (within item (List.mem_eraseDups.mp member))
    rw [Scope.items_intercalate each, Scope.eraseDups_of_nodup (Scope.nodup_eraseDups _)]
    exact Scope.firstOccurrences_eraseDups _
  cases request with
  | inherit => exact Scope.firstOccurrences_of_nodup (Scope.nodup_items _)
  | text scope => exact named
  | items scope => exact named

/-- **A derived scope is within the parent's.** -/
theorem items_subset_of_narrow {scope : String} (narrowed : parent.narrow request = .ok scope) :
    Scope.items scope ⊆ parent.scope := by
  intro item member
  have listed := ((firstOccurrences_of_narrow narrowed).mem_iff item).mp member
  obtain ⟨within, -⟩ := narrow_eq_ok_iff.mp narrowed
  cases request with
  | inherit => exact listed
  | text scope => exact within item listed
  | items scope => exact within item listed

/-! ## The common form of the two derivations -/

/-- What a derivation comes to that keeps some more members than the inherited ones. -/
def derived (parent : Token) (kind : TokenKind) (request : ScopeRequest) (life : Lifetime)
    (id : String) (kept : Members) : Except Failure Token :=
  match parent.narrow request with
  | .error cause => .error cause
  | .ok scope =>
      if parent.kind = .accessToken then .error (.fault (.build (.fromAccessToken kind)))
      else build kind
        (parent.carried inheritedClaims ++ freshMembers kind id life scope ++ kept)

theorem run_inherit (kind : TokenKind) (scope : String) (now expires : ℤ) (ids : IdSource)
    (supply : Supply) :
    (parent.inherit kind scope (.whole now expires) (some ids)).run supply =
      if parent.kind = .accessToken then
        (.error (.fault (.build (.fromAccessToken kind))), supply)
      else (.ok (parent.carried inheritedClaims ++
        freshMembers kind (ids.next supply) (.whole now expires) scope), supply.afterId ids) := by
  unfold inherit
  by_cases access : parent.kind = .accessToken
  · rw [if_pos access, if_pos access, Draw.run_throw]
  · rw [if_neg access, if_neg access]
    rfl

theorem deriveAccess_eq_derived (now expires : ℤ) (ids : IdSource) (withAcr : Bool)
    (supply : Supply) :
    ((parent.deriveAccess request (.whole now expires) (some ids) withAcr).run supply).1 =
      parent.derived .accessToken request (.whole now expires) (ids.next supply)
        (parent.acrIfAny withAcr ++ parent.carried [.delivery, .deliveryUi]) := by
  rw [deriveAccess, derived, Draw.run_bind, Draw.run_ofResult]
  cases parent.narrow request with
  | error cause => rfl
  | ok scope =>
    simp only [Draw.run_bind, run_inherit]
    by_cases access : parent.kind = .accessToken
    · rw [if_pos access, if_pos access]
    · rw [if_neg access, if_neg access, ← List.append_assoc]
      rfl

theorem deriveRefresh_eq_derived (now expires : ℤ) (ids : IdSource) (supply : Supply) :
    ((parent.deriveRefresh request (.whole now expires) (some ids)).run supply).1 =
      parent.derived .refreshToken request (.whole now expires) (ids.next supply)
        parent.acrAlways := by
  rw [deriveRefresh, derived, Draw.run_bind, Draw.run_ofResult]
  cases parent.narrow request with
  | error cause => rfl
  | ok scope =>
    simp only [Draw.run_bind, run_inherit]
    by_cases access : parent.kind = .accessToken
    · rw [if_pos access, if_pos access]
    · rw [if_neg access, if_neg access]
      rfl

/-- Claims that a kind of derived token keeps besides the inherited ones: they are no fresh ones,
belong to the kind, and all that the kind demands is among them. -/
structure Suits (kind : TokenKind) (kept : List Claim) : Prop where
  apart : (inheritedClaims ++ freshClaims ++ kept).Nodup
  allowed : ∀ claim ∈ kept, claim.presence kind ≠ .forbidden
  demanded : ∀ claim ∉ inheritedClaims ++ freshClaims, claim.presence kind = .required →
    claim ∈ kept
  unbound : Claim.codeChallenge ∉ kept

theorem suits_accessToken (withAcr : Bool) :
    Suits .accessToken ((if withAcr then [.acr] else []) ++ [.delivery, .deliveryUi]) where
  apart := by cases withAcr <;> decide
  allowed := by cases withAcr <;> decide
  demanded claim := by cases claim <;> cases withAcr <;> decide
  unbound := by cases withAcr <;> decide

theorem suits_refreshToken : Suits .refreshToken [.acr] where
  apart := by decide
  allowed := by decide
  demanded claim := by cases claim <;> decide
  unbound := by decide

/-- The members of a derived token. -/
def derivedMembers (parent : Token) (kind : TokenKind) (id : String) (life : Lifetime)
    (scope : String) (kept : List Claim) : Members :=
  parent.carried inheritedClaims ++ freshMembers kind id life scope ++ parent.carried kept

section Derived

variable {kind : TokenKind} {kept : List Claim} (suits : Suits kind kept)

include suits

theorem Suits.not_mem_freshClaims {claim : Claim} (member : claim ∈ inheritedClaims ++ kept) :
    claim ∉ freshClaims := by
  intro fresh
  obtain ⟨first, -, later⟩ := List.nodup_append.mp suits.apart
  rcases List.mem_append.mp member with inherited | keeps
  · exact (List.nodup_append.mp first).2.2 claim inherited claim fresh rfl
  · exact later claim (List.mem_append_right _ fresh) claim keeps rfl

omit suits in
theorem fresh?_of_not_mem {id scope : String} {life : Lifetime} {claim : Claim}
    (other : claim ∉ freshClaims) : fresh? kind id life scope claim = none := by
  revert other
  cases claim <;> simp [freshClaims, fresh?]

/-- **A derived token, claim by claim.** -/
theorem get?_derivedMembers (id : String) (life : Lifetime) (scope : String) (claim : Claim) :
    (parent.derivedMembers kind id life scope kept).get? claim.name =
      if claim ∈ inheritedClaims ++ kept then parent.claims.members.get? claim.name
      else fresh? kind id life scope claim := by
  rw [derivedMembers, Members.get?_append, Members.get?_append, get?_carried, get?_carried,
    get?_freshMembers]
  by_cases member : claim ∈ inheritedClaims ++ kept
  · rw [if_pos member, fresh?_of_not_mem (suits.not_mem_freshClaims member), Option.or_none]
    by_cases inherited : claim ∈ inheritedClaims
    · rw [if_pos inherited]
      cases parent.claims.members.get? claim.name <;> simp
    · have keeps := (List.mem_append.mp member).resolve_left inherited
      rw [if_neg inherited, if_pos keeps, Option.none_or]
  · obtain ⟨inherited, keeps⟩ := not_or.mp (List.mem_append.not.mp member)
    rw [if_neg member, if_neg inherited, if_neg keeps, Option.none_or, Option.or_none]

omit suits in
theorem names_derivedMembers (id : String) (life : Lifetime) (scope : String) :
    (parent.derivedMembers kind id life scope kept).names.Sublist
      ((inheritedClaims ++ freshClaims ++ kept).map Claim.name) := by
  rw [derivedMembers, names_append, names_append, names_freshMembers, List.map_append,
    List.map_append]
  exact ((parent.names_carried _).append (List.Sublist.refl _)).append (parent.names_carried _)

theorem nodup_derivedMembers (id : String) (life : Lifetime) (scope : String) :
    (parent.derivedMembers kind id life scope kept).names.Nodup :=
  (names_derivedMembers id life scope).nodup (nodup_names _ suits.apart)

omit suits in
/-- What a kind demands, every parent that can have children carries too. -/
theorem required_of_required {claim : Claim} (required : claim.presence kind = .required)
    (parentKind : parent.kind ≠ .accessToken) : claim.presence parent.kind = .required := by
  revert required parentKind
  cases claim <;> cases kind <;> cases parent.kind <;> decide

variable (formed : parent.WellFormed)

include formed

/-- **What is derived continues its parent**: what is inherited and kept is right for the kind. -/
theorem continues_derivedMembers (parentKind : parent.kind ≠ .accessToken) (id scope : String)
    (now expires : ℤ) :
    Continues parent kind (parent.derivedMembers kind id (.whole now expires) scope kept) id now
      expires scope where
  distinct := nodup_derivedMembers suits _ _ _
  inherited claim member := by
    rw [get?_derivedMembers suits, if_pos (List.mem_append_left _ member)]
  fresh claim member := by
    rw [get?_derivedMembers suits, if_neg fun kept => suits.not_mem_freshClaims kept member]
  others claim other value found := by
    obtain ⟨inherited, fresh⟩ := not_or.mp (List.mem_append.not.mp other)
    rw [get?_derivedMembers suits] at found
    split at found
    · next member =>
      obtain ⟨present, -, fits⟩ := fits_parent formed found
      have keeps := (List.mem_append.mp member).resolve_left inherited
      exact ClaimSet.memberFault?_eq_none_iff.mpr ⟨present, suits.allowed claim keeps, fits⟩
    · rw [fresh?_of_not_mem fresh] at found
      cases found
  demanded claim other required := by
    have keeps := suits.demanded claim other required
    rw [get?_derivedMembers suits, if_pos (List.mem_append_right _ keeps)]
    exact formed.follows.present claim (required_of_required required parentKind)
  unbound := by
    rw [get?_derivedMembers suits]
    have other : Claim.codeChallenge ∉ inheritedClaims ++ kept := by
      rw [List.mem_append]
      exact fun member => member.elim (by decide) suits.unbound
    rw [if_neg other]
    rfl

omit suits in
theorem allNumbers_derivedMembers {holds : Number → Bool} {id scope : String} {now expires : ℤ}
    (all : (Json.object parent.claims.members).allNumbers holds = true)
    (nowHolds : holds (.int now) = true) (expiresHolds : holds (.int expires) = true) :
    (Json.object (parent.derivedMembers kind id (.whole now expires) scope kept)).allNumbers
      holds = true := by
  have inherited := allNumbers_carried formed all inheritedClaims
  have keeps := allNumbers_carried formed all kept
  rw [Json.allNumbersOf_eq_all] at inherited keeps
  rw [Json.allNumbers, Json.allNumbersOf_eq_all, derivedMembers, List.all_append, List.all_append,
    inherited, keeps]
  simp only [freshMembers, Lifetime.whole, List.all_cons, Json.allNumbers, nowHolds, expiresHolds,
    List.all_nil, Bool.and_self]

end Derived

/-- A number that has few enough digits can be written. -/
theorem isWritable_of_lt_pow {n : ℕ} (below : n < 10 ^ Text.digitLimit) :
    Json.isWritable (.int n) = true := by
  have limit (digits : ℕ) : 10 ^ digits = Nat.pow 10 digits := rfl
  have short : (n : ℤ).natAbs < Nat.pow 10 Text.digitLimit := by
    rw [Int.natAbs_natCast, ← limit]
    exact below
  unfold Json.isWritable
  exact decide_eq_true short

/-! ## The outcome -/

/-- A token of a kind that cannot be built is refused as an invalid argument. -/
theorem exists_build_error {kind : TokenKind} {members : Members}
    (kind_eq : ClaimSet.value ⟨members⟩ .kind = .string kind.code)
    (refused : ∀ token, build kind members ≠ .ok token) :
    ∃ cause, build kind members = .error (.fault (.build cause)) := by
  unfold build at refused ⊢
  cases checked : ClaimSet.ofChecked members with
  | error cause =>
    cases cause with
    | check cause => cases cause <;> exact ⟨_, rfl⟩
    | unwritable => exact ⟨_, rfl⟩
  | ok claims =>
    obtain ⟨rfl, -⟩ := ClaimSet.ofChecked_eq_ok_iff.mp checked
    have named : ClaimSet.kind? ⟨members⟩ = some kind := by
      rw [ClaimSet.kind?, ClaimSet.text?, kind_eq]
      exact TokenKind.ofCode?_code kind
    rw [checked] at refused
    have made : ofClaims kind ⟨members⟩ = .ok ⟨kind, ⟨members⟩, named⟩ :=
      ofClaims_eq_ok_iff.mpr ⟨rfl, rfl⟩
    exact absurd made (refused _)

/-- **What a token inherits and nothing else**: the fresh members, the inherited and the kept ones
of its parent, present or absent as they are there, and no others. -/
structure Descends (parent token : Token) (kind : TokenKind) (request : ScopeRequest) (id : String)
    (now expires : ℕ) (kept : List String) : Prop where
  checked : token.WellFormed
  kind_eq : token.kind = kind
  type : token.claims.members.get? "type" = some (.string kind.code)
  id : token.claims.members.get? "jti" = some (.string id)
  issued : token.claims.members.get? "iat" = some (.number (.int now))
  expires : token.claims.members.get? "exp" = some (.number (.int expires))
  scope : token.claims.members.get? "scope" = some (.string (request.granted parent))
  inherited : ∀ name ∈ ["iss", "sub", "principal", "aud", "nonce", "auth_time", "redirect_uri",
      "claims", "cnsntl_claims", "cnsntd_claims"] ++ kept,
    token.claims.members.get? name = parent.claims.members.get? name
  nothing : ∀ name ∉ ["iss", "sub", "principal", "aud", "nonce", "auth_time", "redirect_uri",
      "claims", "cnsntl_claims", "cnsntd_claims"] ++ ["type", "jti", "iat", "exp", "scope"] ++ kept,
    token.claims.members.get? name = none

/-- **When a derivation succeeds and what it makes.** It is refused for its scope exactly when the
request goes beyond the parent's; otherwise as an invalid argument exactly when the parent is an
access token or the times are out of order; and otherwise a token comes of it. -/
structure Decides (parent : Token) (kind : TokenKind) (request : ScopeRequest) (id : String)
    (now expires : ℕ) (kept : List String) (outcome : Except Failure Token) : Prop where
  exceeds : (∃ extra, outcome = .error (.fault (.scope extra))) ↔
    ∃ item ∈ request.asked, item ∉ parent.scope
  refused : (∀ item ∈ request.asked, item ∈ parent.scope) →
    ((∃ cause, outcome = .error (.fault (.build cause))) ↔
      parent.kind = .accessToken ∨ ¬ (parent.authTime ≤ now ∧ now ≤ expires))
  granted : (∀ item ∈ request.asked, item ∈ parent.scope) → parent.kind ≠ .accessToken →
    parent.authTime ≤ now → now ≤ expires →
      ∃ token, outcome = .ok token ∧ Descends parent token kind request id now expires kept

section Decides

variable {kind : TokenKind} {kept : List Claim} (suits : Suits kind kept)
  (formed : parent.WellFormed)

include suits

theorem descends_of_build {id : String} {now expires : ℕ} {token : Token}
    (built : build kind (parent.derivedMembers kind id (.whole now expires)
      (request.granted parent) kept) = .ok token) :
    Descends parent token kind request id now expires (kept.map Claim.name) := by
  obtain ⟨rfl, claims, follows, writable⟩ := build_eq_ok_iff.mp built
  have fresh (claim : Claim) (member : claim ∈ freshClaims) :
      token.claims.members.get? claim.name =
        fresh? token.kind id (.whole now expires) (request.granted parent) claim := by
    rw [claims, get?_derivedMembers suits,
      if_neg fun kept => suits.not_mem_freshClaims kept member]
  have distinct : token.claims.members.names.Nodup := by
    rw [claims]
    exact nodup_derivedMembers suits _ _ _
  exact {
    checked := ⟨distinct, by rwa [claims], by rwa [claims]⟩
    kind_eq := rfl
    type := fresh .kind (by decide)
    id := fresh .id (by decide)
    issued := fresh .issuedAt (by decide)
    expires := fresh .expiresAt (by decide)
    scope := fresh .scope (by decide)
    inherited := by
      intro name member
      have among : name ∈ (inheritedClaims ++ kept).map Claim.name := by
        rw [List.map_append]
        exact member
      obtain ⟨claim, listed, rfl⟩ := List.mem_map.mp among
      rw [claims, get?_derivedMembers suits, if_pos listed]
    nothing := by
      intro name other
      have outside : name ∉ (inheritedClaims ++ freshClaims ++ kept).map Claim.name := by
        rw [List.map_append, List.map_append]
        exact other
      rw [claims]
      apply Members.get?_eq_none_of_not_mem
      exact fun member => outside ((names_derivedMembers _ _ _).subset member) }

include formed

/-- A parent that can have children has one whenever the times are in order. -/
theorem exists_build_derived_iff (parentKind : parent.kind ≠ .accessToken) {id scope : String}
    {now expires : ℕ} (nowShort : now < 10 ^ Text.digitLimit)
    (expiresShort : expires < 10 ^ Text.digitLimit) :
    (∃ token, build kind (parent.derivedMembers kind id (.whole now expires) scope kept) =
      .ok token) ↔ parent.authTime ≤ now ∧ now ≤ expires := by
  have continues := continues_derivedMembers suits formed parentKind id scope now expires
  have ordered := follows_iff_of_continues formed continues
  have writable : (Json.object (parent.derivedMembers kind id (.whole now expires) scope
      kept)).allNumbers Json.isWritable = true :=
    allNumbers_derivedMembers formed formed.writable (isWritable_of_lt_pow nowShort)
      (isWritable_of_lt_pow expiresShort)
  constructor
  · rintro ⟨token, built⟩
    obtain ⟨-, le_expires, authTime_le⟩ := ordered.mp (build_eq_ok_iff.mp built).2.2.1
    exact ⟨authTime_le, Int.ofNat_le.mp le_expires⟩
  · rintro ⟨authTime_le, le_expires⟩
    refine exists_build (ordered.mpr ⟨Int.natCast_nonneg now, ?_, authTime_le⟩) writable
    exact Int.ofNat_le.mpr le_expires

/-- **The decision over a derivation** that keeps suitable members. -/
theorem decides_derived {id : String} {now expires : ℕ}
    (nowShort : now < 10 ^ Text.digitLimit) (expiresShort : expires < 10 ^ Text.digitLimit)
    {extra : Members} (same : parent.kind ≠ .accessToken → extra = parent.carried kept) :
    Decides parent kind request id now expires (kept.map Claim.name)
      (parent.derived kind request (.whole now expires) id extra) := by
  by_cases within : ∀ item ∈ request.asked, item ∈ parent.scope
  · have inside : ¬ ∃ item ∈ request.asked, item ∉ parent.scope := by
      rintro ⟨item, asked, outside⟩
      exact outside (within item asked)
    unfold derived
    rw [narrow_eq_ok within]
    by_cases access : parent.kind = .accessToken
    · simp only [access, ↓reduceIte]
      exact ⟨iff_of_false (by rintro ⟨extra, same⟩; cases same) inside,
        fun _ => iff_of_true ⟨_, rfl⟩ (Or.inl access), fun _ other => absurd access other⟩
    · simp only [access, ↓reduceIte, same access]
      have possible : (∃ token, build kind (parent.derivedMembers kind id (.whole now expires)
          (request.granted parent) kept) = .ok token) ↔ parent.authTime ≤ now ∧ now ≤ expires :=
        exists_build_derived_iff suits formed access nowShort expiresShort
      have kind_eq : ClaimSet.value
          ⟨parent.derivedMembers kind id (.whole now expires) (request.granted parent) kept⟩
            .kind = .string kind.code := by
        rw [value_eq, get?_derivedMembers suits,
          if_neg fun kept => suits.not_mem_freshClaims kept (by decide)]
        rfl
      rw [← derivedMembers]
      by_cases built : ∃ token, build kind (parent.derivedMembers kind id (.whole now expires)
          (request.granted parent) kept) = .ok token
      · have ordered := possible.mp built
        obtain ⟨token, made⟩ := built
        rw [made]
        refine ⟨iff_of_false (by rintro ⟨extra, same⟩; cases same) inside, fun _ =>
          iff_of_false (by rintro ⟨cause, same⟩; cases same) ?_, fun _ _ _ _ =>
            ⟨token, rfl, descends_of_build suits made⟩⟩
        exact not_or.mpr ⟨access, not_not.mpr ordered⟩
      · have disordered := mt possible.mpr built
        obtain ⟨cause, refused⟩ := exists_build_error kind_eq (not_exists.mp built)
        rw [refused]
        exact ⟨iff_of_false (by rintro ⟨extra, same⟩; cases same) inside,
          fun _ => iff_of_true ⟨cause, rfl⟩ (Or.inr disordered),
          fun _ _ authTime_le le_expires => absurd ⟨authTime_le, le_expires⟩ disordered⟩
  · have beyond : ∃ item ∈ request.asked, item ∉ parent.scope := by
      push Not at within
      exact within
    obtain ⟨extra, refused⟩ := exists_narrow_error beyond
    unfold derived
    rw [refused]
    exact ⟨iff_of_true ⟨extra, rfl⟩ beyond, fun inside => absurd inside within,
      fun inside => absurd inside within⟩

end Decides

theorem carried_append (first second : List Claim) :
    parent.carried (first ++ second) = parent.carried first ++ parent.carried second :=
  List.filterMap_append

/-- The context class of a checked parent is carried over as it is. -/
theorem acrIfAny_eq_carried (formed : parent.WellFormed) (withAcr : Bool) :
    parent.acrIfAny withAcr = parent.carried (if withAcr then [.acr] else []) := by
  have member : parent.claims.members.get? Claim.acr.name = parent.acr?.map .string :=
    get?_eq_map_text? formed rfl
  unfold acrIfAny carried
  cases withAcr with
  | true =>
    rw [if_pos rfl, List.filterMap_cons, member]
    cases parent.acr? <;> rfl
  | false => cases parent.acr? <;> rfl

theorem acrAlways_eq_carried (formed : parent.WellFormed)
    (parentKind : parent.kind ≠ .accessToken) : parent.acrAlways = parent.carried [.acr] := by
  have member : parent.claims.members.get? Claim.acr.name = parent.acr?.map .string :=
    get?_eq_map_text? formed rfl
  obtain ⟨acr, present⟩ := acr?_of_ne_accessToken formed parentKind
  unfold acrAlways carried
  rw [List.filterMap_cons, member, present]
  rfl

/-- **Derivations succeed exactly when they should, and make exactly what they may.** For every
checked parent, every request for a scope, every two times and every source of ids, deriving an
access token and deriving a refresh token are decided by the scope, the parent's kind and the times
alone. The access token keeps the context class if that is asked for, and what is delivered to both
consumers and to UserInfo; the refresh token keeps the context class. -/
theorem derivations_are_decided (formed : parent.WellFormed) (request : ScopeRequest)
    {now expires : ℕ} (nowShort : now < 10 ^ Text.digitLimit)
    (expiresShort : expires < 10 ^ Text.digitLimit) (ids : IdSource) (supply : Supply) :
    (∀ withAcr : Bool, Decides parent .accessToken request (ids.next supply) now expires
      ((if withAcr then ["acr"] else []) ++ ["dl_claims", "dl_claims_ui"])
      ((parent.deriveAccess request (.whole now expires) (some ids) withAcr).run supply).1) ∧
    Decides parent .refreshToken request (ids.next supply) now expires ["acr"]
      ((parent.deriveRefresh request (.whole now expires) (some ids)).run supply).1 := by
  constructor
  · intro withAcr
    have keeps : parent.acrIfAny withAcr ++ parent.carried [.delivery, .deliveryUi] =
        parent.carried ((if withAcr then [.acr] else []) ++ [.delivery, .deliveryUi]) := by
      rw [carried_append, acrIfAny_eq_carried formed]
    have names : (if withAcr then ["acr"] else []) ++ ["dl_claims", "dl_claims_ui"] =
        ((if withAcr then [Claim.acr] else []) ++
          [Claim.delivery, .deliveryUi]).map Claim.name := by
      cases withAcr <;> rfl
    rw [deriveAccess_eq_derived, names]
    exact decides_derived (suits_accessToken withAcr) formed nowShort expiresShort fun _ => keeps
  · rw [deriveRefresh_eq_derived]
    exact decides_derived suits_refreshToken formed nowShort expiresShort
      (acrAlways_eq_carried formed)

theorem lt_pow_digitLimit {n : ℕ} (small : n < 10 ^ 20) : n < 10 ^ Text.digitLimit :=
  small.trans_le (Nat.pow_le_pow_right (by norm_num) (by decide))

/-- An access token of the code for a part of its scope, asked for twice; and no refresh token for
more than its scope. -/
theorem derivations_are_decided_sample :
    (∃ token, ((Sample.code.deriveAccess (.items ["write", "write"]) (.whole (1700000010 : ℕ)
        (1700000020 : ℕ)) (some .numbered) true).run .fresh).1 = .ok token ∧
      token.claims.members.get? "scope" = some (.string "write") ∧
      token.claims.members.get? "jti" = some (.string "id-1") ∧
      token.claims.members.get? "code_challenge" = none) ∧
    ∃ extra, ((Sample.code.deriveRefresh (.text "read all") (.whole (1700000010 : ℕ)
      (1700000020 : ℕ)) (some .numbered)).run .fresh).1 = .error (.fault (.scope extra)) := by
  have nowShort : 1700000010 < 10 ^ Text.digitLimit := lt_pow_digitLimit (by norm_num)
  have expiresShort : 1700000020 < 10 ^ Text.digitLimit := lt_pow_digitLimit (by norm_num)
  constructor
  · obtain ⟨token, made, descends⟩ := ((derivations_are_decided Sample.wellFormed_code
      (.items ["write", "write"]) nowShort expiresShort .numbered .fresh).1 true).granted
        (by decide) (by decide) (by decide) (by decide)
    exact ⟨token, made, descends.scope, descends.id, descends.nothing "code_challenge" (by decide)⟩
  · exact (derivations_are_decided Sample.wellFormed_code (.text "read all") nowShort expiresShort
      .numbered .fresh).2.exceeds.mpr ⟨"all", by decide, by decide⟩

end Token
end SealedGrant
