import Mathlib
import SealedGrant.Grant.Context
import SealedGrant.Proofs.ClaimSet.Schema
import SealedGrant.Proofs.KeyRing.Opening

/-! # Sealed tokens

A token that follows its schema is sealed as canonical text. What opens is the same token with
canonical members (`SealedGrant.Token.holds_of_sealedBy`): all that the service reads of a token is
read alike from both. A text holds at most one token under a secret
(`SealedGrant.Token.Holds.unique`), and a ring opens it as that token or not at all
(`SealedGrant.Token.ofSealed_eq_ok_iff`).
-/

namespace SealedGrant

/-- Whole numbers of eight bytes can be written. -/
theorem Json.isWritable_of_lt {n : ℤ} (nonneg : 0 ≤ n) (small : n < KeyRing.expiryLimit) :
    Json.isWritable (.int n) = true := by
  have limit : KeyRing.expiryLimit ≤ 10 ^ 20 := by
    unfold KeyRing.expiryLimit
    norm_num
  have few : 20 ≤ Text.digitLimit := by
    unfold Text.digitLimit
    omega
  have short : (Nat.toDigits 10 n.natAbs).length ≤ 20 :=
    (Nat.length_toDigits_le_iff (by norm_num) (by norm_num)).mpr (by omega)
  exact (Json.isReadable_iff (n := .int n).mp (decide_eq_true (short.trans few))).2

namespace Token

theorem isExpired_eq (token : Token) (now skew : Number) :
    token.isExpired now skew =
      ((Number.int token.expiresAt).sum skew).map fun last => last.le now := by
  unfold isExpired
  cases (Number.int token.expiresAt).sum skew <;> rfl

/-- A token that was checked: its members have different names, follow the schema of its kind and
can be written. -/
structure WellFormed (token : Token) : Prop where
  distinct : token.claims.members.names.Nodup
  follows : token.claims.Follows token.kind
  writable : (Json.object token.claims.members).allNumbers Json.isWritable = true

/-- A token is determined by its claims. -/
theorem eq_of_claims {first second : Token} (same : first.claims = second.claims) :
    first = second := by
  obtain ⟨kind₁, claims₁, kind_eq₁⟩ := first
  obtain ⟨kind₂, claims₂, kind_eq₂⟩ := second
  simp only at same
  subst same
  rw [kind_eq₁] at kind_eq₂
  cases kind_eq₂
  rfl

theorem kind?_eq_some_of_follows {claims : ClaimSet} {kind : TokenKind}
    (follows : claims.Follows kind) : claims.kind? = some kind := by
  simp only [ClaimSet.kind?, ClaimSet.text?, follows.kind_eq, Json.string?, Option.bind_some,
    TokenKind.ofCode?_code]

theorem ofClaims_eq_ok_iff {kind : TokenKind} {claims : ClaimSet} {token : Token} :
    ofClaims kind claims = .ok token ↔ token.kind = kind ∧ token.claims = claims := by
  unfold ofClaims
  split
  · next kind_eq =>
    constructor
    · intro same
      cases same
      exact ⟨rfl, rfl⟩
    · rintro ⟨-, rfl⟩
      exact congrArg Except.ok (eq_of_claims rfl)
  · next other =>
    have differs : ¬ (token.kind = kind ∧ token.claims = claims) := by
      rintro ⟨rfl, rfl⟩
      exact other token.kind_eq
    refine iff_of_false ?_ differs
    split <;> simp

/-- **A token is built** exactly from members that follow the schema and can be written. -/
theorem build_eq_ok_iff {kind : TokenKind} {members : Members} {token : Token} :
    build kind members = .ok token ↔
      token.kind = kind ∧ token.claims = ⟨members⟩ ∧ ClaimSet.Follows ⟨members⟩ kind ∧
        (Json.object members).allNumbers Json.isWritable = true := by
  unfold build
  cases checked : ClaimSet.ofChecked members with
  | error cause =>
    have refused : ¬ (ClaimSet.Follows ⟨members⟩ kind ∧
        (Json.object members).allNumbers Json.isWritable = true) := by
      intro ⟨follows, writable⟩
      have accepted := ClaimSet.ofChecked_eq_ok_iff.mpr ⟨rfl, ⟨kind, follows⟩, writable⟩
      rw [checked] at accepted
      cases accepted
    refine iff_of_false ?_ fun built => refused built.2.2
    split
    · next claims same => cases same
    · simp
    · simp
    · simp
  | ok claims =>
    obtain ⟨rfl, ⟨found, follows⟩, writable⟩ := ClaimSet.ofChecked_eq_ok_iff.mp checked
    rw [ofClaims_eq_ok_iff]
    constructor
    · rintro ⟨rfl, same⟩
      have kind_eq := token.kind_eq
      rw [same, kind?_eq_some_of_follows follows] at kind_eq
      cases kind_eq
      exact ⟨rfl, same, follows, writable⟩
    · intro parts
      obtain ⟨same, claims, -, -⟩ := parts
      exact ⟨same, claims⟩

/-- Reading a token of a kind from bytes is reading its claim set. -/
theorem readBytes_eq_ok_iff {kind : TokenKind} {bytes : Bytes} {token : Token} :
    readBytes kind bytes = .ok token ↔
      token.kind = kind ∧ ClaimSet.decodeBytes bytes = .ok token.claims := by
  unfold readBytes ofRead
  split
  · next cause refused => simp [refused]
  · next refused => simp [refused]
  · next claims read =>
    rw [read]
    split
    · next kind_eq =>
      constructor
      · intro same
        cases same
        exact ⟨rfl, rfl⟩
      · rintro ⟨same, equal⟩
        exact congrArg Except.ok (eq_of_claims (Except.ok.inj equal))
    · next other =>
      simp only [reduceCtorEq, Except.ok.injEq, false_iff, not_and]
      rintro rfl rfl
      exact other token.kind_eq

/-- Bytes that are read as a token are refused as one of another kind. -/
theorem readBytes_of_ne {first kind : TokenKind} {bytes : Bytes} {token : Token}
    (read : readBytes first bytes = .ok token) (other : first ≠ kind) :
    ∃ found, readBytes kind bytes = .error (.fault (.claims (.otherKind kind found))) := by
  obtain ⟨rfl, claims⟩ := readBytes_eq_ok_iff.mp read
  have unlike : ¬ token.claims.kind? = some kind := by
    rw [token.kind_eq]
    exact fun same => other (Option.some.inj same)
  unfold readBytes ofRead
  rw [claims]
  exact ⟨_, dif_neg unlike⟩

theorem encode_of_serialize {token : Token} {text : String}
    (written : token.serialize = .ok text) : token.claims.encode = .ok text := by
  unfold serialize at written
  split at written
  · next encoded =>
    cases written
    exact encoded
  · cases written

/-- The token that is read back from the canonical text of a token. -/
def stored (token : Token) (formed : token.WellFormed) : Token where
  kind := token.kind
  claims := token.claims.stored
  kind_eq := (ClaimSet.kind?_stored formed.distinct).trans token.kind_eq

section Stored

variable {token : Token} (formed : token.WellFormed)

@[simp] theorem kind_stored : (token.stored formed).kind = token.kind := rfl

@[simp] theorem text_stored (claim : Claim) : (token.stored formed).text claim = token.text claim :=
  congrArg (·.getD "") (ClaimSet.text?_stored formed.distinct claim)

@[simp] theorem id_stored : (token.stored formed).id = token.id := text_stored formed .id

@[simp] theorem subject_stored : (token.stored formed).subject = token.subject :=
  text_stored formed .subject

@[simp] theorem redirectUri_stored : (token.stored formed).redirectUri = token.redirectUri :=
  text_stored formed .redirectUri

@[simp] theorem scopeText_stored : (token.stored formed).scopeText = token.scopeText :=
  text_stored formed .scope

@[simp] theorem scope_stored : (token.stored formed).scope = token.scope :=
  congrArg Scope.items (scopeText_stored formed)

@[simp] theorem issuedAt_stored : (token.stored formed).issuedAt = token.issuedAt :=
  ClaimSet.time_stored formed.distinct .issuedAt

@[simp] theorem expiresAt_stored : (token.stored formed).expiresAt = token.expiresAt :=
  ClaimSet.time_stored formed.distinct .expiresAt

@[simp] theorem authTime_stored : (token.stored formed).authTime = token.authTime :=
  ClaimSet.time_stored formed.distinct .authTime

@[simp] theorem acr?_stored : (token.stored formed).acr? = token.acr? :=
  ClaimSet.text?_stored formed.distinct .acr

@[simp] theorem challenge?_stored : (token.stored formed).challenge? = token.challenge? :=
  congrArg (·.bind CodeChallenge.ofText?)
    (ClaimSet.text?_stored formed.distinct .codeChallenge)

@[simp] theorem clientId_stored : (token.stored formed).clientId = token.clientId := by
  have value : (token.stored formed).claims.value .audience =
      (token.claims.value .audience).canon := ClaimSet.value_stored formed.distinct .audience
  unfold clientId
  rw [value]
  generalize token.claims.value .audience = audience
  cases audience with
  | array items =>
    cases items with
    | nil => rfl
    | cons item rest => cases item <;> rfl
  | null => rfl
  | bool value => rfl
  | number n => rfl
  | string text => rfl
  | object members => rfl

/-- **What is read back is checked too.** -/
theorem wellFormed_stored : (token.stored formed).WellFormed where
  distinct := by
    have perm := Json.canonMembers_perm formed.distinct
    change (Json.canonMembers token.claims.members).names.Nodup
    rw [Members.names, (perm.map Prod.fst).nodup_iff]
    have names := Members.names_map token.claims.members Json.canon
    rw [Members.names] at names
    rw [names]
    exact formed.distinct
  follows := formed.follows.stored formed.distinct
  writable := Json.allNumbers_canon formed.writable

/-- **A member keeps its canonical value.** -/
theorem get?_stored (name : String) : (token.stored formed).claims.members.get? name =
    (token.claims.members.get? name).map Json.canon :=
  Members.get?_canon formed.distinct name

/-- A token is read back from the bytes of its canonical text. -/
theorem readBytes_serialize {text : String} (written : token.serialize = .ok text) :
    readBytes token.kind (Utf8.encode text) = .ok (token.stored formed) :=
  readBytes_eq_ok_iff.mpr ⟨rfl, ClaimSet.decodeBytes_encode formed.distinct formed.follows
    (encode_of_serialize written)⟩

include formed in
/-- The bytes of a token's canonical text are refused as a token of another kind. -/
theorem readBytes_serialize_of_ne {text : String} (written : token.serialize = .ok text)
    {kind : TokenKind} (other : token.kind ≠ kind) :
    ∃ found, readBytes kind (Utf8.encode text) =
      .error (.fault (.claims (.otherKind kind found))) :=
  readBytes_of_ne (readBytes_serialize formed written) other

end Stored

/-- A text holds a token under the secret of a key id, until a time. -/
def Holds (id : String) (secret : Bytes) (text : String) (token : Token) (expiry : ℕ) : Prop :=
  ∃ bytes, KeyRing.Opens id secret text bytes expiry ∧ readBytes token.kind bytes = .ok token

theorem Holds.id_eq {id₁ id₂ text : String} {secret₁ secret₂ : Bytes} {first second : Token}
    {expiry₁ expiry₂ : ℕ} (holds₁ : Holds id₁ secret₁ text first expiry₁)
    (holds₂ : Holds id₂ secret₂ text second expiry₂) : id₁ = id₂ := by
  obtain ⟨_, opens₁, -⟩ := holds₁
  obtain ⟨_, opens₂, -⟩ := holds₂
  exact (opens₁.unique opens₂).1

/-- **A text holds one token under a secret.** -/
theorem Holds.unique {id₁ id₂ text : String} {secret : Bytes} {first second : Token}
    {expiry₁ expiry₂ : ℕ} (holds₁ : Holds id₁ secret text first expiry₁)
    (holds₂ : Holds id₂ secret text second expiry₂) : first = second := by
  obtain ⟨bytes₁, opens₁, read₁⟩ := holds₁
  obtain ⟨bytes₂, opens₂, read₂⟩ := holds₂
  obtain ⟨-, -, same⟩ := opens₁.unique opens₂
  rw [same rfl, readBytes_eq_ok_iff] at read₁
  rw [readBytes_eq_ok_iff] at read₂
  have claims := read₁.2.symm.trans read₂.2
  exact eq_of_claims (Except.ok.inj claims)

/-- **A ring opens a text as a token** exactly when one of its secrets does and the time is not
up. -/
theorem ofSealed_eq_ok_iff {ring : KeyRing} {skew now : Number} {kind : TokenKind} {text : String}
    {token : Token} :
    ofSealed ring skew now kind text = .ok token ↔
      token.kind = kind ∧ ∃ id secret expiry, ring.secret? id = some secret ∧
        Holds id secret text token expiry ∧ (Number.add (.int expiry) skew).le now = false := by
  have opened : ofSealed ring skew now kind text = .ok token ↔
      ∃ bytes, ring.unwrap skew now text = .ok bytes ∧ readBytes kind bytes = .ok token := by
    unfold ofSealed
    cases ring.unwrap skew now text <;> simp
  rw [opened]
  constructor
  · intro parts
    obtain ⟨bytes, unwrapped, read⟩ := parts
    obtain ⟨id, secret, expiry, bound, opens, alive⟩ := KeyRing.unwrap_eq_ok_iff.mp unwrapped
    obtain rfl := (readBytes_eq_ok_iff.mp read).1
    exact ⟨rfl, id, secret, expiry, bound, ⟨bytes, opens, read⟩, alive⟩
  · intro parts
    obtain ⟨rfl, id, secret, expiry, bound, ⟨bytes, opens, read⟩, alive⟩ := parts
    exact ⟨bytes, KeyRing.unwrap_eq_ok_iff.mpr ⟨id, secret, expiry, bound, opens, alive⟩, read⟩

theorem run_ofDefect {α : Type} (draw : Draw Defect α) (supply : Supply) :
    (ofDefect draw).run supply = ((draw.run supply).1.mapError .defect, (draw.run supply).2) :=
  rfl

theorem run_ofDefect_eq_ok_iff {α : Type} {draw : Draw Defect α} {supply last : Supply}
    {value : α} :
    (ofDefect draw).run supply = (.ok value, last) ↔ draw.run supply = (.ok value, last) := by
  rw [run_ofDefect]
  cases draw.run supply with
  | mk result later => cases result <;> simp [Except.mapError]

theorem run_sealedBy_eq_ok_iff {token : Token} {ring : KeyRing} {random : RandomSource}
    {supply last : Supply} {text : String} :
    (token.sealedBy ring random).run supply = (.ok text, last) ↔
      ∃ plain, token.serialize = .ok plain ∧
        (ring.wrap random (Utf8.encode plain) (.int token.expiresAt)).run supply =
          (.ok text, last) := by
  simp only [sealedBy, Draw.run_bind_eq_ok_iff, Draw.run_ofResult, Prod.mk.injEq]
  constructor
  · intro parts
    obtain ⟨plain, later, ⟨written, rfl⟩, wrapped⟩ := parts
    exact ⟨plain, written, run_ofDefect_eq_ok_iff.mp wrapped⟩
  · intro parts
    obtain ⟨plain, written, wrapped⟩ := parts
    exact ⟨plain, supply, ⟨written, rfl⟩, run_ofDefect_eq_ok_iff.mpr wrapped⟩

theorem isFinite_of_serialize {token : Token} {text : String}
    (written : token.serialize = .ok text) :
    (Json.object token.claims.members).isFinite = true := by
  obtain ⟨readable, -⟩ := Json.canonical_eq_ok_iff.mp (encode_of_serialize written)
  exact (Json.allNumbers_isReadable_iff.mp readable).1

/-- What keeps a token from being written is what is wrong with its members in their order. -/
theorem serialize_eq (token : Token) : token.serialize =
    match (Json.object token.claims.members).sorted.writeError? with
    | none => .ok ((Json.object token.claims.members).sorted.render .compact)
    | some cause => .error (.defect (.ofWriteError cause)) := by
  rw [serialize, ClaimSet.encode, Json.canonical, Json.renderFinite]
  cases (Json.object token.claims.members).sorted.writeError? <;> rfl

section WellFormed

variable {token : Token} (formed : token.WellFormed)

include formed

/-- A token that was checked can be written unless a number is not finite. -/
theorem writeError?_of_wellFormed : (Json.object token.claims.members).sorted.writeError? =
    if (Json.object token.claims.members).isFinite then none else some .notFinite := by
  have writable : (Json.object token.claims.members).sorted.allNumbers Json.isWritable = true :=
    (Json.allNumbers_sorted _ _).trans formed.writable
  have finite : (Json.object token.claims.members).sorted.isFinite =
      (Json.object token.claims.members).isFinite := Json.allNumbers_sorted _ _
  split
  · next all =>
    exact Json.writeError?_eq_none_iff.mpr
      (Json.allNumbers_isReadable_iff.mpr ⟨finite.trans all, writable⟩)
  · next wide =>
    exact Json.writeError?_eq_notFinite (finite.trans (eq_false_of_ne_true wide)) writable

/-- A token that was checked has a canonical text exactly when its numbers are finite. -/
theorem exists_serialize_iff : (∃ text, token.serialize = .ok text) ↔
    (Json.object token.claims.members).isFinite = true := by
  rw [serialize_eq, writeError?_of_wellFormed formed]
  cases (Json.object token.claims.members).isFinite <;> simp

theorem serialize_eq_error (wide : (Json.object token.claims.members).isFinite = false) :
    token.serialize = .error (.defect .notFinite) := by
  rw [serialize_eq, writeError?_of_wellFormed formed, wide]
  rfl

end WellFormed

/-- **A token with finite numbers can be sealed** when its expiry time fits eight bytes and the ring
knows its current secret. -/
theorem exists_run_sealedBy {token : Token} (formed : token.WellFormed) {ring : KeyRing}
    {secret : Bytes} (finite : (Json.object token.claims.members).isFinite = true)
    (bound : ring.secret? ring.current.id = some secret) (nonneg : 0 ≤ token.expiresAt)
    (small : token.expiresAt < KeyRing.expiryLimit) (random : RandomSource) (supply : Supply) :
    ∃ text, (token.sealedBy ring random).run supply = (.ok text, supply.afterDraw) := by
  obtain ⟨plain, written⟩ := (exists_serialize_iff formed).mpr finite
  refine ⟨_, run_sealedBy_eq_ok_iff.mpr ⟨plain, written,
    KeyRing.run_wrap_eq_ok_iff.mpr ⟨token.expiresAt.toNat, secret, ?_, ?_, bound, rfl, rfl⟩⟩⟩
  · omega
  · omega

/-- **What a ring seals opens under its current secret** until the token expires, as the bytes of
the canonical text. -/
theorem opens_of_sealedBy {token : Token} {ring : KeyRing} {random : RandomSource}
    {supply last : Supply} {text : String} (exact : RandomSource.Exact random)
    (closed : (token.sealedBy ring random).run supply = (.ok text, last)) :
    ∃ plain secret seconds, token.serialize = .ok plain ∧
      ring.secret? ring.current.id = some secret ∧ token.expiresAt = (seconds : ℕ) ∧
      KeyRing.Opens ring.current.id secret text (Utf8.encode plain) seconds := by
  obtain ⟨plain, written, wrapped⟩ := run_sealedBy_eq_ok_iff.mp closed
  obtain ⟨secret, seconds, bound, whole, opens⟩ := KeyRing.opens_of_wrap exact wrapped
  exact ⟨plain, secret, seconds, written, bound, whole, opens⟩

/-- What a ring sealed it opens until the token expires, as the bytes of the canonical text. -/
theorem unwrap_of_sealedBy {token : Token} {ring : KeyRing} {random : RandomSource}
    {supply last : Supply} {text : String} (exact : RandomSource.Exact random)
    (closed : (token.sealedBy ring random).run supply = (.ok text, last)) :
    ∃ plain, token.serialize = .ok plain ∧ ∀ skew now,
      (Number.add (.int token.expiresAt) skew).le now = false →
        ring.unwrap skew now text = .ok (Utf8.encode plain) := by
  obtain ⟨plain, secret, seconds, written, bound, ends, opens⟩ := opens_of_sealedBy exact closed
  refine ⟨plain, written, fun skew now alive => ?_⟩
  rw [ends] at alive
  exact KeyRing.unwrap_eq_ok_iff.mpr ⟨_, secret, seconds, bound, opens, alive⟩

/-- **What a ring seals holds the token** as it is read back. -/
theorem holds_of_sealedBy {token : Token} (formed : token.WellFormed) {ring : KeyRing}
    {random : RandomSource} {supply last : Supply} {text : String}
    (exact : RandomSource.Exact random)
    (closed : (token.sealedBy ring random).run supply = (.ok text, last)) :
    ∃ secret seconds, ring.secret? ring.current.id = some secret ∧
      token.expiresAt = (seconds : ℕ) ∧
      Holds ring.current.id secret text (token.stored formed) seconds := by
  obtain ⟨plain, secret, seconds, written, bound, whole, opens⟩ := opens_of_sealedBy exact closed
  exact ⟨secret, seconds, bound, whole, _, opens, readBytes_serialize formed written⟩

end Token
end SealedGrant
