import Mathlib
import SealedGrant.ClaimSet.Check
import SealedGrant.Proofs.Json.Canonical

/-! # What a checked claim set satisfies

The check asks its questions in an order, but what it accepts does not depend on the order: a claim
set passes as a kind exactly when it follows the schema of that kind
(`SealedGrant.ClaimSet.check_eq_ok_iff`), and every known member is then what its shape describes
(`SealedGrant.ClaimSet.Follows.describes`). Following the schema depends on the members' canonical
values alone, so the claim set that is read back from a written one follows it too
(`SealedGrant.ClaimSet.decodeBytes_encode`).
-/

namespace SealedGrant

open SealedGrant.Json (canon)

namespace Json

theorem string?_canon (value : Json) : value.canon.string? = value.string? := by
  cases value <;> rfl

theorem int?_canon (value : Json) : value.canon.int? = value.int? := by
  cases value <;> rfl

theorem isNull_canon (value : Json) :
    ClaimSet.isNull value.canon = ClaimSet.isNull value := by
  cases value <;> rfl

theorem canon_eq_string_iff {value : Json} {text : String} :
    value.canon = .string text ↔ value = .string text := by
  cases value <;> simp [canon, sorted, settled]

end Json

theorem Shape.fits_canon (shape : Shape) (value : Json) :
    shape.fits value.canon = shape.fits value := by
  cases value with
  | null => rfl
  | bool value => rfl
  | number n => rfl
  | string text => rfl
  | object members => cases shape <;> rfl
  | array items =>
    rw [Json.canon_array]
    cases shape with
    | text => rfl
    | time => rfl
    | object => rfl
    | texts =>
      simp only [fits, List.all_map, Function.comp_def, Json.string?_canon]
    | singleText =>
      cases items with
      | nil => rfl
      | cons item rest =>
        cases rest with
        | nil => cases item <;> rfl
        | cons second rest => cases item <;> rfl

/-- What a value of a shape is. No shape describes null. -/
def Shape.Describes : Shape → Json → Prop
  | .text, value => ∃ text, value = .string text
  | .time, value => ∃ seconds : ℕ, value = .number (.int seconds)
  | .object, value => ∃ members, value = .object members
  | .texts, value => ∃ texts : List String, value = .array (texts.map .string)
  | .singleText, value => ∃ text, value = .array [.string text]

theorem Shape.describes_texts_iff {items : List Json} :
    Shape.texts.Describes (.array items) ↔ ∀ item ∈ items, item.string?.isSome = true := by
  constructor
  · rintro ⟨texts, same⟩ item member
    rw [Json.array.inj same] at member
    obtain ⟨text, -, rfl⟩ := List.mem_map.mp member
    rfl
  · intro all
    refine ⟨items.filterMap Json.string?, congrArg Json.array ?_⟩
    induction items with
    | nil => rfl
    | cons item rest ih =>
      obtain ⟨first, others⟩ := List.forall_mem_cons.mp all
      cases item with
      | string text => simpa [Json.string?] using ih others
      | null => cases first
      | bool value => cases first
      | number n => cases first
      | array items => cases first
      | object members => cases first

theorem Shape.fits_eq_true_iff {shape : Shape} {value : Json} :
    shape.fits value = true ↔ shape.Describes value := by
  cases shape with
  | text => cases value <;> simp [fits, Describes]
  | object => cases value <;> simp [fits, Describes]
  | time =>
    cases value with
    | number n =>
      cases n with
      | int n =>
        simp only [fits, Describes, decide_eq_true_eq, Json.number.injEq, Number.int.injEq]
        constructor
        · intro nonneg
          exact ⟨n.toNat, (Int.toNat_of_nonneg nonneg).symm⟩
        · rintro ⟨seconds, rfl⟩
          exact Int.natCast_nonneg seconds
      | double d => simp [fits, Describes]
    | null => simp [fits, Describes]
    | bool value => simp [fits, Describes]
    | string text => simp [fits, Describes]
    | array items => simp [fits, Describes]
    | object members => simp [fits, Describes]
  | texts =>
    cases value with
    | array items => rw [describes_texts_iff, fits, List.all_eq_true]
    | null => simp [fits, Describes]
    | bool value => simp [fits, Describes]
    | number n => simp [fits, Describes]
    | string text => simp [fits, Describes]
    | object members => simp [fits, Describes]
  | singleText =>
    cases value with
    | array items =>
      cases items with
      | nil => simp [fits, Describes]
      | cons item rest => cases rest <;> cases item <;> simp [fits, Describes]
    | null => simp [fits, Describes]
    | bool value => simp [fits, Describes]
    | number n => simp [fits, Describes]
    | string text => simp [fits, Describes]
    | object members => simp [fits, Describes]

theorem Shape.Describes.isNull {shape : Shape} {value : Json} (described : shape.Describes value) :
    ClaimSet.isNull value = false := by
  cases value with
  | null => cases shape <;> simp [Describes] at described
  | bool value => rfl
  | number n => rfl
  | string text => rfl
  | array items => rfl
  | object members => rfl

namespace ClaimSet

/-- What the schema demands of a claim set of a kind. -/
structure Follows (claims : ClaimSet) (kind : TokenKind) : Prop where
  kind_eq : claims.value .kind = .string kind.code
  present : ∀ claim : Claim, claim.presence kind = .required → isNull (claims.value claim) = false
  fits : ∀ member ∈ claims.members, memberFault? kind member = none
  issued_le : claims.time .issuedAt ≤ claims.time .expiresAt
  auth_le : claims.time .authTime ≤ claims.time .issuedAt
  redirect : claims.redirectFault? = none
  challenge : claims.challengeFault? = none

theorem missing?_eq_none_iff (claims : ClaimSet) (kind : TokenKind) :
    claims.missing? kind = none ↔
      ∀ claim : Claim, claim.presence kind = .required → isNull (claims.value claim) = false := by
  simp [missing?, Claim.required, Claim.mem_all]

theorem timeFault?_eq_none_iff (claims : ClaimSet) :
    claims.timeFault? = none ↔ claims.time .issuedAt ≤ claims.time .expiresAt ∧
      claims.time .authTime ≤ claims.time .issuedAt := by
  unfold timeFault?
  split
  · next late => simp [late]
  · next notLate =>
    split
    · next early => simp [early]
    · next notEarly => simpa using ⟨not_lt.mp notLate, not_lt.mp notEarly⟩

/-- A known member is right when it is not null, belongs to the kind and has its shape. -/
theorem memberFault?_eq_none_iff {kind : TokenKind} {claim : Claim} {value : Json} :
    memberFault? kind (claim.name, value) = none ↔
      isNull value = false ∧ claim.presence kind ≠ .forbidden ∧ claim.shape.fits value = true := by
  simp only [memberFault?, Claim.ofName?_name]
  cases isNull value with
  | true => simp
  | false =>
    by_cases forbidden : claim.presence kind = .forbidden
    · simp [forbidden]
    · cases fits : claim.shape.fits value <;> simp [forbidden]

/-- A known member of what follows the schema has its shape. -/
theorem Follows.describes {claims : ClaimSet} {kind : TokenKind} (follows : claims.Follows kind)
    {claim : Claim} {value : Json} (listed : (claim.name, value) ∈ claims.members) :
    claim.shape.Describes value :=
  Shape.fits_eq_true_iff.mp (memberFault?_eq_none_iff.mp (follows.fits _ listed)).2.2

/-- Members with different names are all right when each known one is. -/
theorem fits_iff {members : Members} (distinct : members.names.Nodup) {kind : TokenKind} :
    (∀ member ∈ members, memberFault? kind member = none) ↔
      ∀ (claim : Claim) (value : Json), members.get? claim.name = some value →
        memberFault? kind (claim.name, value) = none := by
  constructor
  · intro fits claim value found
    exact fits _ ((Members.get?_eq_some_iff distinct).mp found)
  · intro fits member present
    obtain ⟨name, value⟩ := member
    cases known : Claim.ofName? name with
    | none => simp [memberFault?, known]
    | some claim =>
      have named := Claim.name_of_ofName? known
      subst named
      exact fits claim value ((Members.get?_eq_some_iff distinct).mpr present)

theorem orElse_eq_none_iff {first second : Option ClaimFault} :
    (first <|> second) = none ↔ first = none ∧ second = none := by
  cases first <;> simp

theorem faultAs?_eq_none_iff {claims : ClaimSet} {kind : TokenKind} :
    claims.faultAs? kind = none ↔
      claims.missing? kind = none ∧ claims.members.findSome? (memberFault? kind) = none ∧
        claims.timeFault? = none ∧ claims.redirectFault? = none ∧
          claims.challengeFault? = none := by
  simp only [faultAs?, orElse_eq_none_iff]

theorem follows_iff {claims : ClaimSet} {kind : TokenKind} :
    claims.Follows kind ↔ claims.value .kind = .string kind.code ∧ claims.faultAs? kind = none := by
  rw [faultAs?_eq_none_iff, missing?_eq_none_iff, timeFault?_eq_none_iff,
    List.findSome?_eq_none_iff]
  constructor
  · intro follows
    exact ⟨follows.kind_eq, follows.present, follows.fits, ⟨follows.issued_le, follows.auth_le⟩,
      follows.redirect, follows.challenge⟩
  · intro ⟨kind_eq, present, fits, ⟨issued_le, auth_le⟩, redirect, challenge⟩
    exact ⟨kind_eq, present, fits, issued_le, auth_le, redirect, challenge⟩

/-- **The check accepts what follows the schema.** -/
theorem check_eq_ok_iff {claims : ClaimSet} {kind : TokenKind} :
    claims.check = .ok kind ↔ claims.Follows kind := by
  rw [follows_iff]
  constructor
  · intro checked
    unfold check at checked
    split at checked
    · cases checked
    · cases checked
    · next code kindText =>
      split at checked
      · cases checked
      · next found known =>
        split at checked
        · cases checked
        · next faultless =>
          cases checked
          exact ⟨by rw [kindText, TokenKind.code_of_ofCode? known], faultless⟩
    · cases checked
  · intro ⟨kindText, faultless⟩
    simp only [check, kindText, TokenKind.ofCode?_code, faultless]

/-- The claim set that is read from the canonical text of a claim set. -/
def stored (claims : ClaimSet) : ClaimSet :=
  ⟨Json.canonMembers claims.members⟩

section Stored

variable {claims : ClaimSet} (distinct : claims.members.names.Nodup)

include distinct

theorem value_stored (claim : Claim) : claims.stored.value claim = (claims.value claim).canon := by
  rw [value, Members.getD, stored, Members.get?_canon distinct, value, Members.getD]
  cases claims.members.get? claim.name with
  | none => rfl
  | some value => rfl

theorem text?_stored (claim : Claim) : claims.stored.text? claim = claims.text? claim := by
  rw [text?, value_stored distinct, Json.string?_canon, text?]

theorem time_stored (claim : Claim) : claims.stored.time claim = claims.time claim := by
  rw [time, value_stored distinct, Json.int?_canon, time]

theorem kind?_stored : claims.stored.kind? = claims.kind? := by
  rw [kind?, text?_stored distinct, kind?]

/-- **What is read back follows the schema** if what was written does. -/
theorem Follows.stored {kind : TokenKind} (follows : claims.Follows kind) :
    claims.stored.Follows kind where
  kind_eq := by
    rw [value_stored distinct, Json.canon_eq_string_iff]
    exact follows.kind_eq
  present claim required := by
    rw [value_stored distinct, Json.isNull_canon]
    exact follows.present claim required
  fits member found := by
    obtain ⟨⟨name, value⟩, source, rfl⟩ :=
      List.mem_map.mp ((Json.canonMembers_perm distinct).mem_iff.mp found)
    have fits := follows.fits (name, value) source
    simpa only [memberFault?, Json.isNull_canon, Shape.fits_canon] using fits
  issued_le := by
    rw [time_stored distinct, time_stored distinct]
    exact follows.issued_le
  auth_le := by
    rw [time_stored distinct, time_stored distinct]
    exact follows.auth_le
  redirect := by
    rw [redirectFault?, text?_stored distinct]
    exact follows.redirect
  challenge := by
    rw [challengeFault?, text?_stored distinct]
    exact follows.challenge

end Stored

/-- **A claim set has a canonical text** exactly when its numbers are read back. -/
theorem exists_encode_iff {claims : ClaimSet} : (∃ text, claims.encode = .ok text) ↔
    (Json.object claims.members).allNumbers Json.isReadable = true := by
  constructor
  · rintro ⟨text, written⟩
    exact (Json.canonical_eq_ok_iff.mp written).1
  · intro readable
    exact ⟨_, Json.canonical_eq_ok_iff.mpr ⟨readable, rfl⟩⟩

/-- **A written claim set is read back** from the bytes of its canonical text. -/
theorem decodeBytes_encode {claims : ClaimSet} {kind : TokenKind} {text : String}
    (distinct : claims.members.names.Nodup) (follows : claims.Follows kind)
    (written : claims.encode = .ok text) :
    decodeBytes (Utf8.encode text) = .ok claims.stored := by
  obtain ⟨readable, -⟩ := Json.canonical_eq_ok_iff.mp written
  have bytes := Json.decodeJsonBytes?_canonical written
  have read := Json.read_canonical .strict written
  have writableStored : (Json.object claims.stored.members).allNumbers Json.isWritable = true :=
    Json.allNumbers_canon (Json.allNumbers_isReadable_iff.mp readable).2
  have checked : check ⟨claims.stored.members⟩ = .ok kind :=
    check_eq_ok_iff.mpr (follows.stored distinct)
  have readBytes : Json.readBytes .strict (Utf8.encode text) =
      .ok (.object claims.stored.members) := by
    simp only [Json.readBytes, bytes, read, Json.canon_object, stored]
  rw [decodeBytes, readBytes]
  simp only [ofRead, ofChecked, checked, ofMembers?, writableStored, ↓reduceIte]

theorem ofMembers?_eq_some_iff {members : Members} {claims : ClaimSet} :
    ofMembers? members = some claims ↔
      claims = ⟨members⟩ ∧ (Json.object members).allNumbers Json.isWritable = true := by
  unfold ofMembers?
  split
  · next writable => simp [writable, eq_comm]
  · next unwritable => simp [unwritable]

theorem ofChecked_eq_ok_iff {members : Members} {claims : ClaimSet} :
    ofChecked members = .ok claims ↔
      claims = ⟨members⟩ ∧ (∃ kind, Follows ⟨members⟩ kind) ∧
        (Json.object members).allNumbers Json.isWritable = true := by
  simp only [← check_eq_ok_iff]
  unfold ofChecked
  cases checked : check ⟨members⟩ with
  | error cause => simp
  | ok kind =>
    simp only [Except.ok.injEq, exists_eq', true_and]
    rw [← ofMembers?_eq_some_iff]
    cases ofMembers? members with
    | none => simp
    | some found => simp

end ClaimSet
end SealedGrant
