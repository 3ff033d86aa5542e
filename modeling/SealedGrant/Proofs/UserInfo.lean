import Mathlib
import SealedGrant.Proofs.Token.Opened
import SealedGrant.UserInfo

/-! # What UserInfo tells

The claims of an access token are the user's id and, under every other name, what the token delivers
to UserInfo, or else to both consumers (`SealedGrant.UserInfo.get?_claims`). They are published
without reserved names (`SealedGrant.UserInfo.get?_publishedMembers`), which leaves values alone
that have none (`SealedGrant.UserInfo.published_of_isPlain`). What is published of a token that was
read can be written, and it is read back (`SealedGrant.UserInfo.exists_body`).
-/

namespace SealedGrant.UserInfo

/-! ## Publishing -/

theorem isReserved_eq_decide (name : String) :
    isReserved name = decide ("_sa".toList <+: name.toList) := by
  rw [Bool.eq_iff_iff, isReserved, String.startsWith_string_iff, decide_eq_true_iff]

mutual

/-- Whether no object in a value has a member with a reserved name. -/
def isPlain : Json → Bool
  | .array items => isPlainItems items
  | .object members => isPlainMembers members
  | .null | .bool _ | .number _ | .string _ => true

/-- Whether all items are plain. -/
def isPlainItems : List Json → Bool
  | [] => true
  | item :: rest => isPlain item && isPlainItems rest

/-- Whether no member has a reserved name and all values are plain. -/
def isPlainMembers : List (String × Json) → Bool
  | [] => true
  | (name, value) :: rest => !isReserved name && isPlain value && isPlainMembers rest

end

mutual

/-- **Plain values are published as they are.** -/
theorem published_of_isPlain (value : Json) (plain : isPlain value = true) :
    published value = value := by
  cases value with
  | array items => rw [published, publishedItems_of_isPlain items plain]
  | object members => rw [published, publishedMembers_of_isPlain members plain]
  | null => rfl
  | bool value => rfl
  | number n => rfl
  | string text => rfl

theorem publishedItems_of_isPlain (items : List Json) (plain : isPlainItems items = true) :
    publishedItems items = items := by
  cases items with
  | nil => rfl
  | cons item rest =>
    simp only [isPlainItems, Bool.and_eq_true] at plain
    rw [publishedItems, published_of_isPlain item plain.1, publishedItems_of_isPlain rest plain.2]

theorem publishedMembers_of_isPlain (members : List (String × Json))
    (plain : isPlainMembers members = true) : publishedMembers members = members := by
  cases members with
  | nil => rfl
  | cons member rest =>
    obtain ⟨name, value⟩ := member
    simp only [isPlainMembers, Bool.and_eq_true, Bool.not_eq_true'] at plain
    rw [publishedMembers, if_neg (by simp [plain.1.1]), published_of_isPlain value plain.1.2,
      publishedMembers_of_isPlain rest plain.2]

end

mutual

/-- Publishing adds no number. -/
theorem allNumbers_published {holds : Number → Bool} (value : Json)
    (all : value.allNumbers holds = true) : (published value).allNumbers holds = true := by
  cases value with
  | array items => exact allNumbersIn_published items all
  | object members => exact allNumbersOf_published members all
  | null => rfl
  | bool value => rfl
  | number n => exact all
  | string text => rfl

theorem allNumbersIn_published {holds : Number → Bool} (items : List Json)
    (all : Json.allNumbersIn holds items = true) :
    Json.allNumbersIn holds (publishedItems items) = true := by
  cases items with
  | nil => rfl
  | cons item rest =>
    simp only [Json.allNumbersIn, publishedItems, Bool.and_eq_true] at all ⊢
    exact ⟨allNumbers_published item all.1, allNumbersIn_published rest all.2⟩

theorem allNumbersOf_published {holds : Number → Bool} (members : List (String × Json))
    (all : Json.allNumbersOf holds members = true) :
    Json.allNumbersOf holds (publishedMembers members) = true := by
  cases members with
  | nil => rfl
  | cons member rest =>
    obtain ⟨name, value⟩ := member
    simp only [Json.allNumbersOf, Bool.and_eq_true] at all
    have others := allNumbersOf_published rest all.2
    rw [publishedMembers]
    split
    · exact others
    · simp only [Json.allNumbersOf, Bool.and_eq_true]
      exact ⟨allNumbers_published value all.1, others⟩

end

/-- Members are published one by one, those with reserved names left out. -/
theorem publishedMembers_eq (members : Members) : publishedMembers members =
    (members.filter fun member => !isReserved member.1).map
      fun member => (member.1, published member.2) := by
  induction members with
  | nil => rfl
  | cons member rest ih =>
    obtain ⟨name, value⟩ := member
    rw [publishedMembers, List.filter_cons]
    cases reserved : isReserved name with
    | true => simpa [reserved] using ih
    | false => simpa [reserved] using ih

/-- **What is published under a name**: nothing if the name is reserved, else the published
value. -/
theorem get?_publishedMembers (members : Members) (name : String) :
    Members.get? (publishedMembers members) name =
      if isReserved name then none else (members.get? name).map published := by
  rw [publishedMembers_eq, Members.get?_map,
    Members.get?_filter members (fun name => !isReserved name)]
  cases isReserved name <;> rfl

theorem nodup_publishedMembers {members : Members} (distinct : members.names.Nodup) :
    (Members.names (publishedMembers members)).Nodup := by
  rw [publishedMembers_eq, Members.names_map]
  exact Members.nodup_filter distinct _

mutual

/-- Publishing repeats no name. -/
theorem distinct_published (value : Json) (distinct : value.Distinct) :
    (published value).Distinct := by
  cases value with
  | array items => exact distinctItems_published items distinct
  | object members =>
    exact ⟨nodup_publishedMembers distinct.1, distinctMembers_published members distinct.2⟩
  | null => trivial
  | bool value => trivial
  | number n => trivial
  | string text => trivial

theorem distinctItems_published (items : List Json) (distinct : Json.DistinctItems items) :
    Json.DistinctItems (publishedItems items) := by
  cases items with
  | nil => trivial
  | cons item rest =>
    exact ⟨distinct_published item distinct.1, distinctItems_published rest distinct.2⟩

theorem distinctMembers_published (members : List (String × Json))
    (distinct : Json.DistinctMembers members) :
    Json.DistinctMembers (publishedMembers members) := by
  cases members with
  | nil => trivial
  | cons member rest =>
    obtain ⟨name, value⟩ := member
    have others := distinctMembers_published rest distinct.2
    rw [publishedMembers]
    split
    · exact others
    · exact ⟨distinct_published value distinct.1, others⟩

end

/-! ## The claims of an access token -/

theorem isReserved_sub : isReserved "sub" = false := by
  rw [isReserved_eq_decide]
  rfl

variable {access : Token}

/-- A member of the claims is delivered or is the user's id. -/
theorem mem_claims {member : String × Json} (found : member ∈ claims access) :
    member = ("sub", .string access.subject) ∨ member ∈ access.delivered .delivery ∨
      member ∈ access.delivered .deliveryUi := by
  rcases Members.mem_of_mem_set found with same | merged
  · exact Or.inl same
  · rcases Members.mem_of_mem_merge merged with both | own
    · rcases Members.mem_of_mem_merge both with nothing | both
      · cases nothing
      · exact Or.inr (Or.inl both)
    · exact Or.inr (Or.inr own)

section IsRead

variable (read : access.claims.IsRead)

include read

/-- **The claims of an access token**: the user's id, and under other names what is delivered to
UserInfo, or else to both consumers. -/
theorem get?_claims (name : String) : (claims access).get? name =
    if name = "sub" then some (.string access.subject)
    else ((access.delivered .deliveryUi).get? name).or
      ((access.delivered .delivery).get? name) := by
  rw [claims, Members.get?_set, Members.get?_merge _ (Token.nodup_delivered read _),
    Members.get?_merge _ (Token.nodup_delivered read _), Members.get?_nil, Option.or_none]

theorem distinct_claims : (Json.object (claims access)).Distinct := by
  have nothing : Members.names [] = [] := rfl
  have names : (claims access).names.Nodup := by
    refine Members.nodup_set (Members.nodup_merge (Members.nodup_merge ?_ _) _) _ _
    exact nothing ▸ List.nodup_nil
  have delivered (claim : Claim) : ∀ member ∈ access.delivered claim, member.2.Distinct :=
    (Json.distinctMembers_iff _).mp (Token.distinct_delivered read claim).2
  refine ⟨names, (Json.distinctMembers_iff _).mpr fun member found => ?_⟩
  rcases mem_claims found with rfl | both | own
  · trivial
  · exact delivered _ member both
  · exact delivered _ member own

/-- The claims of a token have no other numbers than the token. -/
theorem allNumbers_claims {holds : Number → Bool}
    (all : (Json.object access.claims.members).allNumbers holds = true) :
    (Json.object (claims access)).allNumbers holds = true := by
  have delivered (claim : Claim) : ∀ member ∈ access.delivered claim,
      member.2.allNumbers holds = true := by
    have numbers := Token.allNumbers_delivered read.checked.1.1 all claim
    rwa [Json.allNumbers, Json.allNumbersOf_eq_all, List.all_eq_true] at numbers
  rw [Json.allNumbers, Json.allNumbersOf_eq_all, List.all_eq_true]
  intro member found
  rcases mem_claims found with rfl | both | own
  · rfl
  · exact delivered _ member both
  · exact delivered _ member own

end IsRead

/-- **What UserInfo tells** of an access token: the user's id, and under every other name that is
not reserved the published value of what the token delivers to UserInfo, or else to both
consumers. -/
structure Tells (access : Token) (body : Members) : Prop where
  subject : body.get? "sub" = some (.string access.subject)
  delivered (name : String) (other : name ≠ "sub") : body.get? name =
    if isReserved name then none
    else (((access.delivered .deliveryUi).get? name).or
      ((access.delivered .delivery).get? name)).map published

/-- The members with the attributes that UserInfo tells. -/
def deliveries : List Claim := [.delivery, .deliveryUi]

/-- **Plain attributes are told as they are delivered.** -/
theorem Tells.get?_of_isPlain {body : Members} (tells : Tells access body)
    (plain : ∀ claim ∈ deliveries, isPlainMembers (access.delivered claim) = true) {name : String}
    (other : name ≠ "sub") : body.get? name =
      ((access.delivered .deliveryUi).get? name).or ((access.delivered .delivery).get? name) := by
  have same (claim : Claim) (told : claim ∈ deliveries) : (if isReserved name then none
      else ((access.delivered claim).get? name).map published) =
        (access.delivered claim).get? name := by
    rw [← get?_publishedMembers, publishedMembers_of_isPlain _ (plain claim told)]
  have own := same .deliveryUi (by decide)
  have both := same .delivery (by decide)
  rw [tells.delivered name other]
  cases reserved : isReserved name with
  | true =>
    rw [reserved, if_pos rfl] at own both
    rw [if_pos rfl, ← own, ← both]
    rfl
  | false =>
    rw [reserved, if_neg Bool.false_ne_true] at own both
    rw [if_neg Bool.false_ne_true, Option.map_or, own, both]

theorem tells_publishedMembers (read : access.claims.IsRead) :
    Tells access (publishedMembers (claims access)) where
  subject := by
    rw [get?_publishedMembers, isReserved_sub, get?_claims read]
    rfl
  delivered name other := by rw [get?_publishedMembers, get?_claims read, if_neg other]

/-- **What is published of an access token is read back**, if its numbers are finite. -/
theorem exists_body (read : access.claims.IsRead)
    (finite : (Json.object access.claims.members).isFinite = true) :
    ∃ text, (Json.object (publishedMembers (claims access))).renderFinite .compact = .ok text ∧
      Json.read .strict text = .ok (.object (publishedMembers (claims access))) := by
  have readable : (Json.object access.claims.members).allNumbers Json.isReadable = true :=
    Json.allNumbers_isReadable_iff.mpr ⟨finite, read.checked.2.2⟩
  have told : (Json.object (publishedMembers (claims access))).allNumbers Json.isReadable = true :=
    allNumbers_published (.object _) (allNumbers_claims read readable)
  have distinct := distinct_published (.object _) (distinct_claims read)
  refine ⟨_, Json.renderFinite_eq_ok_iff.mpr ⟨told, rfl⟩, ?_⟩
  rw [Json.read_render Json.Style.separates_compact .strict told]
  exact congrArg Except.ok (Json.settled_of_distinct _ distinct)

end SealedGrant.UserInfo
