import Mathlib
import SealedGrant.Proofs.ClaimSet.RoundTrip
import SealedGrant.Proofs.Token.Derivation

/-! # Tokens that were read

A token that was read was checked (`SealedGrant.Token.wellFormed_of_isRead`), and what it delivers
repeats no name (`SealedGrant.Token.nodup_delivered`). Its checked members are known from what is
read off them (`SealedGrant.Token.get?_eq_map_text?`).
-/

namespace SealedGrant.Token

variable {token : Token}

theorem isRead_of_readBytes {kind : TokenKind} {bytes : Bytes}
    (read : readBytes kind bytes = .ok token) : token.claims.IsRead :=
  .bytes bytes (readBytes_eq_ok_iff.mp read).2

theorem isRead_of_holds {id text : String} {secret : Bytes} {expiry : ℕ}
    (holds : Holds id secret text token expiry) : token.claims.IsRead := by
  obtain ⟨bytes, -, read⟩ := holds
  exact isRead_of_readBytes read

theorem isRead_of_ofSealed {ring : KeyRing} {skew now : Number} {kind : TokenKind} {text : String}
    (opened : ofSealed ring skew now kind text = .ok token) : token.claims.IsRead := by
  obtain ⟨-, id, secret, expiry, -, holds, -⟩ := ofSealed_eq_ok_iff.mp opened
  exact isRead_of_holds holds

/-- What a token delivers under a name is a member of it, or nothing. -/
theorem delivered_cases (distinct : token.claims.members.names.Nodup) (claim : Claim) :
    (claim.name, Json.object (token.delivered claim)) ∈ token.claims.members ∨
      token.delivered claim = [] := by
  unfold delivered ClaimSet.value Members.getD
  cases found : token.claims.members.get? claim.name with
  | none => exact Or.inr rfl
  | some value =>
    have listed := (Members.get?_eq_some_iff distinct).mp found
    cases value with
    | object members => exact Or.inl listed
    | null => exact Or.inr rfl
    | bool value => exact Or.inr rfl
    | number n => exact Or.inr rfl
    | string text => exact Or.inr rfl
    | array items => exact Or.inr rfl

/-- What a token delivers has no other numbers than the token. -/
theorem allNumbers_delivered {holds : Number → Bool}
    (distinct : token.claims.members.names.Nodup)
    (all : (Json.object token.claims.members).allNumbers holds = true) (claim : Claim) :
    (Json.object (token.delivered claim)).allNumbers holds = true := by
  rw [Json.allNumbers, Json.allNumbersOf_eq_all, List.all_eq_true] at all
  rcases delivered_cases distinct claim with listed | nothing
  · exact all _ listed
  · rw [nothing]
    rfl

section IsRead

variable (read : token.claims.IsRead)

include read

/-- **A token that was read was checked.** -/
theorem wellFormed_of_isRead : token.WellFormed := by
  obtain ⟨distinct, ⟨kind, follows⟩, writable⟩ := read.checked
  obtain rfl : kind = token.kind := by
    have same := kind?_eq_some_of_follows follows
    rw [token.kind_eq] at same
    exact (Option.some.inj same).symm
  exact ⟨distinct.1, follows, writable⟩

/-- What a token delivers is an object without repeated names at any depth. -/
theorem distinct_delivered (claim : Claim) : (Json.object (token.delivered claim)).Distinct := by
  obtain ⟨distinct, -, -⟩ := read.checked
  rcases delivered_cases distinct.1 claim with listed | nothing
  · exact (Json.distinctMembers_iff _).mp distinct.2 _ listed
  · rw [nothing]
    exact ⟨List.nodup_nil, trivial⟩

theorem nodup_delivered (claim : Claim) : (token.delivered claim).names.Nodup :=
  (distinct_delivered read claim).1

end IsRead

section WellFormed

variable (formed : token.WellFormed)

include formed

/-- A checked member that holds a text is that text. -/
theorem get?_eq_map_text? {claim : Claim} (shape : claim.shape = .text) :
    token.claims.members.get? claim.name = (token.claims.text? claim).map .string := by
  unfold ClaimSet.text? ClaimSet.value Members.getD
  cases found : token.claims.members.get? claim.name with
  | none => rfl
  | some value =>
    have described := describes_parent formed found
    rw [shape] at described
    obtain ⟨text, rfl⟩ := described
    rfl

/-- A required member that holds a text is there. -/
theorem get?_eq_text {claim : Claim} (required : claim.presence token.kind = .required)
    (shape : claim.shape = .text) :
    token.claims.members.get? claim.name = some (.string (token.text claim)) := by
  obtain ⟨found, value⟩ := text?_of_required formed required shape
  have same : token.claims.text? claim = some found := congrArg Json.string? value
  rw [get?_eq_map_text? formed shape, text, same]
  rfl

/-- A required member that holds a time is that time. -/
theorem get?_eq_time {claim : Claim} (required : claim.presence token.kind = .required)
    (shape : claim.shape = .time) :
    token.claims.members.get? claim.name = some (.number (.int (token.claims.time claim))) := by
  obtain ⟨value, found, described⟩ := exists_of_required formed required
  rw [shape] at described
  obtain ⟨seconds, rfl⟩ := described
  rw [ClaimSet.time, ClaimSet.value, Members.getD, found]
  rfl

omit formed in
/-- What is delivered is read back in canonical form. -/
theorem delivered_stored (formed : token.WellFormed) (claim : Claim) :
    (token.stored formed).delivered claim = Json.canonMembers (token.delivered claim) := by
  have value : (token.stored formed).claims.value claim = (token.claims.value claim).canon :=
    ClaimSet.value_stored formed.distinct claim
  unfold delivered
  rw [value]
  cases token.claims.value claim with
  | object members => rfl
  | null => exact Json.canonMembers_nil.symm
  | bool value => exact Json.canonMembers_nil.symm
  | number n => exact Json.canonMembers_nil.symm
  | string text => exact Json.canonMembers_nil.symm
  | array items => exact Json.canonMembers_nil.symm

end WellFormed
end SealedGrant.Token
