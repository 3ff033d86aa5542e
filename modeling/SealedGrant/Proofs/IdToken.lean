import Mathlib
import SealedGrant.IdToken
import SealedGrant.Proofs.Token.Opened

/-! # The claims of an ID token

The claims of an ID token are known name by name (`SealedGrant.IdToken.tells_of_assemble`): what
stands under a protected name was set by the issuer or is absent, and under every other name stands
what the code delivers to the ID token, or else what it delivers to both consumers.
-/

namespace SealedGrant.IdToken

/-- **What an ID token tells**, name by name and each name once. No attribute has a protected name,
and those for the ID token alone win. -/
structure Tells (grant : Token) (frame : Frame) (claims : Members) : Prop where
  distinct : claims.names.Nodup
  issuer : claims.get? "iss" = some (.string frame.issuer)
  subject : claims.get? "sub" = some (.string frame.subject)
  audience : claims.get? "aud" = some (.array [.string frame.clientId])
  issuedAt : claims.get? "iat" = some frame.issuedAt
  expiresAt : claims.get? "exp" = some frame.expiresAt
  authTime : claims.get? "auth_time" = some (.number (.int grant.authTime))
  nonce : claims.get? "nonce" = grant.nonce?.map .string
  acr : claims.get? "acr" = grant.acr?.map .string
  absent : ∀ name ∈ ["azp", "jti", "at_hash"], claims.get? name = none
  delivered : ∀ name ∉ protectedNames, claims.get? name =
    ((grant.delivered .deliveryId).get? name).or ((grant.delivered .delivery).get? name)

/-- The members that the issuer sets. -/
def protocolMembers (grant : Token) (frame : Frame) : Members :=
  [("iss", .string frame.issuer), ("sub", .string frame.subject),
    ("aud", .array [.string frame.clientId]), ("iat", frame.issuedAt), ("exp", frame.expiresAt),
    ("auth_time", .number (.int grant.authTime))] ++
  (ifGiven "nonce" grant.nonce? ++ ifGiven "acr" grant.acr?)

variable {grant : Token} {frame : Frame} {claims : Members}

theorem eq_append_of_assemble (assembled : assemble grant frame = .ok claims) :
    claims = attributes grant ++ protocolMembers grant frame := by
  unfold assemble at assembled
  split at assembled
  · cases assembled
  · rw [← Except.ok.inj assembled, List.append_assoc, List.append_assoc, protocolMembers]

theorem names_ifGiven (name : String) (value : Option String) :
    (ifGiven name value).names.Sublist [name] := by
  cases value with
  | none => exact List.nil_sublist _
  | some text => exact List.Sublist.refl _

theorem get?_ifGiven (name : String) (value : Option String) (other : String) :
    (ifGiven name value).get? other = if other = name then value.map .string else none := by
  cases value with
  | none => simp [ifGiven]
  | some text => simp [ifGiven, Members.get?_cons]

/-- The issuer sets protected names alone, each of them once. -/
theorem names_protocolMembers (grant : Token) (frame : Frame) :
    (protocolMembers grant frame).names.Sublist
      ["iss", "sub", "aud", "iat", "exp", "auth_time", "nonce", "acr"] := by
  unfold protocolMembers
  rw [Token.names_append, Token.names_append]
  exact (List.Sublist.refl ["iss", "sub", "aud", "iat", "exp", "auth_time"]).append
    ((names_ifGiven "nonce" grant.nonce?).append (names_ifGiven "acr" grant.acr?))

/-- **What the issuer sets, name by name.** -/
theorem get?_protocolMembers (grant : Token) (frame : Frame) (name : String) :
    (protocolMembers grant frame).get? name =
      if name = "iss" then some (.string frame.issuer)
      else if name = "sub" then some (.string frame.subject)
      else if name = "aud" then some (.array [.string frame.clientId])
      else if name = "iat" then some frame.issuedAt
      else if name = "exp" then some frame.expiresAt
      else if name = "auth_time" then some (.number (.int grant.authTime))
      else if name = "nonce" then grant.nonce?.map .string
      else if name = "acr" then grant.acr?.map .string
      else none := by
  simp only [protocolMembers, List.cons_append, List.nil_append, Members.get?_cons,
    Members.get?_append, get?_ifGiven]
  split_ifs <;> simp_all

theorem subset_protectedNames (grant : Token) (frame : Frame) :
    (protocolMembers grant frame).names ⊆ protectedNames := by
  have listed : ["iss", "sub", "aud", "iat", "exp", "auth_time", "nonce", "acr"] ⊆
      protectedNames := by decide
  exact List.Subset.trans (names_protocolMembers grant frame).subset listed

variable (read : grant.claims.IsRead)

include read

/-- **The attributes of a code, name by name.** -/
theorem get?_attributes (name : String) : (attributes grant).get? name =
    if name ∈ protectedNames then none
    else ((grant.delivered .deliveryId).get? name).or ((grant.delivered .delivery).get? name) := by
  have both : (Members.merge [] (grant.delivered .delivery)).get? name =
      (grant.delivered .delivery).get? name := by
    rw [Members.get?_merge _ (Token.nodup_delivered read .delivery), Members.get?_nil,
      Option.or_none]
  rw [attributes, Members.get?_filter _ (fun name => !protectedNames.contains name),
    Members.get?_merge _ (Token.nodup_delivered read .deliveryId), both]
  by_cases isProtected : name ∈ protectedNames <;> simp [isProtected]

omit read in
theorem nodup_attributes (grant : Token) : (attributes grant).names.Nodup :=
  have nothing : (Members.names []).Nodup := List.nodup_nil
  Members.nodup_filter (Members.nodup_merge (Members.nodup_merge nothing _) _) _

omit read in
theorem not_mem_protectedNames_of_attribute {name : String}
    (listed : name ∈ (attributes grant).names) : name ∉ protectedNames := by
  obtain ⟨member, kept, rfl⟩ := List.mem_map.mp listed
  simpa using (List.mem_filter.mp kept).2

/-- **An ID token tells** what its grant delivers and what the issuer sets. -/
theorem tells_of_assemble (assembled : assemble grant frame = .ok claims) :
    Tells grant frame claims := by
  obtain rfl := eq_append_of_assemble assembled
  have set (name : String) (isProtected : name ∈ protectedNames) :
      Members.get? (attributes grant ++ protocolMembers grant frame) name =
        (protocolMembers grant frame).get? name := by
    rw [Members.get?_append, get?_attributes read, if_pos isProtected, Option.none_or]
  have fixed := get?_protocolMembers grant frame
  refine {
    distinct := ?_
    issuer := (set "iss" (by decide)).trans (fixed "iss")
    subject := (set "sub" (by decide)).trans (fixed "sub")
    audience := (set "aud" (by decide)).trans (fixed "aud")
    issuedAt := (set "iat" (by decide)).trans (fixed "iat")
    expiresAt := (set "exp" (by decide)).trans (fixed "exp")
    authTime := (set "auth_time" (by decide)).trans (fixed "auth_time")
    nonce := (set "nonce" (by decide)).trans (fixed "nonce")
    acr := (set "acr" (by decide)).trans (fixed "acr")
    absent := ?_
    delivered := ?_ }
  · rw [Token.names_append]
    refine List.Nodup.append (nodup_attributes grant)
      ((names_protocolMembers grant frame).nodup (by decide)) fun name left right => ?_
    exact not_mem_protectedNames_of_attribute left (subset_protectedNames grant frame right)
  · intro name listed
    simp only [List.mem_cons, List.not_mem_nil, or_false] at listed
    rcases listed with rfl | rfl | rfl
    · exact (set "azp" (by decide)).trans (fixed "azp")
    · exact (set "jti" (by decide)).trans (fixed "jti")
    · exact (set "at_hash" (by decide)).trans (fixed "at_hash")
  · intro name free
    have unset : (protocolMembers grant frame).get? name = none :=
      Members.get?_eq_none_of_not_mem fun listed => free (subset_protectedNames grant frame listed)
    rw [Members.get?_append, get?_attributes read, if_neg free, unset, Option.or_none]

end SealedGrant.IdToken
