import Mathlib
import SealedGrant.Proofs.Token.Delivery

/-! # What does not depend on fresh material

Tokens are derived with fresh ids and sealed with fresh nonces. Neither decides anything: whatever
supply a derivation starts from, it fails alike or gives tokens that differ in their ids alone
(`SealedGrant.Token.steady_deriveAccess`, `SealedGrant.Token.steady_deriveRefresh`), and sealing
such tokens fails for both or for neither (`SealedGrant.Token.steady_sealed`).
-/

namespace SealedGrant

/-- **Members differ in an id alone**: it stands at one place in both. -/
def Members.SameButId (left right : Members) : Prop :=
  ∃ (before after : Members) (first second : String),
    left = before ++ (Claim.id.name, .string first) :: after ∧
      right = before ++ (Claim.id.name, .string second) :: after

namespace Members.SameButId

variable {left right : Members} (same : SameButId left right)

include same

theorem append (rest : Members) : SameButId (left ++ rest) (right ++ rest) := by
  obtain ⟨before, after, first, second, rfl, rfl⟩ := same
  exact ⟨before, after ++ rest, first, second, by simp, by simp⟩

theorem agreeBut : ClaimSet.AgreeBut .id ⟨left⟩ ⟨right⟩ := by
  obtain ⟨before, after, first, second, rfl, rfl⟩ := same
  intro claim other
  have names : claim.name ≠ Claim.id.name := fun equal => other (Claim.name_injective equal)
  rw [get?_append, get?_append, get?_cons, get?_cons, if_neg names, if_neg names]

theorem isNull_id : ClaimSet.isNull (ClaimSet.value ⟨left⟩ .id) =
    ClaimSet.isNull (ClaimSet.value ⟨right⟩ .id) := by
  obtain ⟨before, after, first, second, rfl, rfl⟩ := same
  rw [ClaimSet.value, ClaimSet.value, getD, getD, get?_append, get?_append, get?_cons, get?_cons,
    if_pos rfl, if_pos rfl]
  cases before.get? Claim.id.name <;> rfl

theorem findSome?_eq (kind : TokenKind) : left.findSome? (ClaimSet.memberFault? kind) =
    right.findSome? (ClaimSet.memberFault? kind) := by
  obtain ⟨before, after, first, second, rfl, rfl⟩ := same
  rw [List.findSome?_append, List.findSome?_append, List.findSome?_cons, List.findSome?_cons]
  rfl

theorem allNumbers_eq (holds : Number → Bool) :
    (Json.object left).allNumbers holds = (Json.object right).allNumbers holds := by
  obtain ⟨before, after, first, second, rfl, rfl⟩ := same
  rw [Json.allNumbers, Json.allNumbers, Json.allNumbersOf_eq_all, Json.allNumbersOf_eq_all,
    List.all_append, List.all_append, List.all_cons, List.all_cons]
  rfl

theorem writeError?_eq :
    (Json.object left).sorted.writeError? = (Json.object right).sorted.writeError? := by
  obtain ⟨before, after, first, second, rfl, rfl⟩ := same
  rw [Json.writeError?, Json.writeError?, Json.numbers_sorted_object, Json.numbers_sorted_object,
    List.map_append, List.map_append, List.map_cons, List.map_cons]
  rfl

/-- **Members that differ in an id alone are at fault alike.** -/
theorem faultAs?_eq (kind : TokenKind) :
    ClaimSet.faultAs? ⟨left⟩ kind = ClaimSet.faultAs? ⟨right⟩ kind :=
  same.agreeBut.faultAs?_eq (by decide) (fun _ => same.isNull_id) (same.findSome?_eq kind)

end Members.SameButId

/-- A ring closes any two texts, or neither for one cause. -/
theorem KeyRing.steady_wrap (ring : KeyRing) (random : RandomSource) (first second : Bytes)
    (expiry : Number) : Draw.Steady (fun _ _ => True) (ring.wrap random first expiry)
      (ring.wrap random second expiry) := by
  have closed : Draw.Steady (fun _ _ => True) (ring.wrapBytes random first expiry)
      (ring.wrapBytes random second expiry) := by
    refine Draw.steady_ofResult_bind _ fun seconds =>
      Draw.steady_bind (Draw.steady_drawBytes random _) fun left right _ => ?_
    cases ring.secret? ring.current.id with
    | none => exact Draw.steady_throw _
    | some secret => exact Draw.steady_pure trivial
  exact Draw.steady_bind closed fun _ _ _ => Draw.steady_pure trivial

namespace Token

variable {parent first second : Token} {kind : TokenKind} {left right : Members}

/-- Two tokens differ in their ids alone. -/
def SameButId (first second : Token) : Prop :=
  first.claims.members.SameButId second.claims.members

theorem SameButId.value_eq (same : SameButId first second) {claim : Claim} (other : claim ≠ .id) :
    first.claims.value claim = second.claims.value claim :=
  (Members.SameButId.agreeBut same).value_eq other

theorem SameButId.scopeText_eq (same : SameButId first second) :
    first.scopeText = second.scopeText := by
  rw [scopeText, text, ClaimSet.text?, same.value_eq (by decide)]
  rfl

theorem SameButId.expiresAt_eq (same : SameButId first second) :
    first.expiresAt = second.expiresAt := by
  rw [expiresAt, ClaimSet.time, same.value_eq (by decide)]
  rfl

/-! ## Deriving -/

/-- What a derivation starts from: members that differ in an id alone and name the kind. -/
def Started (kind : TokenKind) (left right : Members) : Prop :=
  left.SameButId right ∧ left.get? Claim.kind.name = some (.string kind.code)

theorem Started.append (started : Started kind left right) (rest : Members) :
    Started kind (left ++ rest) (right ++ rest) :=
  ⟨started.1.append rest, by rw [Members.get?_append, started.2, Option.some_or]⟩

/-- **The id decides nothing** when a token is built. -/
theorem build_steady (started : Started kind left right) :
    SameResult SameButId (build kind left) (build kind right) := by
  obtain ⟨same, named⟩ := started
  have leftNamed : ClaimSet.value ⟨left⟩ .kind = .string kind.code := by rw [value_eq, named]; rfl
  have rightNamed : ClaimSet.value ⟨right⟩ .kind = .string kind.code :=
    (same.agreeBut.value_eq (by decide)).symm.trans leftNamed
  refine (build_alike leftNamed rightNamed (same.faultAs?_eq kind) (same.allNumbers_eq _)).mono ?_
  rintro built other ⟨leftClaims, rightClaims⟩
  rw [SameButId, leftClaims, rightClaims]
  exact same

theorem steady_inherit (parent : Token) (kind : TokenKind) (scope : String) (life : Lifetime)
    (ids : Option IdSource) : Draw.Steady (Started kind) (parent.inherit kind scope life ids)
      (parent.inherit kind scope life ids) := by
  unfold inherit
  split
  · exact Draw.steady_throw _
  · cases ids with
    | none => exact Draw.steady_throw _
    | some source =>
      dsimp only
      split
      · exact Draw.steady_throw _
      · refine Draw.steady_bind (Draw.steady_drawId source) fun leftId rightId _ =>
          Draw.steady_pure ⟨?_, ?_⟩
        · have members (id : String) : parent.carried inheritedClaims ++
              freshMembers kind id life scope =
                (parent.carried inheritedClaims ++ [(Claim.kind.name, .string kind.code)]) ++
                  (Claim.id.name, .string id) :: [(Claim.issuedAt.name, life.issuedAt),
                    (Claim.expiresAt.name, life.expiresAt), (Claim.scope.name, .string scope)] := by
            rw [List.append_assoc]
            rfl
          exact ⟨_, _, leftId, rightId, members leftId, members rightId⟩
        · rw [Members.get?_append, get?_carried, if_neg (by decide), get?_freshMembers]
          rfl

/-- **Access tokens of one parent differ in their ids alone**, or they fail alike. -/
theorem steady_deriveAccess (parent : Token) (request : ScopeRequest) (life : Lifetime)
    (ids : Option IdSource) (withAcr : Bool) :
    Draw.Steady SameButId (parent.deriveAccess request life ids withAcr)
      (parent.deriveAccess request life ids withAcr) :=
  Draw.steady_ofResult_bind _ fun scope =>
    Draw.steady_bind (parent.steady_inherit .accessToken scope life ids) fun _ _ started =>
      Draw.steady_ofResult (build_steady ((started.append _).append _))

/-- **Refresh tokens of one parent differ in their ids alone**, or they fail alike. -/
theorem steady_deriveRefresh (parent : Token) (request : ScopeRequest) (life : Lifetime)
    (ids : Option IdSource) :
    Draw.Steady SameButId (parent.deriveRefresh request life ids)
      (parent.deriveRefresh request life ids) :=
  Draw.steady_ofResult_bind _ fun scope =>
    Draw.steady_bind (parent.steady_inherit .refreshToken scope life ids) fun _ _ started =>
      Draw.steady_ofResult (build_steady (started.append _))

/-- **Tokens that are minted of the same inputs differ in their ids alone**, or they fail alike. -/
theorem steady_mint (ids : Option IdSource) (kind : TokenKind) (request : TokenRequest)
    (options : TokenOptions) : Draw.Steady SameButId (mint ids kind request options)
      (mint ids kind request options) := by
  unfold mint
  cases ids with
  | none => exact Draw.steady_throw _
  | some source =>
    dsimp only
    split
    · exact Draw.steady_throw _
    · split
      · exact Draw.steady_throw _
      · refine Draw.steady_bind (Draw.steady_drawId source) fun leftId rightId _ =>
          Draw.steady_ofResult_bind _ fun scope => Draw.steady_ofResult (build_steady ⟨?_, rfl⟩)
        exact ⟨[(Claim.kind.name, .string kind.code)], _, leftId, rightId, rfl, rfl⟩

/-! ## Sealing -/

/-- **The nonce decides nothing** when tokens are sealed that differ in their ids alone. -/
theorem steady_sealed (same : SameButId first second) (context : Context) :
    Draw.Steady (fun _ _ => True) (first.sealed context) (second.sealed context) := by
  have sealable := Draw.steady_ofResult (serialize_alike (Members.SameButId.writeError?_eq same))
  refine Draw.steady_bind sealable fun left right _ => ?_
  rw [same.expiresAt_eq]
  intro leftSupply rightSupply
  rw [run_ofDefect, run_ofDefect]
  exact (KeyRing.steady_wrap context.ring context.random (Utf8.encode left) (Utf8.encode right)
    (.int second.expiresAt) leftSupply rightSupply).mapError _

end Token
end SealedGrant
