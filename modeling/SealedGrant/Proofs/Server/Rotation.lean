import Mathlib
import SealedGrant.Proofs.Server.Effects

/-! # Rotating refresh tokens

Where refresh tokens rotate, a token has one refresh token at most that succeeds it
(`SealedGrant.Server.eq_of_succeeds`), and each refresh token succeeds one token, because its id was
drawn in one record only (`SealedGrant.Server.eq_of_succeeds_right`). So what descends from a code
is a chain without a cycle, of which one token at most has not been redeemed
(`SealedGrant.Server.single_chain`).
-/

namespace SealedGrant

namespace Server

namespace Redemption

variable {link first second : Redemption}

/-- The parent of a redemption is redeemed in its record. -/
theorem Valid.exists_redeems (valid : link.Valid) :
    ∃ kind text, link.record.Redeems kind text link.parent := by
  obtain ⟨kind, text, kindEq, textEq, opens⟩ := valid.redeems
  exact ⟨kind, text, ⟨link.request, link.tokens, valid.granted, kindEq, textEq⟩, opens⟩

/-- **A record holds one redemption.** -/
theorem Valid.eq_of_record (left : first.Valid) (right : second.Valid)
    (same : first.record = second.record) : first = second := by
  obtain ⟨record, request₁, tokens₁, parent₁, access₁, refresh₁⟩ := first
  obtain ⟨_, request₂, tokens₂, parent₂, access₂, refresh₂⟩ := second
  subst same
  obtain ⟨operation₁, answer₁⟩ := left.granted
  obtain ⟨operation₂, answer₂⟩ := right.granted
  simp only at operation₁ operation₂ answer₁ answer₂
  rw [operation₁] at operation₂
  cases operation₂
  rw [answer₁] at answer₂
  cases answer₂
  obtain ⟨kind₁, text₁, kindEq₁, textEq₁, opens₁⟩ := left.redeems
  obtain ⟨kind₂, text₂, kindEq₂, textEq₂, opens₂⟩ := right.redeems
  simp only at kindEq₁ kindEq₂ textEq₁ textEq₂ opens₁ opens₂
  obtain rfl := Option.some.inj (kindEq₁.symm.trans kindEq₂)
  obtain rfl := Option.some.inj (textEq₁.symm.trans textEq₂)
  obtain rfl : parent₁ = parent₂ := Except.ok.inj (opens₁.symm.trans opens₂)
  obtain rfl : access₁ = access₂ := left.access.unique right.access
  obtain rfl : refresh₁ = refresh₂ := eq_of_rel_seals left.refresh right.refresh
  rfl

/-- What a redemption of a checked token yields is checked, and its ids were drawn in the record. -/
theorem Valid.drawn (valid : link.Valid)
    (exact : RandomSource.Exact link.record.before.context.random)
    (formed : link.parent.WellFormed) (canonical : link.parent.Canonical) :
    (∀ token, link.refresh = some token → token.WellFormed ∧ token.Canonical) ∧
      link.record.before.context.ids.Drawn link.record.before.service.supply
        (link.issued.map Token.id) link.record.after.service.supply :=
  (valid.continues exact formed canonical (Token.Inherits.refl _) rfl).2

theorem mem_issued (link : Redemption) {child : Token} (refresh : link.refresh = some child) :
    child.id ∈ link.issued.map Token.id :=
  List.mem_map_of_mem (List.mem_cons_of_mem _ (Option.mem_toList.mpr refresh))

/-- A redemption yields a refresh token when one is due. -/
theorem Valid.exists_refresh (valid : link.Valid)
    (due : Grant.yieldsRefresh link.record.before.context.policy link.parent.kind = true) :
    ∃ child, link.refresh = some child := by
  obtain ⟨readings, grant, reads, accepted, -, ran⟩ := valid.granted.cases
  obtain ⟨kind, text, kindEq, textEq, opens⟩ := valid.redeems
  obtain rfl := opens.eq_of_accept reads accepted kindEq textEq
  have refresh := valid.refresh
  obtain ⟨derived, first, second, accessText, closed, derives, -, refreshCloses, same⟩ :=
    Grant.run_issue_eq_ok_iff.mp ran
  obtain ⟨_, _, -, -, refreshRun, -⟩ := Grant.run_derive_eq_ok_iff.mp derives
  rw [same] at refresh
  rcases Grant.run_refreshOf_eq_ok_iff.mp refreshRun with
      ⟨none_due, -⟩ | ⟨-, _, token, -, some_due, -⟩
  · rw [due] at none_due
    cases none_due
  · rw [some_due] at refreshCloses
    rcases Grant.run_sealedRefresh_eq_ok_iff.mp refreshCloses with
        ⟨absent, -⟩ | ⟨_, text, -, rfl, -⟩
    · cases absent
    · generalize link.refresh = child at refresh
      cases refresh with
      | some seals => exact ⟨_, rfl⟩

end Redemption

/-! ## Succession -/

/-- A refresh token succeeds a token: some record of a run redeems the token and yields it. -/
def Succeeds (records : List Record) (parent child : Token) : Prop :=
  ∃ link : Redemption, link.record ∈ records ∧ link.Valid ∧ link.parent = parent ∧
    link.refresh = some child

/-- A token is redeemed in some record of a run. -/
def IsRedeemed (records : List Record) (token : Token) : Prop :=
  ∃ record ∈ records, ∃ kind text, record.Redeems kind text token

/-- A token and the refresh tokens that come of it in a run. -/
abbrev Descends (records : List Record) : Token → Token → Prop :=
  Relation.ReflTransGen (Succeeds records)

theorem Succeeds.isRedeemed {records : List Record} {parent child : Token}
    (succeeds : Succeeds records parent child) : IsRedeemed records parent := by
  obtain ⟨link, member, valid, rfl, -⟩ := succeeds
  exact ⟨link.record, member, valid.exists_redeems⟩

/-- Of two records of a run one comes before the other, unless they are the same. -/
theorem eq_or_rel_of_mem {related : Record → Record → Prop} {records : List Record}
    (pairwise : records.Pairwise related) {first second : Record} (left : first ∈ records)
    (right : second ∈ records) : first = second ∨ related first second ∨ related second first := by
  have symmetric : Std.Symm fun a b => related a b ∨ related b a := ⟨fun _ _ => Or.symm⟩
  have both : records.Pairwise fun a b => related a b ∨ related b a := pairwise.imp Or.inl
  by_cases same : first = second
  · exact Or.inl same
  · exact Or.inr (both.forall left right same)

/-- An id is drawn in a record. -/
def Record.Draws (record : Record) (id : String) : Prop :=
  ∃ drawn, record.before.context.ids.Drawn record.before.service.supply drawn
    record.after.service.supply ∧ id ∈ drawn

/-- **An id is drawn in one record** of a run when the source never repeats one. -/
theorem eq_of_draws {server : Server} (fresh : server.context.ids.NeverRepeats)
    {events : List Event} {first second : Record} (left : first ∈ server.records events)
    (right : second ∈ server.records events) {id : String} (drawsLeft : first.Draws id)
    (drawsRight : second.Draws id) : first = second := by
  obtain ⟨drawn₁, run₁, member₁⟩ := drawsLeft
  obtain ⟨drawn₂, run₂, member₂⟩ := drawsRight
  obtain ⟨ring₁, context₁⟩ := context_of_mem_records left
  obtain ⟨ring₂, context₂⟩ := context_of_mem_records right
  rw [context₁] at run₁
  rw [context₂] at run₂
  rcases eq_or_rel_of_mem (pairwise_reaches server events) left right with same | order | order
  · exact same
  · exact absurd rfl (run₁.ne_of_reaches fresh order run₂ member₁ member₂)
  · exact absurd rfl (run₂.ne_of_reaches fresh order run₁ member₂ member₁)

section Descent

variable {server : Server} {events : List Event} {code : Token}
  (exact : RandomSource.Exact server.context.random) {issue : Record}
  (member : issue ∈ server.records events) (issued : issue.IssuesCode code)

include exact

theorem exact_of_mem_records {record : Record} (member : record ∈ server.records events) :
    RandomSource.Exact record.before.context.random := by
  obtain ⟨ring, context⟩ := context_of_mem_records member
  rw [context]
  exact exact

/-- The successor of a checked token is checked, and its id was drawn in the record. -/
theorem Succeeds.sound {parent child : Token}
    (succeeds : Succeeds (server.records events) parent child) (formed : parent.WellFormed)
    (canonical : parent.Canonical) : (child.WellFormed ∧ child.Canonical) ∧
      ∃ link : Redemption, link.record ∈ server.records events ∧ link.Valid ∧
        link.parent = parent ∧ link.refresh = some child ∧ link.record.Draws child.id := by
  obtain ⟨link, member, valid, rfl, refresh⟩ := succeeds
  obtain ⟨sound, drawn⟩ := valid.drawn (exact_of_mem_records exact member) formed canonical
  exact ⟨sound child refresh, link, member, valid, rfl, refresh, _, drawn, link.mem_issued refresh⟩

include member issued

/-- **What descends from an issued code is checked.** -/
theorem sound_of_descends {token : Token} (descends : Descends (server.records events) code token) :
    token.WellFormed ∧ token.Canonical := by
  obtain ⟨formed, canonical, -⟩ := issued.cases (exact_of_mem_records exact member)
  induction descends with
  | refl => exact ⟨formed, canonical⟩
  | tail _ succeeds ih => exact (succeeds.sound exact ih.1 ih.2).1

variable (fresh : server.context.ids.NeverRepeats)

include fresh

/-- **A refresh token succeeds one token** of those that descend from a code. -/
theorem eq_of_succeeds_right {parent₁ parent₂ child : Token}
    (descends₁ : Descends (server.records events) code parent₁)
    (descends₂ : Descends (server.records events) code parent₂)
    (left : Succeeds (server.records events) parent₁ child)
    (right : Succeeds (server.records events) parent₂ child) : parent₁ = parent₂ := by
  have sound₁ := sound_of_descends exact member issued descends₁
  have sound₂ := sound_of_descends exact member issued descends₂
  obtain ⟨-, first, member₁, valid₁, rfl, -, draws₁⟩ := left.sound exact sound₁.1 sound₁.2
  obtain ⟨-, second, member₂, valid₂, rfl, -, draws₂⟩ := right.sound exact sound₂.1 sound₂.2
  rw [valid₁.eq_of_record valid₂ (eq_of_draws fresh member₁ member₂ draws₁ draws₂)]

/-- A code succeeds no token: it was issued, not yielded. -/
theorem not_succeeds_code {parent : Token}
    (descends : Descends (server.records events) code parent) :
    ¬ Succeeds (server.records events) parent code := by
  intro succeeds
  obtain ⟨formed, canonical⟩ := sound_of_descends exact member issued descends
  obtain ⟨-, link, found, valid, -, -, draws⟩ := succeeds.sound exact formed canonical
  obtain ⟨-, -, drawn⟩ := issued.cases (exact_of_mem_records exact member)
  obtain rfl : issue = link.record :=
    eq_of_draws fresh member found ⟨_, drawn, List.mem_singleton_self _⟩ draws
  obtain ⟨request, text, operation, -⟩ := issued
  rw [valid.granted.1] at operation
  cases operation

/-- **No token comes of itself** among those that descend from a code. -/
theorem not_transGen_of_descends {token : Token}
    (descends : Descends (server.records events) code token) :
    ¬ Relation.TransGen (Succeeds (server.records events)) token token := by
  induction descends with
  | refl =>
    intro cycle
    obtain ⟨last, before, succeeds⟩ := Relation.TransGen.tail'_iff.mp cycle
    exact not_succeeds_code exact member issued fresh before succeeds
  | tail descends succeeds ih =>
    intro cycle
    obtain ⟨last, before, again⟩ := Relation.TransGen.tail'_iff.mp cycle
    -- what leads back to the token comes of it, so it descends from the code as well
    obtain rfl := eq_of_succeeds_right exact member issued fresh
      ((descends.tail succeeds).trans before) descends again succeeds
    exact ih (Relation.TransGen.head' succeeds before)

end Descent

section Run

variable {server : Server} {skew start : ℤ} (whole : server.context.policy.skew = .int skew)
  (rotates : server.context.policy.rotation = .rotateAndRevoke) {events : List Event}
  (ordered : InSeconds start events)
  (counts : ∀ record ∈ server.records events, ∀ kind text grant,
    record.Redeems kind text grant → record.CountsTo (grant.expiresAt + skew))

include whole rotates ordered counts

/-- Where refresh tokens rotate, no token is redeemed in two records. -/
theorem pairwise_not_redeems_again : (server.records events).Pairwise fun first later =>
    ∀ kind₁ kind₂ text₁ text₂ grant, first.Redeems kind₁ text₁ grant →
      ¬ later.Redeems kind₂ text₂ grant := by
  refine (pairwise_not_reserves whole ordered).imp_of_mem ?_
  intro first later left _ never kind₁ kind₂ text₁ text₂ grant redeems redeemsLater
  have single : Grant.singleUse server.context.policy kind₁ = true := by
    simp [Grant.singleUse, Policy.rotates, rotates]
  obtain rfl : kind₁ = kind₂ := redeems.kind_eq.symm.trans redeemsLater.kind_eq
  exact never kind₁ text₁ text₂ grant single (Or.inl redeems) (counts first left _ _ _ redeems)
    (Or.inl redeemsLater)

/-- **A token is redeemed once**, by one redemption. -/
theorem eq_of_parent {first second : Redemption} (left : first.record ∈ server.records events)
    (right : second.record ∈ server.records events) (validLeft : first.Valid)
    (validRight : second.Valid) (same : first.parent = second.parent) : first = second := by
  obtain ⟨kind₁, text₁, redeems₁⟩ := validLeft.exists_redeems
  obtain ⟨kind₂, text₂, redeems₂⟩ := validRight.exists_redeems
  rw [same] at redeems₁
  rcases eq_or_rel_of_mem (pairwise_not_redeems_again whole rotates ordered counts) left right with
    equal | never | never
  · exact validLeft.eq_of_record validRight equal
  · exact absurd redeems₂ (never _ _ _ _ _ redeems₁)
  · exact absurd redeems₁ (never _ _ _ _ _ redeems₂)

/-- **A token has one successor at most.** -/
theorem eq_of_succeeds {parent child₁ child₂ : Token}
    (left : Succeeds (server.records events) parent child₁)
    (right : Succeeds (server.records events) parent child₂) : child₁ = child₂ := by
  obtain ⟨first, member₁, valid₁, rfl, refresh₁⟩ := left
  obtain ⟨second, member₂, valid₂, same, refresh₂⟩ := right
  obtain rfl := eq_of_parent whole rotates ordered counts member₁ member₂ valid₁ valid₂ same.symm
  rw [refresh₁] at refresh₂
  exact Option.some.inj refresh₂

/-- Of the tokens that descend from one, one comes of the other. -/
theorem total_of_descends {token first second : Token}
    (left : Descends (server.records events) token first)
    (right : Descends (server.records events) token second) :
    Descends (server.records events) first second ∨
      Descends (server.records events) second first :=
  Relation.ReflTransGen.total_of_right_unique
    (fun _ _ _ one other => eq_of_succeeds whole rotates ordered counts one other) left right

/-- **One token at most is left** of those that descend from one. -/
theorem eq_of_not_isRedeemed {token first second : Token}
    (left : Descends (server.records events) token first)
    (right : Descends (server.records events) token second)
    (firstLeft : ¬ IsRedeemed (server.records events) first)
    (secondLeft : ¬ IsRedeemed (server.records events) second) : first = second := by
  rcases total_of_descends whole rotates ordered counts left right with between | between
  · rcases between.cases_head with same | ⟨next, succeeds, -⟩
    · exact same
    · exact absurd succeeds.isRedeemed firstLeft
  · rcases between.cases_head with same | ⟨next, succeeds, -⟩
    · exact same.symm
    · exact absurd succeeds.isRedeemed secondLeft

end Run

/-- **Rotation keeps one refresh token per code.** In a run whose seconds never decrease, where
refresh tokens rotate, every reservation was counted to its end and no id is handed out twice: a
token has one successor at most; what descends from an issued code is a chain without a cycle, and
one token of it at most has not been redeemed; a token that was redeemed is not redeemed later, nor
is anything granted for its text where no two secrets of the run open it. -/
theorem single_chain {server : Server} (exact : RandomSource.Exact server.context.random)
    (fresh : server.context.ids.NeverRepeats) {skew : ℤ}
    (whole : server.context.policy.skew = .int skew)
    (rotates : server.context.policy.rotation = .rotateAndRevoke) {start : ℤ} {events : List Event}
    (ordered : InSeconds start events)
    (counts : ∀ record ∈ server.records events, ∀ kind text grant,
      record.Redeems kind text grant → record.CountsTo (grant.expiresAt + skew))
    {issue : Record} (member : issue ∈ server.records events) {code : Token}
    (issued : issue.IssuesCode code) :
    (∀ parent child₁ child₂, Succeeds (server.records events) parent child₁ →
      Succeeds (server.records events) parent child₂ → child₁ = child₂) ∧
    (∀ first second, Descends (server.records events) code first →
      Descends (server.records events) code second →
        (Descends (server.records events) first second ∨
          Descends (server.records events) second first) ∧
        (¬ IsRedeemed (server.records events) first → ¬ IsRedeemed (server.records events) second →
          first = second)) ∧
    (∀ token, Descends (server.records events) code token →
      ¬ Relation.TransGen (Succeeds (server.records events)) token token) ∧
    (server.records events).Pairwise fun first later => ∀ kind text grant,
      first.Redeems kind text grant → (∀ other, ¬ later.Redeems kind other grant) ∧
        (OneSecret (server.records events) text → ¬ later.GrantsFor kind text) := by
  refine ⟨fun parent child₁ child₂ => eq_of_succeeds whole rotates ordered counts,
    fun first second left right => ⟨total_of_descends whole rotates ordered counts left right,
      eq_of_not_isRedeemed whole rotates ordered counts left right⟩,
    fun token => not_transGen_of_descends exact member issued fresh, ?_⟩
  refine (pairwise_not_redeems_again whole rotates ordered counts).imp_of_mem ?_
  intro first later left right never kind text grant redeems
  refine ⟨fun other => never kind kind text other grant redeems, fun one granted => ?_⟩
  obtain ⟨other, redeemsLater⟩ := granted.redeems
  obtain rfl := one.eq_of_opens left right redeems.2 redeemsLater.2
  exact never kind kind text text grant redeems redeemsLater

/-- A token that is redeemed where a refresh token is due has a successor. -/
theorem Record.Grants.exists_succeeds {records : List Record} {record : Record}
    (member : record ∈ records) {request : GrantRequest} {tokens : Issued}
    (granted : record.Grants request tokens)
    (exact : RandomSource.Exact record.before.context.random) {readings : Readings}
    (reads : record.event.clock.readings = .ok readings) {parent : Token}
    (accepted : Grant.accept record.before.context readings request = .ok parent)
    (formed : parent.WellFormed) (canonical : parent.Canonical)
    (due : Grant.yieldsRefresh record.before.context.policy parent.kind = true) :
    ∃ child, Succeeds records parent child ∧ record.Draws child.id := by
  obtain ⟨link, valid, rfl, rfl⟩ := granted.exists_valid exact reads accepted canonical
  obtain ⟨child, refresh⟩ := valid.exists_refresh due
  exact ⟨child, ⟨link, member, valid, rfl, refresh⟩, _,
    (valid.drawn exact formed canonical).2, link.mem_issued refresh⟩

/-- A code and its refresh token: the code has no other successor. -/
theorem single_chain_sample : ∃ text child,
    Succeeds (sample.records (issueAndRedeem text)) Sample.readCode child ∧
    (∀ other, Succeeds (sample.records (issueAndRedeem text)) Sample.readCode other →
      child = other) ∧
    ¬ Relation.TransGen (Succeeds (sample.records (issueAndRedeem text))) child child := by
  obtain ⟨text, issued⟩ := Sample.exists_issueCode
  have records : sample.records (issueAndRedeem text) = [issueRecord, redeemRecord text] := rfl
  have ordered : InOrder 0 (issueAndRedeem text) :=
    ⟨1700000000, by norm_num, rfl, 1700000010, by norm_num, rfl, trivial⟩
  have counts : ∀ record ∈ sample.records (issueAndRedeem text), ∀ kind text grant,
      record.Redeems kind text grant → record.CountsTo (grant.expiresAt + 60) := by
    intro record member kind text grant _
    obtain ⟨time, stands⟩ := ordered.exists_isAt member
    exact stands.countsTo _ _
  have due : Grant.yieldsRefresh (redeemRecord text).before.context.policy Sample.readCode.kind =
      true := by
    rw [context_redeemRecord]
    rfl
  obtain ⟨tokens, granted⟩ := exists_grants_redeemRecord issued
  have issue : issueRecord ∈ sample.records (issueAndRedeem text) := by
    rw [records]
    exact List.mem_cons_self
  have redeemed : redeemRecord text ∈ sample.records (issueAndRedeem text) := by
    rw [records]
    exact List.mem_cons_of_mem _ (List.mem_singleton_self _)
  obtain ⟨child, succeeds, -⟩ := granted.exists_succeeds redeemed Sample.exact_random rfl
    (accept_redeemRecord issued) (Token.wellFormed_stored Sample.wellFormed_code)
    (Token.canonical_stored Sample.wellFormed_code) due
  obtain ⟨unique, -, acyclic, -⟩ := single_chain Sample.exact_random
    IdSource.neverRepeats_numbered rfl rfl ordered.inSeconds counts
    issue (issuesCode_issueRecord issued)
  exact ⟨text, child, succeeds, fun other => unique _ _ _ succeeds,
    acyclic child (Relation.ReflTransGen.single succeeds)⟩

/-- **A code can have two refresh tokens**, where it is redeemed half a second before zero and once
more half a second before its life and the tolerance are over. -/
theorem two_successors : ∃ text child₁ child₂,
    zeroRecord ∈ sample.records (zeroEvents (Grant.codeGrant text) text) ∧
    zeroRecord.IssuesCode Sample.readZeroCode ∧ halfBefore.le halfLeft = true ∧
    Succeeds (sample.records (zeroEvents (Grant.codeGrant text) text)) Sample.readZeroCode child₁ ∧
    Succeeds (sample.records (zeroEvents (Grant.codeGrant text) text)) Sample.readZeroCode child₂ ∧
    child₁ ≠ child₂ := by
  obtain ⟨text, issued⟩ := Sample.exists_issue_zeroCode
  have formed : Sample.readZeroCode.WellFormed :=
    Token.wellFormed_stored Sample.wellFormed_zeroCode
  have canonical : Sample.readZeroCode.Canonical :=
    Token.canonical_stored Sample.wellFormed_zeroCode
  have records : sample.records (zeroEvents (Grant.codeGrant text) text) =
      [zeroRecord, earlyRecord (Grant.codeGrant text), lateRecord (Grant.codeGrant text) text] :=
    rfl
  have issue : zeroRecord ∈ sample.records (zeroEvents (Grant.codeGrant text) text) := by
    rw [records]
    exact List.mem_cons_self
  have early : earlyRecord (Grant.codeGrant text) ∈
      sample.records (zeroEvents (Grant.codeGrant text) text) := by
    rw [records]
    exact List.mem_cons_of_mem _ List.mem_cons_self
  have late : lateRecord (Grant.codeGrant text) text ∈
      sample.records (zeroEvents (Grant.codeGrant text) text) := by
    rw [records]
    exact List.mem_cons_of_mem _ (List.mem_cons_of_mem _ (List.mem_singleton_self _))
  have minted : (Grant.mintCode zeroRecord.before.context 0 Sample.zeroRequest).run
      zeroRecord.before.service.supply = (.ok Sample.zeroCode, ⟨1, 0⟩) := Sample.run_mint_zeroCode
  obtain ⟨tokens₁, granted₁, redeems₁⟩ := exists_redeems_earlyRecord issued
  obtain ⟨tokens₂, granted₂⟩ := exists_grants_lateRecord issued (Or.inl redeems₁)
  obtain ⟨child₁, succeeds₁, draws₁⟩ := granted₁.exists_succeeds early
    (by rw [context_earlyRecord]; exact Sample.exact_random) rfl (accept_earlyRecord issued _)
    formed canonical (by rw [context_earlyRecord]; rfl)
  obtain ⟨child₂, succeeds₂, draws₂⟩ := granted₂.exists_succeeds late
    (by rw [context_lateRecord]; exact Sample.exact_random) rfl (accept_lateRecord issued _)
    formed canonical (by rw [context_lateRecord]; rfl)
  refine ⟨text, child₁, child₂, issue, zeroRecord.issuesCode rfl rfl Sample.exact_random
    issued minted Sample.wellFormed_zeroCode, rfl, succeeds₁, succeeds₂, ?_⟩
  rintro rfl
  have same : earlyRecord (Grant.codeGrant text) = lateRecord (Grant.codeGrant text) text :=
    eq_of_draws IdSource.neverRepeats_numbered early late draws₁ draws₂
  have shown : halfBefore = halfLeft := congrArg (fun record => record.event.clock.service) same
  cases shown

end Server
end SealedGrant
