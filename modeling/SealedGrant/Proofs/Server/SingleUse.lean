import Mathlib
import SealedGrant.Proofs.Grant.Decision
import SealedGrant.Proofs.Policy
import SealedGrant.Proofs.Server.Run

/-! # Grants that are used once

Along a run whose times never decrease, a code is redeemed once at most, and so is a refresh token
where refresh tokens rotate (`SealedGrant.Server.redeemed_at_most_once`). What carries the proof is
that a grant that was reserved is held until the last second in which it could be accepted
(`SealedGrant.Server.Record.Reserves.holds`), whether or not the request was granted in the end, so
that it is not reserved again (`SealedGrant.Server.pairwise_not_reserves`).
-/

namespace SealedGrant

namespace Server

/-- A request is granted tokens in a record. -/
def Record.Grants (record : Record) (request : GrantRequest) (tokens : Issued) : Prop :=
  record.event.operation = .handle request ∧
    (record.before.handle record.event.clock request).result = .ok (.granted tokens)

/-- A request that presents a text as a grant of a kind is granted tokens in a record. -/
def Record.GrantsFor (record : Record) (kind : TokenKind) (text : String) : Prop :=
  ∃ request tokens, record.Grants request tokens ∧ Grant.grantKind? request = some kind ∧
    Grant.presentedText? request = some text

/-- The text of a sealed token opens as the token in a record. -/
def Record.Opens (record : Record) (kind : TokenKind) (text : String) (token : Token) : Prop :=
  Token.ofSealed record.before.context.ring record.before.context.sealSkew
    record.event.clock.sealing kind text = .ok token

/-- A text is redeemed in a record as the token that it opens as. -/
def Record.Redeems (record : Record) (kind : TokenKind) (text : String) (grant : Token) : Prop :=
  record.GrantsFor kind text ∧ record.Opens kind text grant

variable {record : Record} {kind : TokenKind} {text : String} {grant : Token}

/-- A request is refused in a record. -/
def Record.Refuses (record : Record) (request : GrantRequest) (refusal : Refusal) : Prop :=
  record.event.operation = .handle request ∧
    (record.before.handle record.event.clock request).result = .ok (.refused refusal)

/-- A text is reserved in a record as the token that it opens as: it is redeemed, or the request
that presents it is refused after the reservation. -/
def Record.Reserves (record : Record) (kind : TokenKind) (text : String) (grant : Token) : Prop :=
  record.Redeems kind text grant ∨ ∃ request refusal, record.Refuses request refusal ∧
    refusal.after = .replayReserved ∧ Grant.grantKind? request = some kind ∧
    Grant.presentedText? request = some text ∧ record.Opens kind text grant

/-- The store that a record finds counts from its reading to a second. -/
def Record.CountsTo (record : Record) (ends : ℤ) : Prop :=
  record.before.service.store.CountsTo record.event.clock.store ends

/-- What a record answers to a request is the answer of the service, which leaves the service of the
server after it. -/
theorem Record.handled {request : GrantRequest} {answer : Answer}
    (same : record.event.operation = .handle request)
    (result : (record.before.handle record.event.clock request).result = .ok answer) :
    ∃ readings, record.event.clock.readings = .ok readings ∧
      Grant.handle record.before.context readings request record.before.service =
        (answer, record.after.service) ∧
      record.after = { record.before with service := record.after.service } := by
  obtain ⟨server, clock, operation⟩ := record
  simp only at same result
  subst same
  cases reads : clock.readings with
  | error cause =>
    rw [handle, reads] at result
    cases result
  | ok readings =>
    rw [handle_eq reads, Except.ok.injEq] at result
    rw [Record.after, step_handle_of_readings reads]
    exact ⟨readings, rfl, Prod.ext result rfl, rfl⟩

theorem Record.result_eq {readings : Readings}
    (reads : record.event.clock.readings = .ok readings) (request : GrantRequest) :
    (record.before.handle record.event.clock request).result =
      .ok (Grant.handle record.before.context readings request record.before.service).1 := by
  rw [handle_eq reads]

/-- What is granted in a record was accepted, reserved and issued for there. -/
theorem Record.Grants.cases {request : GrantRequest} {tokens : Issued}
    (granted : record.Grants request tokens) :
    ∃ readings grant, record.event.clock.readings = .ok readings ∧
      Grant.accept record.before.context readings request = .ok grant ∧
      Grant.reserve record.before.context.policy readings grant record.before.service.store =
        (.ok (), record.after.service.store) ∧
      (Grant.issue record.before.context request readings.now grant).run
        record.before.service.supply = (.ok tokens, record.after.service.supply) := by
  obtain ⟨readings, reads, handled, -⟩ := Record.handled granted.1 granted.2
  obtain ⟨grant, accepted, reserved, ran⟩ := Grant.handle_eq_granted_iff.mp handled
  exact ⟨readings, grant, reads, accepted, reserved, ran⟩

/-- What is accepted in a record opens there. -/
theorem Record.opens_of_accept {readings : Readings}
    (reads : record.event.clock.readings = .ok readings) {request : GrantRequest}
    (accepted : Grant.accept record.before.context readings request = .ok grant) :
    ∃ kind text, Grant.grantKind? request = some kind ∧
      Grant.presentedText? request = some text ∧ record.Opens kind text grant := by
  obtain ⟨kind, text, read, opened, -⟩ := Grant.accept_eq_ok_iff.mp accepted
  obtain ⟨kindEq, textEq⟩ := Grant.presented_eq_ok read
  rw [(Event.shown_of_readings reads).2] at opened
  exact ⟨kind, text, kindEq, textEq, opened⟩

/-- Whoever is granted tokens redeems the token that the presented text opens as. -/
theorem Record.Grants.redeems {request : GrantRequest} {tokens : Issued}
    (granted : record.Grants request tokens) :
    ∃ kind text grant, Grant.grantKind? request = some kind ∧
      Grant.presentedText? request = some text ∧ record.Redeems kind text grant := by
  obtain ⟨readings, grant, reads, accepted, -⟩ := granted.cases
  obtain ⟨kind, text, kindEq, textEq, opened⟩ := Record.opens_of_accept reads accepted
  exact ⟨kind, text, grant, kindEq, textEq, ⟨request, tokens, granted, kindEq, textEq⟩, opened⟩

/-- Every text for which tokens are granted is redeemed as some token. -/
theorem Record.GrantsFor.redeems (granted : record.GrantsFor kind text) :
    ∃ grant, record.Redeems kind text grant := by
  obtain ⟨request, tokens, grants, kindEq, textEq⟩ := granted
  obtain ⟨_, _, grant, kindSame, textSame, redeems⟩ := grants.redeems
  rw [kindEq] at kindSame
  rw [textEq] at textSame
  cases kindSame
  cases textSame
  exact ⟨grant, redeems⟩

theorem Record.Redeems.kind_eq (redeems : record.Redeems kind text grant) : grant.kind = kind :=
  (Token.ofSealed_eq_ok_iff.mp redeems.2).1

/-- What is accepted in a record is what the presented text opens as there. -/
theorem Record.Opens.eq_of_accept (opens : record.Opens kind text grant) {readings : Readings}
    (reads : record.event.clock.readings = .ok readings) {request : GrantRequest} {found : Token}
    (accepted : Grant.accept record.before.context readings request = .ok found)
    (kindEq : Grant.grantKind? request = some kind)
    (textEq : Grant.presentedText? request = some text) : found = grant := by
  obtain ⟨_, _, kindSame, textSame, opened⟩ := Record.opens_of_accept reads accepted
  rw [kindEq] at kindSame
  rw [textEq] at textSame
  cases kindSame
  cases textSame
  exact Except.ok.inj (opened.symm.trans opens)

/-- **What is reserved in a record** was accepted there, and the store took the reservation. -/
theorem Record.Reserves.cases (reserves : record.Reserves kind text grant) :
    grant.kind = kind ∧ ∃ readings, record.event.clock.readings = .ok readings ∧
      (∃ request, Grant.accept record.before.context readings request = .ok grant) ∧
      Grant.reserve record.before.context.policy readings grant record.before.service.store =
        (.ok (), record.after.service.store) := by
  rcases reserves with ⟨⟨request, tokens, granted, kindEq, textEq⟩, opens⟩ |
      ⟨request, refusal, refused, after, kindEq, textEq, opens⟩
  · obtain ⟨readings, found, reads, accepted, reserved, -⟩ := granted.cases
    obtain rfl := opens.eq_of_accept reads accepted kindEq textEq
    exact ⟨(Token.ofSealed_eq_ok_iff.mp opens).1, readings, reads, ⟨request, accepted⟩, reserved⟩
  · obtain ⟨readings, reads, handled, -⟩ := Record.handled refused.1 refused.2
    rcases Grant.handle_refused_cases handled with ⟨early, -⟩ |
        ⟨found, accepted, ⟨identified, -⟩ | ⟨-, reserved, -⟩⟩
    · exact absurd after early.ne_replayReserved
    · rw [after] at identified
      cases identified
    · obtain rfl := opens.eq_of_accept reads accepted kindEq textEq
      exact ⟨(Token.ofSealed_eq_ok_iff.mp opens).1, readings, reads, ⟨request, accepted⟩, reserved⟩

theorem Record.Reserves.opens (reserves : record.Reserves kind text grant) :
    record.Opens kind text grant := by
  rcases reserves with redeems | ⟨_, _, -, -, -, -, opens⟩
  · exact redeems.2
  · exact opens

/-- **What is accepted and then reserved** in a record is reserved there, whatever comes of the rest
of the request. -/
theorem Record.reserves_of_reserve {request : GrantRequest}
    (same : record.event.operation = .handle request) {readings : Readings}
    (reads : record.event.clock.readings = .ok readings)
    (accepted : Grant.accept record.before.context readings request = .ok grant)
    (reserved : (Grant.reserve record.before.context.policy readings grant
      record.before.service.store).1 = .ok ())
    (kindEq : Grant.grantKind? request = some kind)
    (textEq : Grant.presentedText? request = some text) : record.Reserves kind text grant := by
  obtain ⟨_, _, kindSame, textSame, opens⟩ := Record.opens_of_accept reads accepted
  obtain rfl := Option.some.inj (kindSame.symm.trans kindEq)
  obtain rfl := Option.some.inj (textSame.symm.trans textEq)
  cases ran : (Grant.issue record.before.context request readings.now grant).run
      record.before.service.supply with
  | mk result supply =>
    have answers := Grant.answer_of_reserved accepted reserved ran
    cases result with
    | ok tokens =>
      have granted : record.Grants request tokens :=
        ⟨same, by rw [Record.result_eq reads, answers.1 tokens rfl]⟩
      exact Or.inl ⟨⟨request, tokens, granted, kindEq, textEq⟩, opens⟩
    | error cause =>
      have refused : record.Refuses request ⟨cause, .replayReserved, some grant.id⟩ :=
        ⟨same, by rw [Record.result_eq reads, answers.2 cause rfl]⟩
      exact Or.inr ⟨request, _, refused, rfl, kindEq, textEq, opens⟩

section Whole

variable {skew : ℤ} (whole : record.before.context.policy.skew = .int skew)

section Timed

variable (timed : record.event.IsTimed)

include whole timed

/-- What is reserved in a record was looked at before its time was over. -/
theorem Record.Reserves.asked_lt (reserves : record.Reserves kind text grant) :
    record.event.asked < grant.expiresAt + skew := by
  obtain ⟨-, readings, reads, ⟨request, accepted⟩, -⟩ := reserves.cases
  obtain ⟨_, _, -, -, identified⟩ := Grant.accept_eq_ok_iff.mp accepted
  rw [← (timed.of_readings reads).1]
  exact Grant.lt_of_identify whole identified

variable (once : Grant.singleUse record.before.context.policy kind = true)

include once

/-- **A reserved grant is held** until it can no longer be accepted, and longer by the delay of its
record. -/
theorem Record.Reserves.holds_delayed (reserves : record.Reserves kind text grant)
    (counts : record.CountsTo (grant.expiresAt + skew + record.event.delay)) :
    record.after.service.store.Holds grant.id (grant.expiresAt + skew + record.event.delay) := by
  have early := reserves.asked_lt whole timed
  obtain ⟨rfl, readings, reads, -, reserved⟩ := reserves.cases
  obtain ⟨now, shows⟩ := timed.of_readings reads
  rw [Record.CountsTo, ← Event.store_of_readings reads, Event.delay, ← now] at counts
  rw [Event.delay, ← now]
  exact Grant.holds_of_reserve whole once shows (by rwa [now]) counts reserved

/-- **A spent grant is not reserved** before the time that it is spent until. -/
theorem Record.Reserves.le_of_spent (reserves : record.Reserves kind text grant)
    {ends earlier : ℤ} (order : earlier ≤ record.event.stored)
    (spent : record.before.service.store.Spent grant.id ends earlier) :
    ends ≤ record.event.stored := by
  obtain ⟨rfl, readings, reads, -, reserved⟩ := reserves.cases
  exact Grant.le_of_reserve_of_spent whole once (timed.of_readings reads).2 order spent reserved

end Timed

variable (once : Grant.singleUse record.before.context.policy kind = true) {second : ℤ}
  (within : record.event.IsWithin second)

include whole once within

/-- **A reserved grant is held** until it can no longer be accepted. -/
theorem Record.Reserves.holds (reserves : record.Reserves kind text grant)
    (counts : record.CountsTo (grant.expiresAt + skew)) :
    record.after.service.store.Holds grant.id (grant.expiresAt + skew) := by
  have holds := reserves.holds_delayed whole within.isTimed once
  rw [within.delay_eq, add_zero] at holds
  exact holds counts

/-- **A spent grant is not reserved.** -/
theorem not_reserves_of_spent {earlier : ℤ} (order : earlier ≤ second)
    (spent : record.before.service.store.Spent grant.id (grant.expiresAt + skew) earlier) :
    ¬ record.Reserves kind text grant := by
  intro reserves
  rw [← within.stored_eq] at order
  have early := reserves.asked_lt whole within.isTimed
  have passed := reserves.le_of_spent whole within.isTimed once order spent
  rw [within.asked_eq] at early
  rw [within.stored_eq] at passed
  exact absurd early (not_lt.mpr passed)

end Whole

section Run

variable {server : Server} {skew start : ℤ} (whole : server.context.policy.skew = .int skew)
  {events : List Event}

include whole

/-- A token that was reserved is spent in the rest of the run. -/
theorem pairwise_spent (ordered : InSeconds start events) :
    (server.records events).Pairwise fun first later => ∀ kind text grant,
      Grant.singleUse server.context.policy kind = true → first.Reserves kind text grant →
        first.CountsTo (grant.expiresAt + skew) →
          ∃ earlier second, earlier ≤ second ∧ later.event.IsWithin second ∧
            later.before.service.store.Spent grant.id (grant.expiresAt + skew) earlier := by
  refine pairwise_records (fun found => found.context.policy = server.context.policy)
    (fun found event same => policy_step.trans same) ?_ ordered rfl
  intro found event rest second same within ordered later member kind text grant once reserves
    counts
  -- the invariant of the rest of the run: the grant's time has passed, or the store still holds it
  have holds := reserves.holds (by rw [same, whole]) (by rw [same, once]) within counts
  have kept : Kept fun found second =>
      found.service.store.Spent grant.id (grant.expiresAt + skew) second :=
    fun found event earlier second spent order within => spent_step within.store order spent
  exact kept.of_mem_records (Or.inr holds) ordered member

/-- **A token that was reserved** is not reserved again in the same run. -/
theorem pairwise_not_reserves (ordered : InSeconds start events) :
    (server.records events).Pairwise fun first later => ∀ kind text₁ text₂ grant,
      Grant.singleUse server.context.policy kind = true → first.Reserves kind text₁ grant →
        first.CountsTo (grant.expiresAt + skew) → ¬ later.Reserves kind text₂ grant := by
  refine (pairwise_spent whole ordered).imp_of_mem ?_
  intro first later _ right spends kind text₁ text₂ grant once reserves counts
  obtain ⟨earlier, second, order, within, spent⟩ := spends kind text₁ grant once reserves counts
  have same := policy_of_mem_records right
  exact not_reserves_of_spent (by rw [same, whole]) (by rw [same, once]) within order spent

/-- A token that was redeemed is not redeemed again in the same run. -/
theorem pairwise_not_redeems (once : Grant.singleUse server.context.policy kind = true)
    (ordered : InOrder start events) :
    (server.records events).Pairwise fun first later => ∀ text₁ text₂ grant,
      first.Redeems kind text₁ grant → ¬ later.Redeems kind text₂ grant := by
  refine (pairwise_not_reserves whole ordered.inSeconds).imp_of_mem ?_
  intro first later left _ never text₁ text₂ grant redeems redeemsLater
  obtain ⟨time, stands⟩ := ordered.exists_isAt left
  exact never kind text₁ text₂ grant once (Or.inl redeems) (stands.countsTo _ _)
    (Or.inl redeemsLater)

end Run

/-- No two secrets of the records open a text. -/
def OneSecret (records : List Record) (text : String) : Prop :=
  ∀ first ∈ records, ∀ second ∈ records, ∀ id secret₁ secret₂ plain₁ plain₂ expiry₁ expiry₂,
    first.before.context.ring.secret? id = some secret₁ →
    second.before.context.ring.secret? id = some secret₂ →
    KeyRing.Opens id secret₁ text plain₁ expiry₁ → KeyRing.Opens id secret₂ text plain₂ expiry₂ →
    secret₁ = secret₂

/-- Under one secret a text opens as one token. -/
theorem OneSecret.eq_of_opens {records : List Record} (one : OneSecret records text)
    {first second : Record} (left : first ∈ records) (right : second ∈ records)
    {grant₁ grant₂ : Token} (opens₁ : first.Opens kind text grant₁)
    (opens₂ : second.Opens kind text grant₂) : grant₁ = grant₂ := by
  obtain ⟨-, id₁, secret₁, expiry₁, bound₁, holds₁, -⟩ := Token.ofSealed_eq_ok_iff.mp opens₁
  obtain ⟨-, id₂, secret₂, expiry₂, bound₂, holds₂, -⟩ := Token.ofSealed_eq_ok_iff.mp opens₂
  obtain rfl := Token.Holds.id_eq holds₁ holds₂
  obtain ⟨plain₁, plainOpens₁, read₁⟩ := holds₁
  obtain ⟨plain₂, plainOpens₂, read₂⟩ := holds₂
  obtain rfl := one first left second right _ _ _ _ _ _ _ bound₁ bound₂ plainOpens₁ plainOpens₂
  exact Token.Holds.unique ⟨plain₁, plainOpens₁, read₁⟩ ⟨plain₂, plainOpens₂, read₂⟩

/-- **A grant is redeemed once at most.** In a run whose clock never goes back, under a policy whose
tolerance is in whole seconds, no code is redeemed twice, and no refresh token where refresh tokens
rotate: no text is redeemed twice as one token, and where no two secrets of the run open a text, no
two requests that present it are granted. -/
theorem redeemed_at_most_once {server : Server}
    (whole : server.context.policy.skewSpan.IsWhole) {start : ℤ} {events : List Event}
    (ordered : InOrder start events)
    (once : kind = .authorizationCode ∨ server.context.policy.rotation = .rotateAndRevoke)
    (text : String) :
    ((server.records events).Pairwise fun first later => ∀ grant,
      ¬ (first.Redeems kind text grant ∧ later.Redeems kind text grant)) ∧
    (OneSecret (server.records events) text →
      (server.records events).Pairwise fun first later =>
        ¬ (first.GrantsFor kind text ∧ later.GrantsFor kind text)) := by
  have single : Grant.singleUse server.context.policy kind = true := by
    simpa [Grant.singleUse, Policy.rotates] using once
  have apart := pairwise_not_redeems whole single ordered
  refine ⟨apart.imp fun never grant both => never text text grant both.1 both.2, fun one => ?_⟩
  refine apart.imp_of_mem fun left right never both => ?_
  obtain ⟨grant₁, redeems₁⟩ := both.1.redeems
  obtain ⟨grant₂, redeems₂⟩ := both.2.redeems
  obtain rfl := one.eq_of_opens left right redeems₁.2 redeems₂.2
  exact never text text _ redeems₁ redeems₂

/-- A server that was just started. -/
def sample : Server where
  context := Sample.context
  service := Sample.state
  secretSetting := ⟨"2b", 4, List.replicate 16 0⟩
  registry := none
  audit := none
  spareTable := false

/-- A code is presented twice, the second time when its life is over but for the tolerance. -/
def sampleEvents (text : String) : List Event :=
  [⟨.still 1700000000, .issueCode Sample.codeRequest⟩,
    ⟨.still 1700000010, .handle (Grant.codeGrant text)⟩, ⟨.still 1700000310, .purge⟩,
    ⟨.still 1700000350, .handle (Grant.codeGrant text)⟩]

theorem redeemed_at_most_once_sample : ∃ text,
    (Grant.issueCode Sample.context 1700000000 Sample.codeRequest Sample.state).result =
      .ok text ∧
    (sample.records (sampleEvents text)).Pairwise fun first later =>
      ¬ (first.GrantsFor .authorizationCode text ∧ later.GrantsFor .authorizationCode text) := by
  obtain ⟨text, issued⟩ := Sample.exists_issueCode
  have ordered : InOrder 1700000000 (sampleEvents text) :=
    ⟨1700000000, by norm_num, rfl, 1700000010, by norm_num, rfl, 1700000310, by norm_num, rfl,
      1700000350, by norm_num, rfl, trivial⟩
  have one : OneSecret (sample.records (sampleEvents text)) text := by
    have rings : ∀ record ∈ sample.records (sampleEvents text),
        record.before.context.ring = Sample.context.ring := by
      simp only [sampleEvents, records, List.mem_cons, List.not_mem_nil, or_false]
      rintro record (rfl | rfl | rfl | rfl) <;> rfl
    intro first left second right id secret₁ secret₂ _ _ _ _ bound₁ bound₂ _ _
    rw [rings first left] at bound₁
    rw [rings second right, bound₁] at bound₂
    exact Option.some.inj bound₂
  have whole : sample.context.policy.skewSpan.IsWhole := rfl
  exact ⟨text, issued, (redeemed_at_most_once whole ordered (Or.inl rfl) text).2 one⟩

end Server
end SealedGrant
