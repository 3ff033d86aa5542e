import Mathlib
import SealedGrant.Proofs.Reservation.Interval
import SealedGrant.Proofs.Server.Lineage

/-! # A clock that moves during a request

The service looks at a request in one second and the store is asked in another, maybe a later one.
What the service accepts is decided in the first and what the store has forgotten in the second, so
a reservation may be over although the grant was still accepted: the later request overtakes the
earlier one (`SealedGrant.Server.Event.Overtakes`). Nothing else lets a grant that can be used once
be reserved twice, and it never happens three times
(`SealedGrant.Server.reserved_again_only_if_overtaken`). At whole readings it happens whenever a
request overtakes the one before it (`SealedGrant.Server.Record.Reserves.again_iff`).
-/

namespace SealedGrant

namespace Server

/-- From a second on no reading goes back, though seconds may pass while an event takes place: the
store is asked no sooner than the service looks. Nothing is said of the reading of the sealing. -/
def Moving : ℤ → List Event → Prop
  | _, [] => True
  | start, event :: rest =>
      start ≤ event.asked ∧ event.IsTimed ∧ event.asked ≤ event.stored ∧ Moving event.stored rest

/-- A later event overtakes an earlier one at the end of a life: the service looks while the life
lasts, but the store is asked only when it has been over for the delay of the earlier event. -/
structure Event.Overtakes (later first : Event) (ends : ℤ) : Prop where
  order : first.stored ≤ later.asked
  early : later.asked < ends
  late : ends + first.delay ≤ later.stored

variable {server : Server} {kind : TokenKind} {skew start : ℤ} {events : List Event}

/-- **What is spent stays spent** while the clock moves. -/
theorem Moving.spent_of_mem_records (moving : Moving start events) {id : String} {ends : ℤ}
    (spent : server.service.store.Spent id ends start) {record : Record}
    (member : record ∈ server.records events) :
    start ≤ record.event.asked ∧ record.event.IsTimed ∧
      record.event.asked ≤ record.event.stored ∧
      record.before.service.store.Spent id ends record.event.asked := by
  induction events generalizing server start with
  | nil => cases member
  | cons event rest ih =>
    obtain ⟨order, timed, forward, moving⟩ := moving
    rcases List.mem_cons.mp member with rfl | member
    · exact ⟨order, timed, forward, spent.mono order⟩
    · have kept := spent_step timed.store (order.trans forward) spent
      obtain ⟨after, others⟩ := ih moving kept member
      exact ⟨(order.trans forward).trans after, others⟩

/-- A grant that is reserved twice was overtaken the second time. -/
theorem Moving.pairwise_overtakes (moving : Moving start events)
    (whole : server.context.policy.skew = .int skew)
    (once : Grant.singleUse server.context.policy kind = true) :
    (server.records events).Pairwise fun first later => ∀ text₁ text₂ grant,
      first.Reserves kind text₁ grant → later.Reserves kind text₂ grant →
        first.CountsTo (grant.expiresAt + skew + first.event.delay) →
          later.event.Overtakes first.event (grant.expiresAt + skew) := by
  induction events generalizing server start with
  | nil => exact List.Pairwise.nil
  | cons event rest ih =>
    obtain ⟨-, timed, -, moving⟩ := moving
    refine List.Pairwise.cons ?_
      (ih moving (by rw [policy_step, whole]) (by rw [policy_step, once]))
    intro later member text₁ text₂ grant reserves again counts
    -- the store holds the grant's id from here on, or the time of the reservation has passed
    have holds := reserves.holds_delayed whole timed once counts
    obtain ⟨order, timedLater, forward, spent⟩ :=
      moving.spent_of_mem_records (Or.inr holds) member
    have same : later.before.context.policy = server.context.policy :=
      (policy_of_mem_records member).trans policy_step
    have wholeLater : later.before.context.policy.skew = .int skew := by rw [same, whole]
    exact ⟨order, again.asked_lt wholeLater timedLater,
      again.le_of_spent wholeLater timedLater (by rw [same, once]) forward spent⟩

/-- What was overtaken once is too late to be overtaken again. -/
theorem Event.Overtakes.not_overtakes {first second third : Event} {ends : ℤ}
    (overtakes : second.Overtakes first ends) (forward : first.asked ≤ first.stored) :
    ¬ third.Overtakes second ends := by
  intro again
  have late := overtakes.late
  have order := again.order
  have early := again.early
  unfold delay at late
  omega

theorem Moving.asked_le_stored (moving : Moving start events) {record : Record}
    (member : record ∈ server.records events) : record.event.asked ≤ record.event.stored := by
  induction events generalizing server start with
  | nil => cases member
  | cons event rest ih =>
    obtain ⟨-, -, forward, moving⟩ := moving
    rcases List.mem_cons.mp member with rfl | member
    · exact forward
    · exact ih moving member

/-- **A grant is reserved again only if its reservation is overtaken.** Take a run in which seconds
may pass during an event but no reading goes back, a grant that can be used once, and a store that
counts to the ends of the reservations that are made, as it always does from whole readings. Then a
request for which the grant is reserved again was looked at while the grant was accepted, and the
store was asked when the reservation was over. No third request follows, and where no two secrets of
the run open a text, what is reserved twice for the text is one grant. -/
theorem reserved_again_only_if_overtaken (whole : server.context.policy.skew = .int skew)
    (moving : Moving start events)
    (once : kind = .authorizationCode ∨ server.context.policy.rotation = .rotateAndRevoke)
    (counts : ∀ record ∈ server.records events, ∀ text grant, record.Reserves kind text grant →
      record.CountsTo (grant.expiresAt + skew + record.event.delay)) :
    ((server.records events).Pairwise fun first later => ∀ text₁ text₂ grant,
      first.Reserves kind text₁ grant → later.Reserves kind text₂ grant →
        later.event.Overtakes first.event (grant.expiresAt + skew)) ∧
    (∀ first second third, [first, second, third].Sublist (server.records events) →
      ∀ text₁ text₂ text₃ grant, first.Reserves kind text₁ grant →
        second.Reserves kind text₂ grant → ¬ third.Reserves kind text₃ grant) ∧
    ∀ text, OneSecret (server.records events) text →
      (server.records events).Pairwise fun first later => ∀ grant₁ grant₂,
        first.Reserves kind text grant₁ → later.Reserves kind text grant₂ →
          grant₁ = grant₂ ∧ later.event.Overtakes first.event (grant₁.expiresAt + skew) := by
  have single : Grant.singleUse server.context.policy kind = true := by
    simpa [Grant.singleUse, Policy.rotates] using once
  have overtakes : (server.records events).Pairwise fun first later => ∀ text₁ text₂ grant,
      first.Reserves kind text₁ grant → later.Reserves kind text₂ grant →
        later.event.Overtakes first.event (grant.expiresAt + skew) :=
    (moving.pairwise_overtakes whole single).imp_of_mem
      fun left _ overtaken text₁ text₂ grant reserves again =>
        overtaken text₁ text₂ grant reserves again (counts _ left text₁ grant reserves)
  refine ⟨overtakes, ?_, fun text one => ?_⟩
  · intro first second third along text₁ text₂ text₃ grant reserves again yetAgain
    have forward := moving.asked_le_stored (along.subset List.mem_cons_self)
    have three := List.pairwise_cons.mp (overtakes.sublist along)
    have once := three.1 second List.mem_cons_self text₁ text₂ grant reserves again
    have twice := List.rel_of_pairwise_cons three.2 (List.mem_singleton_self third)
    exact once.not_overtakes forward (twice text₂ text₃ grant again yetAgain)
  · refine overtakes.imp_of_mem fun left right overtaken grant₁ grant₂ reserves again => ?_
    obtain rfl := one.eq_of_opens left right reserves.opens again.opens
    exact ⟨rfl, overtaken text text grant₁ reserves again⟩

/-! ## One request after the other -/

/-- **At whole readings a grant is reserved again whenever it is overtaken**: a request that is
accepted finds the grant free when the store, in order and with numbers that fit it, is asked after
the reservation before is over. -/
theorem Record.Reserves.again_iff {first later : Record} {text₁ text₂ : String} {grant : Token}
    (reserves : first.Reserves kind text₁ grant)
    (whole : first.before.context.policy.skew = .int skew)
    (same : later.before.context.policy = first.before.context.policy)
    (once : Grant.singleUse first.before.context.policy kind = true)
    (timed : first.event.IsTimed) (stored : first.event.clock.store = .int first.event.stored)
    (kept : later.before.service.store = first.after.service.store)
    (serves : first.after.service.store.Serves) {request : GrantRequest}
    (handled : later.event.operation = .handle request) {asked time : ℤ} {sealing : Number}
    (reads : later.event.clock.readings = .ok ⟨asked, sealing, .int time⟩)
    (accepted : Grant.accept later.before.context ⟨asked, sealing, .int time⟩ request = .ok grant)
    (kindEq : Grant.grantKind? request = some kind)
    (textEq : Grant.presentedText? request = some text₂) (startFits : Number.fitsWord time = true)
    (endFits : Number.fitsWord (time + max (grant.expiresAt + skew - asked) 1) = true) :
    later.Reserves kind text₂ grant ↔ grant.expiresAt + skew + first.event.delay ≤ time := by
  have early := reserves.asked_lt whole timed
  have wholeLater : later.before.context.policy.skew = .int skew := by rw [same, whole]
  obtain ⟨rfl, readings, readsFirst, -, reserved⟩ := reserves.cases
  have onceLater : Grant.singleUse later.before.context.policy grant.kind = true := by
    rw [same, once]
  have shown : readings.store = .int first.event.stored := by
    rw [Event.store_of_readings readsFirst, stored]
  rw [Grant.reserve_eq_ok_iff whole once, shown, (timed.of_readings readsFirst).1] at reserved
  have ends : first.event.stored + max (grant.expiresAt + skew - first.event.asked) 1 =
      grant.expiresAt + skew + first.event.delay := by
    rw [Event.delay, max_eq_left (by omega)]
    omega
  have held : Reservation.reserved (first.after.service.store.live (.int time)) grant.id = true ↔
      time < grant.expiresAt + skew + first.event.delay := by
    rw [← ends]
    exact ReservationStore.reserved_live_of_reserved reserved
  have answer : (first.after.service.store.reserve (.int time) grant.id
      (.int (grant.expiresAt + skew - asked))).1 = _ :=
    ReservationStore.reserve_answer serves startFits endFits
  rw [← kept] at held answer
  constructor
  · intro again
    obtain ⟨-, _, readsAgain, -, reservedAgain⟩ := again.cases
    obtain rfl := Except.ok.inj (readsAgain.symm.trans reads)
    rw [Grant.reserve_eq_ok_iff wholeLater onceLater] at reservedAgain
    rw [reservedAgain] at answer
    by_contra soon
    rw [if_pos (held.mpr (not_le.mp soon))] at answer
    cases answer
  · intro late
    apply Record.reserves_of_reserve handled reads accepted _ kindEq textEq
    rw [if_neg fun live => not_le.mpr (held.mp live) late] at answer
    cases ran : later.before.service.store.reserve (.int time) grant.id
        (.int (grant.expiresAt + skew - asked)) with
    | mk given last =>
      rw [ran] at answer
      cases answer
      rw [(Grant.reserve_eq_ok_iff wholeLater onceLater).mpr ran]

/-! ## A code that is redeemed twice

The service looks at the later request in the last second in which the code is accepted, and the
store is asked in the next one.
-/

/-- The last second of the code's life and of the tolerance passes before the store is asked. -/
def overtakingEvent (text : String) : Event :=
  ⟨⟨1700000359, 1700000359, 1700000360⟩, .handle (Grant.codeGrant text)⟩

/-- The code is issued, redeemed, and presented again as late as can be. -/
def overtakingEvents (text : String) : List Event :=
  issueAndRedeem text ++ [overtakingEvent text]

/-- The record of the last request. -/
def overtakingRecord (text : String) : Record :=
  ⟨(redeemRecord text).after, overtakingEvent text⟩

theorem records_overtakingEvents (text : String) : sample.records (overtakingEvents text) =
    [issueRecord, redeemRecord text, overtakingRecord text] := rfl

theorem moving_overtakingEvents (text : String) : Moving 1700000000 (overtakingEvents text) := by
  have first : (1700000000 : ℤ) ≤ 1700000010 := by norm_num
  have second : (1700000010 : ℤ) ≤ 1700000359 := by norm_num
  have last : (1700000359 : ℤ) ≤ 1700000360 := by norm_num
  exact ⟨le_rfl, ⟨rfl, rfl⟩, le_rfl, first, ⟨rfl, rfl⟩, le_rfl, second, ⟨rfl, rfl⟩, last, trivial⟩

theorem context_overtakingRecord (text : String) :
    (overtakingRecord text).before.context = Sample.context := by
  have same : (overtakingRecord text).before.context = (redeemRecord text).before.context :=
    context_step_handle rfl
  rw [same, context_redeemRecord]

section Issued

variable {text : String} (issued : (Grant.issueCode Sample.context 1700000000 Sample.codeRequest
  Sample.state).result = .ok text)

include issued

theorem redeems_redeemRecord :
    (redeemRecord text).Redeems .authorizationCode text Sample.readCode := by
  obtain ⟨tokens, granted⟩ := exists_grants_redeemRecord issued
  obtain ⟨kind, other, kindEq, textEq, opens⟩ :=
    Record.opens_of_accept rfl (accept_redeemRecord issued)
  cases kindEq
  cases textEq
  exact ⟨⟨_, tokens, granted, rfl, rfl⟩, opens⟩

theorem store_overtakingRecord : (overtakingRecord text).before.service.store =
    .memory [⟨"id-1", 1700000360⟩] := by
  have taken : Grant.reserve Sample.context.policy (readingsAt 1700000010) Sample.readCode
      (.memory []) = (.ok (), .memory [⟨"id-1", 1700000360⟩]) := by
    rw [Sample.readCode, Grant.reserve_stored]
    rfl
  obtain ⟨-, readings, reads, -, reserved⟩ :=
    Record.Reserves.cases (Or.inl (redeems_redeemRecord issued))
  cases reads
  have empty : (redeemRecord text).before.service.store = .memory [] := store_issueRecord
  rw [context_redeemRecord, empty] at reserved
  exact (Prod.ext_iff.mp (reserved.symm.trans taken)).2

theorem redeems_overtakingRecord :
    (overtakingRecord text).Redeems .authorizationCode text Sample.readCode := by
  have opened : Token.ofSealed Sample.context.ring Sample.context.sealSkew (.int 1700000359)
      .authorizationCode text = .ok Sample.readCode := Sample.ofSealed_code issued (by norm_num)
  have ready : Grant.Ready Sample.context 1700000359 Sample.readCode :=
    Grant.ready_of_issueCode Sample.exact_random Grant.isWhole_policy issued opened (by decide)
      (by decide) (by decide)
  have identified : Grant.identify Sample.context.policy (Grant.codeGrant text) 1700000359
      Sample.code = .ok () := rfl
  have accepted : Grant.accept (overtakingRecord text).before.context
      ⟨1700000359, 1700000359, 1700000360⟩ (Grant.codeGrant text) = .ok Sample.readCode := by
    rw [context_overtakingRecord]
    exact Grant.accept_of_ofSealed opened
      (by rw [Sample.readCode, Grant.identify_stored, identified])
  have reserved : (Grant.reserve (overtakingRecord text).before.context.policy
      ⟨1700000359, 1700000359, 1700000360⟩ Sample.readCode
      (overtakingRecord text).before.service.store).1 = .ok () := by
    rw [context_overtakingRecord, store_overtakingRecord issued, Sample.readCode,
      Grant.reserve_stored]
    rfl
  have authenticated : Sample.readCode.authTime ≤ 1700000359 := by
    rw [Sample.readCode, Token.authTime_stored]
    decide
  obtain ⟨tokens, granted⟩ := (overtakingRecord text).exists_grants rfl rfl
    (by rwa [context_overtakingRecord]) accepted reserved rfl authenticated
  refine ⟨⟨_, tokens, granted, rfl, rfl⟩, ?_⟩
  rw [Record.Opens, context_overtakingRecord]
  exact opened

end Issued

/-- **A code is redeemed twice** though no reading of the clock, all of them whole, goes back. -/
theorem redeems_twice_when_overtaken : ∃ text, (Grant.issueCode Sample.context 1700000000
      Sample.codeRequest Sample.state).result = .ok text ∧
    sample.records (overtakingEvents text) =
      [issueRecord, redeemRecord text, overtakingRecord text] ∧
    Moving 1700000000 (overtakingEvents text) ∧
    (redeemRecord text).event.clock = .still 1700000010 ∧
    (overtakingRecord text).event.clock = ⟨1700000359, 1700000359, 1700000360⟩ ∧
    (redeemRecord text).Redeems .authorizationCode text Sample.readCode ∧
    (overtakingRecord text).Redeems .authorizationCode text Sample.readCode := by
  obtain ⟨text, issued⟩ := Sample.exists_issueCode
  exact ⟨text, issued, records_overtakingEvents text, moving_overtakingEvents text, rfl, rfl,
    redeems_redeemRecord issued, redeems_overtakingRecord issued⟩

theorem reserved_again_only_if_overtaken_sample : ∃ text, (Grant.issueCode Sample.context
      1700000000 Sample.codeRequest Sample.state).result = .ok text ∧
    (redeemRecord text).Reserves .authorizationCode text Sample.readCode ∧
    (overtakingRecord text).Reserves .authorizationCode text Sample.readCode ∧
    (overtakingEvent text).Overtakes (redeemRecord text).event
      (Sample.readCode.expiresAt + 60) := by
  obtain ⟨text, issued⟩ := Sample.exists_issueCode
  have counts : ∀ record ∈ sample.records (overtakingEvents text), ∀ other grant,
      record.Reserves .authorizationCode other grant →
        record.CountsTo (grant.expiresAt + 60 + record.event.delay) := by
    intro record member other grant _
    rw [records_overtakingEvents] at member
    simp only [List.mem_cons, List.not_mem_nil, or_false] at member
    rcases member with rfl | rfl | rfl <;> exact ReservationStore.countsTo_int _ _
  have reserves : (redeemRecord text).Reserves .authorizationCode text Sample.readCode :=
    Or.inl (redeems_redeemRecord issued)
  have again : (overtakingRecord text).Reserves .authorizationCode text Sample.readCode :=
    Or.inl (redeems_overtakingRecord issued)
  have pairs := (reserved_again_only_if_overtaken rfl (moving_overtakingEvents text) (Or.inl rfl)
    counts).1
  rw [records_overtakingEvents] at pairs
  have last := List.rel_of_pairwise_cons pairs.of_cons (List.mem_singleton_self _)
  exact ⟨text, issued, reserves, again, last text text Sample.readCode reserves again⟩

end Server
end SealedGrant
