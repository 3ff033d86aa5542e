import Mathlib
import SealedGrant.Proofs.Server.Lineage

/-! # What requests change

A request that is refused before its grant is accepted changes nothing, so a run without such
requests is the same run (`SealedGrant.Server.records_leaveOut`). One that is refused as a replay
leaves the reservations that hold (`SealedGrant.Server.Record.FailsAsReplay.live`). One that comes
as far as the reservation of a grant that can be used once leaves the grant's id reserved until the
grant can no longer be accepted, whatever it is answered, and no later request succeeds with it
(`SealedGrant.Server.effects_of_requests`).
-/

namespace SealedGrant

namespace Grant

variable {context : Context} {readings : Readings} {request : GrantRequest}
  {state last : ServiceState} {refusal : Refusal}

/-- **Only a reservation that is made** changes the reservations that hold. -/
theorem live_of_handle_refused
    (refused : handle context readings request state = (.refused refusal, last))
    (after : refusal.after ≠ .replayReserved) :
    last.store.live readings.store = state.store.live readings.store := by
  rcases handle_refused_cases refused with ⟨-, rfl⟩ |
      ⟨grant, -, ⟨-, -, reserved⟩ | ⟨reserved, -⟩⟩
  · rfl
  · exact live_of_reserve_error reserved
  · exact absurd reserved after

/-- Nothing that fails as a replay was reserved: issuing has other ways to fail. -/
theorem after_ne_of_replayed
    (refused : handle context readings request state = (.refused refusal, last)) {kind : TokenKind}
    (cause : refusal.cause = .fault (.replayed kind)) : refusal.after ≠ .replayReserved := by
  intro after
  rcases handle_refused_cases refused with ⟨early, -⟩ |
      ⟨grant, -, ⟨identified, -⟩ | ⟨-, -, ran⟩⟩
  · exact early.ne_replayReserved after
  · rw [after] at identified
    cases identified
  · have code : refusal.cause.code = .invalidGrant := by
      rw [cause]
      rfl
    rcases issue_decided context request readings.now grant ran with
        ⟨check, failing, same, -⟩ | ⟨-, found, same, server⟩
    · have member : check ∈ issueChecks context.policy request readings.now grant :=
        List.mem_of_find?_eq_some failing
      simp only [issueChecks, List.mem_cons, List.not_mem_nil, or_false] at member
      rw [code] at same
      rcases member with rfl | rfl <;> cases same
    · cases same
      rw [code] at server
      cases server

end Grant

namespace Server

variable {server : Server} {record : Record}

/-! ## Early refusals -/

/-- A request is refused in a record before its grant is accepted. -/
def Record.FailsEarly (record : Record) : Prop :=
  ∃ request refusal, record.Refuses request refusal ∧ refusal.after.IsEarly

/-- **An early refusal changes nothing.** -/
theorem Record.FailsEarly.after_eq (fails : record.FailsEarly) : record.after = record.before := by
  obtain ⟨request, refusal, refused, early⟩ := fails
  obtain ⟨readings, -, handled, same⟩ := Record.handled refused.1 refused.2
  rcases Grant.handle_refused_cases handled with ⟨-, kept⟩ |
      ⟨grant, -, ⟨identified, -⟩ | ⟨reserved, -⟩⟩
  · rw [same, kept]
  · exact absurd identified early.ne_identityVerified
  · exact absurd reserved early.ne_replayReserved

/-- The server after events. -/
def run (server : Server) (events : List Event) : Server :=
  events.foldl step server

/-- What is left of a list without its marked entries. -/
def leaveOut {α : Type} (marked : List (Bool × α)) : List α :=
  (marked.filter fun entry => !entry.1).map Prod.snd

/-- The marks of the events, at the records of the run. -/
def markedRecords (server : Server) (marked : List (Bool × Event)) : List (Bool × Record) :=
  (marked.map Prod.fst).zip (server.records (marked.map Prod.snd))

/-- **A run without early refusals is the same run**: every other event finds the same server, and
so does whatever comes after. -/
theorem records_leaveOut {marked : List (Bool × Event)}
    (early : ∀ entry ∈ server.markedRecords marked, entry.1 = true → entry.2.FailsEarly) :
    server.records (leaveOut marked) = leaveOut (server.markedRecords marked) ∧
      server.run (leaveOut marked) = server.run (marked.map Prod.snd) := by
  induction marked generalizing server with
  | nil => exact ⟨rfl, rfl⟩
  | cons entry rest ih =>
    obtain ⟨mark, event⟩ := entry
    have first := early (mark, ⟨server, event⟩) List.mem_cons_self
    have others := ih fun entry member => early entry (List.mem_cons_of_mem _ member)
    cases mark with
    | false => exact ⟨congrArg (List.cons (Record.mk server event)) others.1, others.2⟩
    | true =>
      -- the marked event leaves the server as it was, so the rest of both runs starts from it
      have same : server.step event = server := (first rfl).after_eq
      rw [same] at others
      refine ⟨?_, ?_⟩
      · change server.records (leaveOut rest) =
          leaveOut ((rest.map Prod.fst).zip ((server.step event).records (rest.map Prod.snd)))
        rw [same]
        exact others.1
      · change server.run (leaveOut rest) = (server.step event).run (rest.map Prod.snd)
        rw [same]
        exact others.2

/-! ## Replays -/

/-- A request is refused in a record because its grant was used before. -/
def Record.FailsAsReplay (record : Record) : Prop :=
  ∃ request refusal kind, record.Refuses request refusal ∧
    refusal.cause = .fault (.replayed kind)

/-- **A replay leaves the reservations that hold.** -/
theorem Record.FailsAsReplay.live (fails : record.FailsAsReplay) :
    record.after.service.store.live record.event.clock.store =
      record.before.service.store.live record.event.clock.store := by
  obtain ⟨request, refusal, kind, refused, cause⟩ := fails
  obtain ⟨readings, reads, handled, -⟩ := Record.handled refused.1 refused.2
  rw [← Event.store_of_readings reads]
  exact Grant.live_of_handle_refused handled (Grant.after_ne_of_replayed handled cause)

/-! ## Reservations -/

/-- An id is reserved at every reading before a second. -/
def Reserved (server : Server) (id : String) (ends : ℤ) : Prop :=
  ∀ reading second, reading.whole = .ok second → second < ends →
    Reservation.reserved (server.service.store.live reading) id = true

theorem reserved_of_holds {id : String} {ends : ℤ} (holds : server.service.store.Holds id ends) :
    server.Reserved id ends :=
  fun _ _ shows early => holds.reserved_live shows early

/-- **What requests change.** Requests that are refused before their grant is accepted can be left
out of a run: all other events find the server that they found. A replay leaves the reservations
that hold. And a grant that can be used once, once a request came as far as its reservation, stays
reserved as long as it can be accepted, so that no later request is granted anything for it, in a
run whose seconds never decrease, if the store counted that far when it was reserved. -/
theorem effects_of_requests (server : Server) :
    (∀ marked : List (Bool × Event),
      (∀ entry ∈ server.markedRecords marked, entry.1 = true → entry.2.FailsEarly) →
      server.records (leaveOut marked) = leaveOut (server.markedRecords marked) ∧
        server.run (leaveOut marked) = server.run (marked.map Prod.snd)) ∧
    (∀ record : Record, record.FailsAsReplay →
      record.after.service.store.live record.event.clock.store =
        record.before.service.store.live record.event.clock.store) ∧
    ∀ skew : ℤ, server.context.policy.skew = .int skew → ∀ kind,
      (kind = .authorizationCode ∨ server.context.policy.rotation = .rotateAndRevoke) →
      ∀ start events, InSeconds start events →
        (∀ record ∈ server.records events, ∀ text grant, record.Reserves kind text grant →
          record.CountsTo (grant.expiresAt + skew) →
            record.after.Reserved grant.id (grant.expiresAt + skew)) ∧
        (server.records events).Pairwise fun first later => ∀ text grant,
          first.Reserves kind text grant → first.CountsTo (grant.expiresAt + skew) →
            (∀ second, later.event.IsWithin second → second < grant.expiresAt + skew →
              later.before.Reserved grant.id (grant.expiresAt + skew)) ∧
            (∀ other, ¬ later.Redeems kind other grant) ∧
            (OneSecret (server.records events) text → ¬ later.GrantsFor kind text) := by
  refine ⟨fun marked early => records_leaveOut early, fun record fails => fails.live, ?_⟩
  intro skew whole kind once start events ordered
  have single : Grant.singleUse server.context.policy kind = true := by
    simpa [Grant.singleUse, Policy.rotates] using once
  refine ⟨fun record member text grant reserves counts => ?_, ?_⟩
  · obtain ⟨second, within⟩ := ordered.exists_isWithin member
    have same := policy_of_mem_records member
    exact reserved_of_holds
      (reserves.holds (by rw [same, whole]) (by rw [same, single]) within counts)
  · refine ((pairwise_spent whole ordered).and (pairwise_not_reserves whole ordered)).imp_of_mem ?_
    intro first later left right both text grant reserves counts
    obtain ⟨earlier, found, order, withinFound, spent⟩ :=
      both.1 kind text grant single reserves counts
    refine ⟨fun second within early => ?_, fun other redeems =>
      both.2 kind text other grant single reserves counts (Or.inl redeems), fun one granted => ?_⟩
    · obtain rfl : found = second := Except.ok.inj (withinFound.store.symm.trans within.store)
      exact reserved_of_holds (spent.resolve_left (by omega))
    · obtain ⟨other, redeems⟩ := granted.redeems
      obtain rfl := one.eq_of_opens left right reserves.opens redeems.2
      exact both.2 kind text text grant single reserves counts (Or.inl redeems)

/-- A request for more than its grant has is refused in a record, and its grant is reserved. -/
theorem Record.exists_refuses {request : GrantRequest}
    (same : record.event.operation = .handle request) {readings : Readings}
    (reads : record.event.clock.readings = .ok readings) {grant : Token}
    (accepted : Grant.accept record.before.context readings request = .ok grant)
    (reserved : (Grant.reserve record.before.context.policy readings grant
      record.before.service.store).1 = .ok ())
    (beyond : Grant.asksWithin request grant = false) {kind : TokenKind} {text : String}
    (kindEq : Grant.grantKind? request = some kind)
    (textEq : Grant.presentedText? request = some text) :
    ∃ refusal, record.Refuses request refusal ∧ refusal.after = .replayReserved ∧
      record.Reserves kind text grant := by
  obtain ⟨_, _, kindSame, textSame, opens⟩ := Record.opens_of_accept reads accepted
  obtain rfl := Option.some.inj (kindSame.symm.trans kindEq)
  obtain rfl := Option.some.inj (textSame.symm.trans textEq)
  obtain ⟨refusal, answer, after⟩ := Grant.refused_of_not_asksWithin accepted reserved beyond
  have refused : record.Refuses request refusal :=
    ⟨same, by rw [Record.result_eq reads, answer]⟩
  exact ⟨refusal, refused, after,
    Or.inr ⟨request, refusal, refused, after, kindEq, textEq, opens⟩⟩

/-- A request that presents a code for more than it has. -/
def greedyGrant (text : String) : GrantRequest :=
  { Grant.codeGrant text with scope := some "admin" }

theorem asksWithin_greedyGrant (text : String) :
    Grant.asksWithin (greedyGrant text) Sample.readCode = false := by
  rw [Grant.asksWithin, Sample.readCode, Token.scope_stored]
  cbv

/-- A code is issued, asked for without its text, asked for too much, and asked for again when its
life is over but for the tolerance. -/
def greedyEvents (text : String) : List (Bool × Event) :=
  [(false, ⟨.still 1700000000, .issueCode Sample.codeRequest⟩),
    (true, ⟨.still 1700000010, .handle { Grant.codeGrant text with code := none }⟩),
    (false, ⟨.still 1700000010, .handle (greedyGrant text)⟩),
    (false, ⟨.still 1700000350, .handle (Grant.codeGrant text)⟩)]

/-- The record of the request without the text. -/
def vagueRecord (text : String) : Record :=
  ⟨issueRecord.after, ⟨.still 1700000010, .handle { Grant.codeGrant text with code := none }⟩⟩

/-- The record of the request for too much. -/
def greedyRecord (text : String) : Record :=
  ⟨(vagueRecord text).after, ⟨.still 1700000010, .handle (greedyGrant text)⟩⟩

/-- The record of the last request. -/
def replayRecord (text : String) : Record :=
  ⟨(greedyRecord text).after, ⟨.still 1700000350, .handle (Grant.codeGrant text)⟩⟩

theorem failsEarly_vagueRecord (text : String) : (vagueRecord text).FailsEarly := by
  have reads : (vagueRecord text).event.clock.readings = .ok (readingsAt 1700000010) := rfl
  exact ⟨_, ⟨.fault (.request .noCode), .start, none⟩, ⟨rfl, Record.result_eq reads _⟩, Or.inl rfl⟩

theorem before_greedyRecord (text : String) : (greedyRecord text).before = issueRecord.after :=
  (failsEarly_vagueRecord text).after_eq

theorem context_greedyRecord (text : String) :
    (greedyRecord text).before.context = Sample.context := by
  rw [before_greedyRecord]
  exact context_redeemRecord text

theorem store_greedyRecord (text : String) :
    (greedyRecord text).before.service.store = .memory [] := by
  rw [before_greedyRecord, store_issueRecord]

theorem context_replayRecord (text : String) :
    (replayRecord text).before.context = Sample.context := by
  have same : (replayRecord text).before.context = (greedyRecord text).before.context :=
    context_step_handle rfl
  rw [same, context_greedyRecord]

section Issued

variable {text : String} (issued : (Grant.issueCode Sample.context 1700000000 Sample.codeRequest
  Sample.state).result = .ok text)

include issued

theorem reserves_greedyRecord :
    (greedyRecord text).Reserves .authorizationCode text Sample.readCode ∧
      ∃ refusal, (greedyRecord text).Refuses (greedyGrant text) refusal ∧
        refusal.after = .replayReserved := by
  have accepted : Grant.accept (greedyRecord text).before.context (readingsAt 1700000010)
      (greedyGrant text) = .ok Sample.readCode := by
    rw [before_greedyRecord]
    exact accept_redeemRecord issued
  have reserved : (Grant.reserve (greedyRecord text).before.context.policy (readingsAt 1700000010)
      Sample.readCode (greedyRecord text).before.service.store).1 = .ok () := by
    rw [context_greedyRecord, store_greedyRecord, Sample.readCode, Grant.reserve_stored]
    rfl
  obtain ⟨refusal, refused, after, reserves⟩ := (greedyRecord text).exists_refuses rfl rfl accepted
    reserved (asksWithin_greedyGrant text) rfl rfl
  exact ⟨reserves, refusal, refused, after⟩

theorem failsAsReplay_replayRecord : (replayRecord text).FailsAsReplay := by
  have store : (replayRecord text).before.service.store = .memory [⟨"id-1", 1700000360⟩] := by
    have taken : Grant.reserve Sample.context.policy (readingsAt 1700000010) Sample.readCode
        (.memory []) = (.ok (), .memory [⟨"id-1", 1700000360⟩]) := by
      rw [Sample.readCode, Grant.reserve_stored]
      rfl
    obtain ⟨-, readings, reads, -, reserved⟩ := (reserves_greedyRecord issued).1.cases
    cases reads
    rw [context_greedyRecord, store_greedyRecord] at reserved
    exact (Prod.ext_iff.mp (reserved.symm.trans taken)).2
  have accepted : Grant.accept (replayRecord text).before.context (readingsAt 1700000350)
      (Grant.codeGrant text) = .ok Sample.readCode := by
    have identified : Grant.identify Sample.context.policy (Grant.codeGrant text) 1700000350
        Sample.code = .ok () := rfl
    rw [context_replayRecord]
    exact Grant.accept_codeGrant issued (by norm_num) identified
  have refused : (Grant.reserve (replayRecord text).before.context.policy (readingsAt 1700000350)
      Sample.readCode (replayRecord text).before.service.store).1 =
        .error (.fault (.replayed .authorizationCode)) := by
    rw [context_replayRecord, store, Sample.readCode, Grant.reserve_stored]
    rfl
  have answer := Grant.refused_of_reserve_error accepted refused
  have reads : (replayRecord text).event.clock.readings = .ok (readingsAt 1700000350) := rfl
  exact ⟨_, _, _, ⟨rfl, by rw [Record.result_eq reads, answer]⟩, rfl⟩

end Issued

/-- Of the four requests one leaves no trace, one uses the code up without an answer, and the last
one is a replay. -/
theorem effects_of_requests_sample : ∃ text, (Grant.issueCode Sample.context 1700000000
      Sample.codeRequest Sample.state).result = .ok text ∧
    sample.records (leaveOut (greedyEvents text)) =
      leaveOut (sample.markedRecords (greedyEvents text)) ∧
    (replayRecord text).after.service.store.live 1700000350 =
      (replayRecord text).before.service.store.live 1700000350 ∧
    (greedyRecord text).after.Reserved Sample.readCode.id (Sample.readCode.expiresAt + 60) ∧
    ∀ other, ¬ (replayRecord text).Redeems .authorizationCode other Sample.readCode := by
  obtain ⟨text, issued⟩ := Sample.exists_issueCode
  obtain ⟨early, replays, reservations⟩ := effects_of_requests sample
  have records : sample.records ((greedyEvents text).map Prod.snd) =
      [issueRecord, vagueRecord text, greedyRecord text, replayRecord text] := rfl
  have ordered : InSeconds 0 ((greedyEvents text).map Prod.snd) :=
    ⟨1700000000, by norm_num, ⟨rfl, rfl⟩, 1700000010, by norm_num, ⟨rfl, rfl⟩, 1700000010, le_rfl,
      ⟨rfl, rfl⟩, 1700000350, by norm_num, ⟨rfl, rfl⟩, trivial⟩
  obtain ⟨reserved, later⟩ := reservations 60 rfl .authorizationCode (Or.inl rfl) 0
    ((greedyEvents text).map Prod.snd) ordered
  have counts : (greedyRecord text).CountsTo (Sample.readCode.expiresAt + 60) :=
    ReservationStore.countsTo_int _ _
  have reserves := (reserves_greedyRecord issued).1
  rw [records] at reserved later
  have spent := List.rel_of_pairwise_cons later.of_cons.of_cons (List.mem_singleton_self _)
  refine ⟨text, issued, (early _ ?_).1, replays _ (failsAsReplay_replayRecord issued),
    reserved _ (by simp) _ _ reserves counts, (spent _ _ reserves counts).2.1⟩
  intro entry member marked
  rw [markedRecords, records] at member
  simp only [greedyEvents, List.map_cons, List.map_nil, List.zip_cons_cons, List.zip_nil_right,
    List.mem_cons, List.not_mem_nil, or_false] at member
  rcases member with rfl | rfl | rfl | rfl
  · cases marked
  · exact failsEarly_vagueRecord text
  · cases marked
  · cases marked

/-! ## A store that counts too little

The service takes half a second before zero for second zero, and memory adds its span to the reading
itself. So a reservation that is made there is over half a second too early, within the last second
in which the code is accepted.
-/

/-- Half a second before zero. -/
def halfBefore : Number := .double (.ofQuotient true 1 2)

/-- Half a second before the last second of the code of second zero and of the tolerance is over. -/
def halfLeft : Number := .double (.ofQuotient false 719 2)

/-- The record of the issue of the code. -/
def zeroRecord : Record := ⟨sample, ⟨.still halfBefore, .issueCode Sample.zeroRequest⟩⟩

/-- The record of the first request. -/
def earlyRecord (request : GrantRequest) : Record :=
  ⟨zeroRecord.after, ⟨.still halfBefore, .handle request⟩⟩

/-- The record of the last request. -/
def lateRecord (request : GrantRequest) (text : String) : Record :=
  ⟨(earlyRecord request).after, ⟨.still halfLeft, .handle (Grant.codeGrant text)⟩⟩

/-- The code is issued, asked for, and asked for again. -/
def zeroEvents (request : GrantRequest) (text : String) : List Event :=
  [⟨.still halfBefore, .issueCode Sample.zeroRequest⟩, ⟨.still halfBefore, .handle request⟩,
    ⟨.still halfLeft, .handle (Grant.codeGrant text)⟩]

theorem after_zeroRecord : zeroRecord.after = { sample with
    service := (Grant.issueCode Sample.context 0 Sample.zeroRequest Sample.state).state } :=
  step_issueCode_of_now rfl Sample.zeroRequest

theorem context_earlyRecord (request : GrantRequest) :
    (earlyRecord request).before.context = Sample.context :=
  congrArg context after_zeroRecord

theorem store_earlyRecord (request : GrantRequest) :
    (earlyRecord request).before.service.store = .memory [] := by
  rw [earlyRecord, after_zeroRecord, Grant.store_issueCode]
  rfl

theorem context_lateRecord (request : GrantRequest) (text : String) :
    (lateRecord request text).before.context = Sample.context := by
  have same : (lateRecord request text).before.context = (earlyRecord request).before.context :=
    context_step_handle rfl
  rw [same, context_earlyRecord]

theorem reserve_early : Grant.reserve Sample.context.policy ⟨0, halfBefore, halfBefore⟩
    Sample.readZeroCode (.memory []) = (.ok (), .memory [⟨"id-1", halfLeft⟩]) := by
  rw [Sample.readZeroCode, Grant.reserve_stored]
  rfl

section Zero

variable {text : String} (issued : (Grant.issueCode Sample.context 0 Sample.zeroRequest
  Sample.state).result = .ok text)

include issued

theorem accept_earlyRecord (request : GrantRequest) :
    Grant.accept (earlyRecord request).before.context ⟨0, halfBefore, halfBefore⟩
      (Grant.codeGrant text) = .ok Sample.readZeroCode := by
  have identified : Grant.identify Sample.context.policy (Grant.codeGrant text) 0 Sample.zeroCode =
      .ok () := rfl
  rw [context_earlyRecord]
  exact Grant.accept_of_ofSealed (Sample.ofSealed_zeroCode issued rfl)
    (by rw [Sample.readZeroCode, Grant.identify_stored, identified])

theorem accept_lateRecord (request : GrantRequest) :
    Grant.accept (lateRecord request text).before.context ⟨359, halfLeft, halfLeft⟩
      (Grant.codeGrant text) = .ok Sample.readZeroCode := by
  have identified : Grant.identify Sample.context.policy (Grant.codeGrant text) 359
      Sample.zeroCode = .ok () := rfl
  rw [context_lateRecord]
  exact Grant.accept_of_ofSealed (Sample.ofSealed_zeroCode issued rfl)
    (by rw [Sample.readZeroCode, Grant.identify_stored, identified])

theorem ready_zeroCode (now : ℤ) (small : now < 360) :
    Grant.Ready Sample.context now Sample.readZeroCode := by
  have bound : (360 : ℤ) + 7200 < KeyRing.expiryLimit := by decide
  have access : Sample.context.policy.accessTtl.count = 3600 := rfl
  have refresh : Sample.context.policy.refreshTtl.count = 7200 := rfl
  have id : Sample.context.policy.idTtl.count = 3600 := rfl
  exact Grant.ready_of_issueCode Sample.exact_random Grant.isWhole_policy issued
    (Sample.ofSealed_zeroCode issued (show (Number.int 360).le halfBefore = false from rfl))
    (by omega) (by omega) (by omega)

/-- The first time the code is granted tokens when that is what is asked for. -/
theorem exists_redeems_earlyRecord :
    ∃ tokens, (earlyRecord (Grant.codeGrant text)).Grants (Grant.codeGrant text) tokens ∧
      (earlyRecord (Grant.codeGrant text)).Redeems .authorizationCode text
        Sample.readZeroCode := by
  have reserved : (Grant.reserve (earlyRecord (Grant.codeGrant text)).before.context.policy
      ⟨0, halfBefore, halfBefore⟩ Sample.readZeroCode
      (earlyRecord (Grant.codeGrant text)).before.service.store).1 = .ok () := by
    rw [context_earlyRecord, store_earlyRecord, reserve_early]
  have ready : Grant.Ready (earlyRecord (Grant.codeGrant text)).before.context 0
      Sample.readZeroCode := by
    rw [context_earlyRecord]
    exact ready_zeroCode issued 0 (by norm_num)
  have authenticated : Sample.readZeroCode.authTime ≤ 0 := by
    rw [Sample.readZeroCode, Token.authTime_stored]
    decide
  have opens : (earlyRecord (Grant.codeGrant text)).Opens .authorizationCode text
      Sample.readZeroCode := by
    rw [Record.Opens, context_earlyRecord]
    exact Sample.ofSealed_zeroCode issued rfl
  obtain ⟨tokens, granted⟩ := (earlyRecord (Grant.codeGrant text)).exists_grants rfl rfl ready
    (accept_earlyRecord issued _) reserved rfl authenticated
  exact ⟨tokens, granted, ⟨_, tokens, granted, rfl, rfl⟩, opens⟩

/-- Whatever came of the first reservation, the code is granted tokens again. -/
theorem exists_grants_lateRecord {request : GrantRequest} (reserves :
    (earlyRecord request).Reserves .authorizationCode text Sample.readZeroCode) :
    ∃ tokens, (lateRecord request text).Grants (Grant.codeGrant text) tokens := by
  have store : (lateRecord request text).before.service.store = .memory [⟨"id-1", halfLeft⟩] := by
    obtain ⟨-, readings, reads, -, reserved⟩ := reserves.cases
    have same : (earlyRecord request).event.clock.readings = .ok ⟨0, halfBefore, halfBefore⟩ := rfl
    obtain rfl := Except.ok.inj (reads.symm.trans same)
    rw [context_earlyRecord, store_earlyRecord, reserve_early] at reserved
    exact (Prod.ext_iff.mp reserved).2.symm
  have reserved : (Grant.reserve (lateRecord request text).before.context.policy
      ⟨359, halfLeft, halfLeft⟩ Sample.readZeroCode
      (lateRecord request text).before.service.store).1 = .ok () := by
    rw [context_lateRecord, store, Sample.readZeroCode, Grant.reserve_stored]
    rfl
  have ready : Grant.Ready (lateRecord request text).before.context 359 Sample.readZeroCode := by
    rw [context_lateRecord]
    exact ready_zeroCode issued 359 (by norm_num)
  have authenticated : Sample.readZeroCode.authTime ≤ 359 := by
    rw [Sample.readZeroCode, Token.authTime_stored]
    decide
  exact (lateRecord request text).exists_grants rfl rfl ready (accept_lateRecord issued request)
    reserved rfl authenticated

end Zero

/-- **A code that was reserved and refused can be redeemed**, half a second before its life and the
tolerance are over, when it was reserved half a second before zero. -/
theorem redeems_after_reserved : ∃ text, (Grant.issueCode Sample.context 0 Sample.zeroRequest
      Sample.state).result = .ok text ∧
    sample.records (zeroEvents (greedyGrant text) text) =
      [zeroRecord, earlyRecord (greedyGrant text), lateRecord (greedyGrant text) text] ∧
    halfBefore.le halfLeft = true ∧
    (∃ refusal, (earlyRecord (greedyGrant text)).Refuses (greedyGrant text) refusal ∧
      refusal.after = .replayReserved) ∧
    (earlyRecord (greedyGrant text)).Reserves .authorizationCode text Sample.readZeroCode ∧
    (lateRecord (greedyGrant text) text).Redeems .authorizationCode text Sample.readZeroCode ∧
    359 < Sample.readZeroCode.expiresAt + 60 := by
  obtain ⟨text, issued⟩ := Sample.exists_issue_zeroCode
  have accepted : Grant.accept (earlyRecord (greedyGrant text)).before.context
      ⟨0, halfBefore, halfBefore⟩ (greedyGrant text) = .ok Sample.readZeroCode :=
    accept_earlyRecord issued (greedyGrant text)
  have beyond : Grant.asksWithin (greedyGrant text) Sample.readZeroCode = false := by
    rw [Grant.asksWithin, Sample.readZeroCode, Token.scope_stored]
    cbv
  have reserved : (Grant.reserve (earlyRecord (greedyGrant text)).before.context.policy
      ⟨0, halfBefore, halfBefore⟩ Sample.readZeroCode
      (earlyRecord (greedyGrant text)).before.service.store).1 = .ok () := by
    rw [context_earlyRecord, store_earlyRecord, reserve_early]
  obtain ⟨refusal, refused, after, reserves⟩ :=
    (earlyRecord (greedyGrant text)).exists_refuses rfl rfl accepted reserved beyond rfl rfl
  obtain ⟨tokens, granted⟩ := exists_grants_lateRecord issued reserves
  have opens : (lateRecord (greedyGrant text) text).Opens .authorizationCode text
      Sample.readZeroCode := by
    rw [Record.Opens, context_lateRecord]
    exact Sample.ofSealed_zeroCode issued rfl
  have ends : Sample.readZeroCode.expiresAt = 300 :=
    Token.expiresAt_stored Sample.wellFormed_zeroCode
  exact ⟨text, issued, rfl, rfl, ⟨refusal, refused, after⟩, reserves,
    ⟨⟨_, tokens, granted, rfl, rfl⟩, opens⟩, by rw [ends]; norm_num⟩

end Server
end SealedGrant
