import Mathlib
import SealedGrant.Proofs.Grant.Redemption
import SealedGrant.Proofs.Token.Minting
import SealedGrant.Server

/-! # Runs of a server

A run applies operations one after the other, each with its readings of the clock: codes are issued,
requests are answered, expired reservations are removed and keys come and go. Of the context only
the key ring changes (`SealedGrant.Server.context_step`), and what was drawn stays drawn
(`SealedGrant.Server.reaches_step`). A property of the server and the time that every step keeps
holds of all that comes later, as long as time does not run backwards
(`SealedGrant.Server.Kept.of_mem_records`). Time is counted in seconds: what matters is that no
event sees two of them (`SealedGrant.Server.Event.IsWithin`).
-/

namespace SealedGrant

namespace Server

/-- What is done to a running server. -/
inductive Operation where
  | issueCode (request : Grant.CodeRequest)
  | handle (request : GrantRequest)
  | purge
  | rotate (key : SealingKey)
  | retire (id : String)

/-- An operation and what the clock shows during it. -/
structure Event where
  clock : Clock
  operation : Operation

/-- The server after an event. A change of keys that is refused changes nothing. -/
def step (server : Server) (event : Event) : Server :=
  match event.operation with
  | .issueCode request => (server.issueCode event.clock request).server
  | .handle request => (server.handle event.clock request).server
  | .purge => (server.purge event.clock.store).server
  | .rotate key =>
      match server.rotate key with
      | .ok (_, later) => later
      | .error _ => server
  | .retire id =>
      match server.retire id with
      | .ok later => later
      | .error _ => server

/-- An event and the server that it finds. -/
structure Record where
  before : Server
  event : Event

/-- The server after a record. -/
def Record.after (record : Record) : Server :=
  record.before.step record.event

/-- The records of events, one after the other. -/
def records (server : Server) : List Event → List Record
  | [] => []
  | event :: rest => ⟨server, event⟩ :: (server.step event).records rest

/-- An event sees one reading of the clock, a whole number of seconds. -/
def Event.IsAt (event : Event) (time : ℤ) : Prop :=
  event.clock = .still (.int time)

/-- Every event sees one whole reading of the clock, and from a time on the readings never
decrease. -/
def InOrder : ℤ → List Event → Prop
  | _, [] => True
  | start, event :: rest => ∃ time ≥ start, event.IsAt time ∧ InOrder time rest

/-- An event takes place within a second: the readings of the service and of the store have the same
whole seconds. -/
structure Event.IsWithin (event : Event) (second : ℤ) : Prop where
  service : event.clock.service.whole = .ok second
  store : event.clock.store.whole = .ok second

/-- The second in which the service looks at an event. -/
def Event.asked (event : Event) : ℤ :=
  event.clock.service.truncate

/-- The second in which the store is asked in an event. -/
def Event.stored (event : Event) : ℤ :=
  event.clock.store.truncate

/-- How long after the service the store is asked. -/
def Event.delay (event : Event) : ℤ :=
  event.stored - event.asked

/-- The readings of the service and of the store show seconds. -/
structure Event.IsTimed (event : Event) : Prop where
  service : event.clock.service.whole = .ok event.asked
  store : event.clock.store.whole = .ok event.stored

/-- Every event takes place within a second, and from a second on they never decrease. -/
def InSeconds : ℤ → List Event → Prop
  | _, [] => True
  | start, event :: rest => ∃ second ≥ start, event.IsWithin second ∧ InSeconds second rest

variable {server : Server} {event : Event}

/-- The readings of a clock that stands at a time. -/
def readingsAt (time : ℤ) : Readings := ⟨time, .int time, .int time⟩

theorem Event.IsAt.isWithin {time : ℤ} (stands : event.IsAt time) : event.IsWithin time := by
  refine ⟨?_, ?_⟩ <;> rw [stands] <;> rfl

theorem InOrder.inSeconds {start : ℤ} {events : List Event} (ordered : InOrder start events) :
    InSeconds start events := by
  induction events generalizing start with
  | nil => trivial
  | cons event rest ih =>
    obtain ⟨time, order, stands, ordered⟩ := ordered
    exact ⟨time, order, stands.isWithin, ih ordered⟩

/-- In whole seconds a store counts to any second. -/
theorem Event.IsAt.countsTo {time : ℤ} (stands : event.IsAt time) (store : ReservationStore)
    (ends : ℤ) : store.CountsTo event.clock.store ends := by
  rw [stands]
  exact ReservationStore.countsTo_int time ends

theorem Event.exists_of_readings {readings : Readings}
    (reads : event.clock.readings = .ok readings) : ∃ now, event.clock.now = .ok now ∧
      readings = ⟨now, event.clock.sealing, event.clock.store⟩ := by
  unfold Clock.readings at reads
  cases shown : event.clock.now with
  | error cause =>
    rw [shown] at reads
    cases reads
  | ok now =>
    rw [shown] at reads
    exact ⟨now, rfl, (Except.ok.inj reads).symm⟩

theorem Event.shown_of_readings {readings : Readings}
    (reads : event.clock.readings = .ok readings) :
    event.clock.now = .ok readings.now ∧ readings.sealing = event.clock.sealing := by
  obtain ⟨now, shown, rfl⟩ := exists_of_readings reads
  exact ⟨shown, rfl⟩

theorem Event.store_of_readings {readings : Readings}
    (reads : event.clock.readings = .ok readings) : readings.store = event.clock.store := by
  obtain ⟨now, -, rfl⟩ := exists_of_readings reads
  rfl

/-- What the service and the store see of the seconds of an event. -/
theorem Event.IsTimed.of_readings (timed : event.IsTimed) {readings : Readings}
    (reads : event.clock.readings = .ok readings) :
    readings.now = event.asked ∧ readings.store.whole = .ok event.stored := by
  have shown := (shown_of_readings reads).1
  rw [Clock.now, timed.service] at shown
  rw [store_of_readings reads]
  exact ⟨(Except.ok.inj shown).symm, timed.store⟩

namespace Event.IsWithin

variable {second : ℤ} (within : event.IsWithin second)

include within

theorem asked_eq : event.asked = second :=
  (Number.truncate_of_whole within.service).symm ▸ rfl

theorem stored_eq : event.stored = second :=
  (Number.truncate_of_whole within.store).symm ▸ rfl

theorem delay_eq : event.delay = 0 := by
  rw [delay, within.asked_eq, within.stored_eq, sub_self]

theorem isTimed : event.IsTimed where
  service := by rw [within.asked_eq, within.service]
  store := by rw [within.stored_eq, within.store]

end Event.IsWithin

theorem issueCode_eq {clock : Clock} {now : ℤ} (reads : clock.now = .ok now)
    (request : Grant.CodeRequest) :
    server.issueCode clock request =
      ⟨(Grant.issueCode server.context now request server.service).result,
        (Grant.issueCode server.context now request server.service).log,
        { server with
          service := (Grant.issueCode server.context now request server.service).state }⟩ := by
  rw [issueCode, reads]
  rfl

theorem handle_eq {clock : Clock} {readings : Readings} (reads : clock.readings = .ok readings)
    (request : GrantRequest) :
    server.handle clock request =
      ⟨.ok (Grant.handle server.context readings request server.service).1,
        [(Grant.handle server.context readings request server.service).1.logEntry request],
        { server with
          service := (Grant.handle server.context readings request server.service).2 }⟩ := by
  rw [handle, reads]
  rfl

theorem step_issueCode_of_now {clock : Clock} {now : ℤ} (reads : clock.now = .ok now)
    (request : Grant.CodeRequest) : server.step ⟨clock, .issueCode request⟩ =
      { server with
        service := (Grant.issueCode server.context now request server.service).state } := by
  dsimp only [step]
  rw [issueCode_eq reads]

theorem step_handle_of_readings {clock : Clock} {readings : Readings}
    (reads : clock.readings = .ok readings) (request : GrantRequest) :
    server.step ⟨clock, .handle request⟩ =
      { server with
        service := (Grant.handle server.context readings request server.service).2 } := by
  dsimp only [step]
  rw [handle_eq reads]

/-- Issuing a code changes what the service keeps, unless the clock shows no time. -/
theorem step_issueCode (server : Server) (clock : Clock) (request : Grant.CodeRequest) :
    server.step ⟨clock, .issueCode request⟩ = server ∨
      ∃ now, server.step ⟨clock, .issueCode request⟩ =
        { server with
          service := (Grant.issueCode server.context now request server.service).state } := by
  cases reads : clock.now with
  | error cause =>
    refine Or.inl ?_
    dsimp only [step]
    rw [issueCode, reads]
    rfl
  | ok now => exact Or.inr ⟨now, step_issueCode_of_now reads request⟩

/-- Answering a request changes what the service keeps, unless the clock shows no time. -/
theorem step_handle (server : Server) (clock : Clock) (request : GrantRequest) :
    server.step ⟨clock, .handle request⟩ = server ∨
      ∃ readings, clock.readings = .ok readings ∧ server.step ⟨clock, .handle request⟩ =
        { server with
          service := (Grant.handle server.context readings request server.service).2 } := by
  cases reads : clock.readings with
  | error cause =>
    refine Or.inl ?_
    dsimp only [step]
    rw [handle, reads]
    rfl
  | ok readings => exact Or.inr ⟨readings, rfl, step_handle_of_readings reads request⟩

theorem context_step_handle {request : GrantRequest} (same : event.operation = .handle request) :
    (server.step event).context = server.context := by
  obtain ⟨clock, _⟩ := event
  subst same
  rcases step_handle server clock request with same | ⟨readings, -, same⟩ <;> rw [same]

theorem step_rotate (server : Server) (clock : Clock) (key : SealingKey) :
    ∃ ring, server.step ⟨clock, .rotate key⟩ = server.withRing ring := by
  cases rotated : server.context.ring.rotate key with
  | error cause =>
    refine ⟨server.context.ring, ?_⟩
    simp only [step, rotate, rotated]
    rfl
  | ok ring =>
    refine ⟨ring, ?_⟩
    simp only [step, rotate, rotated]
    rfl

theorem step_retire (server : Server) (clock : Clock) (id : String) :
    ∃ ring, server.step ⟨clock, .retire id⟩ = server.withRing ring := by
  cases retired : server.context.ring.retire id with
  | error cause =>
    refine ⟨server.context.ring, ?_⟩
    simp only [step, retire, retired]
    rfl
  | ok ring =>
    refine ⟨ring, ?_⟩
    simp only [step, retire, retired]
    rfl

/-- **Only the key ring changes** of the context. -/
theorem context_step (server : Server) (event : Event) :
    ∃ ring, (server.step event).context = { server.context with ring } := by
  obtain ⟨clock, operation⟩ := event
  cases operation with
  | issueCode request =>
    refine ⟨server.context.ring, ?_⟩
    rcases step_issueCode server clock request with same | ⟨now, same⟩ <;> rw [same]
  | handle request =>
    refine ⟨server.context.ring, ?_⟩
    rcases step_handle server clock request with same | ⟨readings, -, same⟩ <;> rw [same]
  | purge => exact ⟨server.context.ring, rfl⟩
  | rotate key =>
    obtain ⟨ring, same⟩ := step_rotate server clock key
    exact ⟨ring, congrArg context same⟩
  | retire id =>
    obtain ⟨ring, same⟩ := step_retire server clock id
    exact ⟨ring, congrArg context same⟩

theorem policy_step : (server.step event).context.policy = server.context.policy := by
  obtain ⟨ring, same⟩ := context_step server event
  rw [same]

/-- **What was drawn stays drawn.** -/
theorem reaches_step : server.service.supply.Reaches (server.step event).service.supply := by
  obtain ⟨clock, operation⟩ := event
  cases operation with
  | issueCode request =>
    rcases step_issueCode server clock request with same | ⟨now, same⟩
    · rw [same]
      exact Supply.Reaches.refl _
    · rw [same]
      exact Grant.reaches_issueCode _
  | handle request =>
    rcases step_handle server clock request with same | ⟨readings, -, same⟩
    · rw [same]
      exact Supply.Reaches.refl _
    · rw [same]
      exact Grant.reaches_handle
  | purge => exact Supply.Reaches.refl _
  | rotate key =>
    obtain ⟨ring, same⟩ := step_rotate server clock key
    rw [same]
    exact Supply.Reaches.refl _
  | retire id =>
    obtain ⟨ring, same⟩ := step_retire server clock id
    rw [same]
    exact Supply.Reaches.refl _

/-- **What is spent stays spent.** -/
theorem spent_step {second : ℤ} (shows : event.clock.store.whole = .ok second) {id : String}
    {ends earlier : ℤ} (order : earlier ≤ second)
    (spent : server.service.store.Spent id ends earlier) :
    (server.step event).service.store.Spent id ends second := by
  obtain ⟨clock, operation⟩ := event
  cases operation with
  | issueCode request =>
    rcases step_issueCode server clock request with same | ⟨now, same⟩
    · rw [same]
      exact spent.mono order
    · rw [same, Grant.store_issueCode]
      exact spent.mono order
  | handle request =>
    rcases step_handle server clock request with same | ⟨readings, found, same⟩
    · rw [same]
      exact spent.mono order
    · rw [same]
      rcases Grant.store_handle server.context readings request server.service with
          kept | ⟨grant, -, kept⟩
      · rw [kept]
        exact spent.mono order
      · rw [kept]
        have same : readings.store = (Event.mk clock (.handle request)).clock.store :=
          Event.store_of_readings found
        exact Grant.spent_reserve (by rwa [same]) order spent
  | purge => exact spent.purge order shows (Prod.eta _).symm
  | rotate key =>
    obtain ⟨ring, same⟩ := step_rotate server clock key
    rw [same]
    exact spent.mono order
  | retire kid =>
    obtain ⟨ring, same⟩ := step_retire server clock kid
    rw [same]
    exact spent.mono order

/-! ## Along a run -/

theorem context_of_mem_records {events : List Event} {record : Record}
    (member : record ∈ server.records events) :
    ∃ ring, record.before.context = { server.context with ring } := by
  induction events generalizing server with
  | nil => cases member
  | cons event rest ih =>
    rcases List.mem_cons.mp member with rfl | member
    · exact ⟨server.context.ring, rfl⟩
    · obtain ⟨first, same⟩ := context_step server event
      obtain ⟨ring, later⟩ := ih member
      exact ⟨ring, by rw [later, same]⟩

theorem policy_of_mem_records {events : List Event} {record : Record}
    (member : record ∈ server.records events) :
    record.before.context.policy = server.context.policy := by
  obtain ⟨ring, same⟩ := context_of_mem_records member
  rw [same]

theorem InSeconds.exists_isWithin {start : ℤ} {events : List Event}
    (ordered : InSeconds start events) {record : Record} (member : record ∈ server.records events) :
    ∃ second, record.event.IsWithin second := by
  induction events generalizing server start with
  | nil => cases member
  | cons event rest ih =>
    obtain ⟨second, -, within, ordered⟩ := ordered
    rcases List.mem_cons.mp member with rfl | member
    · exact ⟨second, within⟩
    · exact ih ordered member

theorem InOrder.exists_isAt {start : ℤ} {events : List Event} (ordered : InOrder start events)
    {record : Record} (member : record ∈ server.records events) :
    ∃ time, record.event.IsAt time := by
  induction events generalizing server start with
  | nil => cases member
  | cons event rest ih =>
    obtain ⟨time, -, stands, ordered⟩ := ordered
    rcases List.mem_cons.mp member with rfl | member
    · exact ⟨time, stands⟩
    · exact ih ordered member

theorem reaches_of_mem_records {events : List Event} {record : Record}
    (member : record ∈ server.records events) :
    server.service.supply.Reaches record.before.service.supply := by
  induction events generalizing server with
  | nil => cases member
  | cons event rest ih =>
    rcases List.mem_cons.mp member with rfl | member
    · exact Supply.Reaches.refl _
    · exact reaches_step.trans (ih member)

/-- What is drawn in a record is drawn before all later records. -/
theorem pairwise_reaches (server : Server) (events : List Event) : (server.records events).Pairwise
    fun first later => first.after.service.supply.Reaches later.before.service.supply := by
  induction events generalizing server with
  | nil => exact List.Pairwise.nil
  | cons event rest ih =>
    exact List.Pairwise.cons (fun record member => reaches_of_mem_records member) (ih _)

/-- A property of a server and a second that every later step keeps. -/
def Kept (holds : Server → ℤ → Prop) : Prop :=
  ∀ server event earlier second, holds server earlier → earlier ≤ second →
    event.IsWithin second → holds (server.step event) second

/-- **What every step keeps holds of all that comes later.** -/
theorem Kept.of_mem_records {holds : Server → ℤ → Prop} (kept : Kept holds) {start : ℤ}
    (first : holds server start) {events : List Event} (ordered : InSeconds start events)
    {record : Record} (member : record ∈ server.records events) :
    ∃ earlier second, earlier ≤ second ∧ record.event.IsWithin second ∧
      holds record.before earlier := by
  induction events generalizing server start with
  | nil => cases member
  | cons event rest ih =>
    obtain ⟨second, order, within, ordered⟩ := ordered
    rw [records, List.mem_cons] at member
    rcases member with rfl | member
    · exact ⟨start, second, order, within, first⟩
    · exact ih (kept server event start second first order within) ordered member

/-- A relation between a record and all later ones, when it holds between the first record of every
rest of the run and what follows. -/
theorem pairwise_records (base : Server → Prop) (keeps : ∀ server event, base server →
      base (server.step event)) {related : Record → Record → Prop}
    (relate : ∀ server event rest second, base server → event.IsWithin second →
      InSeconds second rest → ∀ record ∈ (server.step event).records rest,
        related ⟨server, event⟩ record)
    {start : ℤ} {events : List Event} (ordered : InSeconds start events) (first : base server) :
    (server.records events).Pairwise related := by
  induction events generalizing server start with
  | nil => exact List.Pairwise.nil
  | cons event rest ih =>
    obtain ⟨second, -, within, ordered⟩ := ordered
    exact List.Pairwise.cons (relate server event rest second first within ordered)
      (ih ordered (keeps server event first))

end Server
end SealedGrant
