import Mathlib
import SealedGrant.Proofs.Reservation

/-! # Reservations as intervals of time

A reservation that is made holds its id from the second of its call for its span, a second at
least. That says all about memory and table: each answers that an id is already present exactly when
an earlier call holds it, and so both answer every run of calls alike
(`SealedGrant.ReservationStore.answers_by_interval`), though the one forgets what has expired at
every call and the other brings it back when it refuses, and is purged in between.

What both show at a reading is a function of the calls before
(`SealedGrant.ReservationStore.Shows`); the one step of a call keeps it
(`SealedGrant.ReservationStore.Shows.reserve`, `SealedGrant.ReservationStore.Shows.purge`).
-/

namespace SealedGrant

namespace Reservation

theorem isLive_int {now ends : ℤ} {id : String} :
    isLive (.int now) ⟨id, .int ends⟩ = true ↔ now < ends := by
  rw [isLive, Number.lt_int, decide_eq_true_eq]

/-- What holds at a second held at every earlier one. -/
theorem isLive_of_le {sooner later : ℤ} (order : sooner ≤ later) {reservation : Reservation}
    (live : isLive (.int later) reservation = true) : isLive (.int sooner) reservation = true :=
  Number.lt_of_le_of_lt (by simpa using order) live

end Reservation

/-- A call to a store in a second. -/
inductive Call where
  | reserve (now : ℤ) (id : String) (ttl : ℤ)
  | purge (now : ℤ)

namespace Call

def now : Call → ℤ
  | .reserve now _ _ => now
  | .purge now => now

def isReserve : Call → Bool
  | .reserve _ _ _ => true
  | .purge _ => false

/-- The numbers of a call fit a table: a reservation needs its second and its end, a purge
nothing. -/
def Fits : Call → Prop
  | .reserve now _ ttl =>
      Number.fitsWord now = true ∧ Number.fitsWord (now + max ttl 1) = true
  | .purge _ => True

end Call

/-- A reservation that was asked for, with its answer. -/
structure Exchange where
  now : ℤ
  id : String
  ttl : ℤ
  answer : Except Failure ReserveAnswer
  deriving DecidableEq

namespace Exchange

/-- The id was reserved and is so still: its span, a second at least, is not over. -/
def Holds (exchange : Exchange) (id : String) (now : ℤ) : Prop :=
  exchange.id = id ∧ exchange.answer = .ok .reserved ∧ now < exchange.now + max exchange.ttl 1

instance (exchange : Exchange) (id : String) (now : ℤ) : Decidable (exchange.Holds id now) :=
  inferInstanceAs (Decidable (_ ∧ _ ∧ _))

/-- An earlier exchange holds an id. -/
def Held (past : List Exchange) (id : String) (now : ℤ) : Prop :=
  ∃ prior ∈ past, prior.Holds id now

instance (past : List Exchange) (id : String) (now : ℤ) : Decidable (Held past id now) :=
  inferInstanceAs (Decidable (∃ prior ∈ past, _))

/-- **The interval rule**: every call is answered that its id is already present exactly when an
earlier one holds it, and reserves the id otherwise. -/
def ByInterval (history : List Exchange) : Prop :=
  ∀ earlier exchange later, history = earlier ++ exchange :: later →
    (exchange.answer = .ok .alreadyPresent ↔ Held earlier exchange.id exchange.now) ∧
      (exchange.answer = .ok .reserved ↔ ¬ Held earlier exchange.id exchange.now)

/-- What the rule answers to a call after others. -/
def ruled (past : List Exchange) (now : ℤ) (id : String) (ttl : ℤ) : Exchange :=
  ⟨now, id, ttl, .ok (if Held past id now then .alreadyPresent else .reserved)⟩

/-- What the rule answers to calls after others. -/
def expected (past : List Exchange) : List Call → List Exchange
  | [] => []
  | .reserve now id ttl :: rest =>
      ruled past now id ttl :: expected (past ++ [ruled past now id ttl]) rest
  | .purge _ :: rest => expected past rest

variable {past : List Exchange} {id : String} {now : ℤ}

theorem held_append {next : Exchange} :
    Held (past ++ [next]) id now ↔ Held past id now ∨ next.Holds id now := by
  simp [Held, or_and_right, exists_or]

theorem ruled_holds {start ttl : ℤ} {other : String} :
    (ruled past start other ttl).Holds id now ↔
      other = id ∧ ¬ Held past other start ∧ now < start + max ttl 1 := by
  by_cases held : Held past other start <;> simp [ruled, Holds, held]

/-- Only reservations are answered. -/
theorem expected_filter (past : List Exchange) (calls : List Call) :
    expected past (calls.filter Call.isReserve) = expected past calls := by
  induction calls generalizing past with
  | nil => rfl
  | cons call rest ih =>
    cases call with
    | reserve now id ttl =>
      rw [List.filter_cons_of_pos rfl, expected, expected, ih]
    | purge now => exact ih past

/-- **What the rule answers is ruled by the exchanges before.** -/
theorem eq_ruled_of_expected {calls : List Call} {earlier later : List Exchange}
    {exchange : Exchange} (split : expected past calls = earlier ++ exchange :: later) :
    exchange = ruled (past ++ earlier) exchange.now exchange.id exchange.ttl := by
  induction calls generalizing past earlier with
  | nil => simp [expected] at split
  | cons call rest ih =>
    cases call with
    | purge now => exact ih split
    | reserve now id ttl =>
      cases earlier with
      | nil =>
        obtain ⟨rfl, -⟩ := List.cons.inj split
        rw [List.append_nil]
        rfl
      | cons first earlier =>
        obtain ⟨rfl, others⟩ := List.cons.inj split
        have same := ih others
        rwa [List.append_assoc, List.singleton_append] at same

theorem byInterval_expected (calls : List Call) : ByInterval (expected [] calls) := by
  intro earlier exchange later split
  have same := eq_ruled_of_expected split
  rw [List.nil_append] at same
  rw [same]
  by_cases held : Held earlier exchange.id exchange.now <;> simp [ruled, held]

end Exchange

namespace ReservationStore

/-- The exchanges of a store with its callers, one after the other. -/
def exchanges (store : ReservationStore) : List Call → List Exchange
  | [] => []
  | .reserve now id ttl :: rest =>
      ⟨now, id, ttl, (store.reserve (.int now) id (.int ttl)).1⟩ ::
        (store.reserve (.int now) id (.int ttl)).2.exchanges rest
  | .purge now :: rest => (store.purge (.int now)).2.exchanges rest

/-- A store in order: memory, or a table that exists. -/
def Serves : ReservationStore → Prop
  | .memory _ => True
  | .table rows => rows.isSome
  | .down _ => False

variable {store last : ReservationStore} {id : String} {now later : ℤ}

@[simp] theorem timeAt_int : store.timeAt (.int now) = .int now := by
  cases store <;> rfl

/-- What a store shows later is what it shows now, less what has expired. -/
theorem live_of_le (store : ReservationStore) (order : now ≤ later) :
    store.live (.int later) =
      (store.live (.int now)).filter (Reservation.isLive (.int later)) := by
  simp only [live, timeAt_int, List.filter_filter]
  refine List.filter_congr fun reservation _ => ?_
  cases alive : Reservation.isLive (.int later) reservation with
  | true => rw [Reservation.isLive_of_le order alive, Bool.and_self]
  | false => rw [Bool.false_and]

/-- **A store in order answers by what it shows**, when the second and the end fit its words. -/
theorem reserve_answer {ttl : ℤ} (serves : store.Serves) (start : Number.fitsWord now = true)
    (ends : Number.fitsWord (now + max ttl 1) = true) :
    (store.reserve (.int now) id (.int ttl)).1 =
      .ok (if Reservation.reserved (store.live (.int now)) id then .alreadyPresent
        else .reserved) := by
  have sum : Reservation.expiryAfter (.int now) (.int ttl) = .ok (.int (now + max ttl 1)) := by
    rw [Reservation.expiryAfter_eq, Number.sum_int]
  obtain ⟨held, shown⟩ : ∃ held, Reservation.reserved (store.live (.int now)) id = held :=
    ⟨_, rfl⟩
  rw [shown]
  cases store with
  | down outage => cases serves
  | memory entries =>
    have shown : Reservation.reserved (entries.filter (Reservation.isLive (.int now))) id = held :=
      shown
    rw [reserve, reserveEntry, sum]
    dsimp only
    rw [shown]
    cases held <;> rfl
  | table rows =>
    obtain ⟨rows, rfl⟩ := Option.isSome_iff_exists.mp serves
    have shown : Reservation.reserved (rows.filter (Reservation.isLive (.int now))) id = held :=
      shown
    have column : Reservation.fitsColumn (.int (now + max ttl 1)) = true := ends
    have number : (Number.int (now + max ttl 1)).isNaN = false := rfl
    simp only [reserve, Number.whole_int, reserveRow, sum, start, column, number, shown,
      Bool.not_true, Bool.or_self, Bool.false_eq_true, ↓reduceIte, Bool.false_or]
    cases held <;> rfl

theorem serves_reserve (serves : store.Serves) (reading : Number) (id : String) (ttl : Number) :
    (store.reserve reading id ttl).2.Serves := by
  cases store with
  | down outage => cases serves
  | memory entries => exact serves
  | table rows =>
    obtain ⟨rows, rfl⟩ := Option.isSome_iff_exists.mp serves
    unfold reserve
    cases reading.whole with
    | error cause => exact serves
    | ok now => exact rfl

theorem serves_purge (serves : store.Serves) (reading : Number) :
    (store.purge reading).2.Serves := by
  cases store with
  | down outage => cases serves
  | memory entries => exact serves
  | table rows =>
    obtain ⟨rows, rfl⟩ := Option.isSome_iff_exists.mp serves
    unfold purge
    cases reading.whole with
    | error cause => exact serves
    | ok now =>
      dsimp only
      split <;> exact rfl

/-- **A reservation that is made** holds its id for its span, a second at least, and no longer. -/
theorem reserved_live_of_reserved {ttl : ℤ}
    (ran : store.reserve (.int now) id (.int ttl) = (.ok .reserved, last)) :
    Reservation.reserved (last.live (.int later)) id = true ↔ later < now + max ttl 1 := by
  rcases reserve_cases ran with ⟨-, free, expiry, added, entries⟩ | ⟨refused, -⟩
  · rw [Reservation.expiryAfter_eq, timeAt_int, Number.sum_int] at added
    cases added
    rw [Reservation.reserved_eq_true_iff, live, entries, timeAt_int, expiryKept_int]
    constructor
    · rintro ⟨reservation, member, same⟩
      obtain ⟨member, alive⟩ := List.mem_filter.mp member
      rcases List.mem_append.mp member with before | made
      · -- the id was free before the call
        rw [Reservation.reserved_eq_true_iff.mpr ⟨reservation, before, same⟩] at free
        cases free
      · rw [List.mem_singleton.mp made] at alive
        exact Reservation.isLive_int.mp alive
    · intro early
      exact ⟨_, List.mem_filter.mpr ⟨List.mem_append_right _ (List.mem_singleton_self _),
        Reservation.isLive_int.mpr early⟩, rfl⟩
  · exact absurd rfl refused

/-- A purge takes nothing from what a store shows from then on. -/
theorem live_purge (store : ReservationStore) (order : now ≤ later) :
    (store.purge (.int now)).2.live (.int later) = store.live (.int later) := by
  cases ran : store.purge (.int now) with
  | mk result last =>
    rcases purge_cases ran with same | same
    · simp only [live, timeAt_int, same]
    · rw [live, same, timeAt_int, ← live_of_le store order]

/-- **What a store in order shows**, from a second on: the ids that some exchange holds. -/
structure Shows (store : ReservationStore) (past : List Exchange) (since : ℤ) : Prop where
  serves : store.Serves
  reserved_iff : ∀ now, since ≤ now → ∀ id,
    Reservation.reserved (store.live (.int now)) id = true ↔ Exchange.Held past id now

namespace Shows

variable {past : List Exchange} {since : ℤ}

theorem empty (store : ReservationStore) (serves : store.Serves) (nothing : store.entries = [])
    (since : ℤ) : store.Shows [] since where
  serves
  reserved_iff := by
    intro now _ id
    simp [live, nothing, Reservation.reserved, Exchange.Held]

theorem answer (shows : store.Shows past since) (order : since ≤ now) {ttl : ℤ}
    (start : Number.fitsWord now = true) (ends : Number.fitsWord (now + max ttl 1) = true) :
    ⟨now, id, ttl, (store.reserve (.int now) id (.int ttl)).1⟩ =
      Exchange.ruled past now id ttl := by
  rw [reserve_answer shows.serves start ends, Exchange.ruled]
  simp only [shows.reserved_iff now order id]

/-- **A reservation adds its interval to what is shown.** -/
theorem reserve (shows : store.Shows past since) (order : since ≤ now) {ttl : ℤ}
    (start : Number.fitsWord now = true) (ends : Number.fitsWord (now + max ttl 1) = true) :
    (store.reserve (.int now) id (.int ttl)).2.Shows (past ++ [Exchange.ruled past now id ttl])
      now where
  serves := serves_reserve shows.serves _ _ _
  reserved_iff := by
    intro later after other
    have answered : (store.reserve (.int now) id (.int ttl)).1 =
        (Exchange.ruled past now id ttl).answer :=
      congrArg Exchange.answer (shows.answer order start ends)
    have showed := shows.reserved_iff later (order.trans after) other
    rw [Exchange.held_append, Exchange.ruled_holds, ← showed]
    cases ran : store.reserve (.int now) id (.int ttl) with
    | mk given last =>
      rw [ran] at answered
      simp only [Exchange.ruled] at answered
      by_cases held : Exchange.Held past id now
      · rw [if_pos held] at answered
        have refused : given ≠ .ok .reserved := by
          rw [answered]
          simp
        have same := live_of_not_reserved ran refused
        rw [live_of_le last after, same, ← live_of_le store after]
        simp [held]
      · rw [if_neg held] at answered
        rcases reserve_cases ran with ⟨-, -, expiry, added, entries⟩ | ⟨refused, -⟩
        · rw [Reservation.expiryAfter_eq, timeAt_int, Number.sum_int] at added
          cases added
          have shown : last.live (.int later) = store.live (.int later) ++
              [⟨id, .int (now + max ttl 1)⟩].filter (Reservation.isLive (.int later)) := by
            rw [live, entries, timeAt_int, expiryKept_int, List.filter_append,
              ← live_of_le store after]
          rw [shown]
          simp only [Reservation.reserved_eq_true_iff, List.mem_append, List.mem_filter,
            List.mem_singleton, or_and_right, exists_or, held, not_false_eq_true, true_and]
          refine or_congr_right ⟨?_, ?_⟩
          · rintro ⟨_, ⟨rfl, alive⟩, rfl⟩
            exact ⟨rfl, Reservation.isLive_int.mp alive⟩
          · rintro ⟨rfl, early⟩
            exact ⟨_, ⟨rfl, Reservation.isLive_int.mpr early⟩, rfl⟩
        · exact absurd answered refused

theorem purge (shows : store.Shows past since) (order : since ≤ now) :
    (store.purge (.int now)).2.Shows past now where
  serves := serves_purge shows.serves _
  reserved_iff := by
    intro later after id
    rw [live_purge store after]
    exact shows.reserved_iff later (order.trans after) id

end Shows

variable {past : List Exchange} {since : ℤ}

/-- **A store in order answers by the rule**, from whatever it shows. -/
theorem Shows.exchanges_eq (shows : store.Shows past since) {calls : List Call}
    (began : ∀ call ∈ calls, since ≤ call.now)
    (ordered : calls.Pairwise fun first second => first.now ≤ second.now)
    (fits : ∀ call ∈ calls, call.Fits) : store.exchanges calls = Exchange.expected past calls := by
  induction calls generalizing store past since with
  | nil => rfl
  | cons call rest ih =>
    obtain ⟨follows, orderedRest⟩ := List.pairwise_cons.mp ordered
    obtain ⟨fit, fitRest⟩ := List.forall_mem_cons.mp fits
    have order : since ≤ call.now := began call List.mem_cons_self
    cases call with
    | reserve now id ttl =>
      have order : since ≤ now := order
      rw [exchanges, Exchange.expected, shows.answer order fit.1 fit.2]
      exact congrArg (_ :: ·) (ih (shows.reserve order fit.1 fit.2) follows orderedRest fitRest)
    | purge now => exact ih (shows.purge order) follows orderedRest fitRest

/-- **Memory and table keep the interval rule.** Calls come one after the other at seconds that
never decrease; those of reservations, and the seconds in which they end, fit the words of a table.
Then memory, which is asked for the reservations alone, and a table, which is purged in between,
answer every reservation alike: an id is already present exactly when an earlier call reserved it
and its span, a second at least, is not over, and is reserved otherwise. -/
theorem answers_by_interval {calls : List Call}
    (ordered : calls.Pairwise fun first second => first.now ≤ second.now)
    (fits : ∀ call ∈ calls, call.Fits) :
    (memory []).exchanges (calls.filter Call.isReserve) = (table (some [])).exchanges calls ∧
      Exchange.ByInterval ((table (some [])).exchanges calls) := by
  obtain ⟨since, began⟩ : ∃ since, ∀ call ∈ calls, since ≤ call.now := by
    cases calls with
    | nil => exact ⟨0, fun _ member => nomatch member⟩
    | cons first rest =>
      refine ⟨first.now, List.forall_mem_cons.mpr ⟨le_rfl, ?_⟩⟩
      exact (List.pairwise_cons.mp ordered).1
  have emptyTable := Shows.empty (table (some [])) rfl rfl since
  have emptyMemory := Shows.empty (memory []) trivial rfl since
  have table : (table (some [])).exchanges calls = Exchange.expected [] calls :=
    emptyTable.exchanges_eq began ordered fits
  have memory : (memory []).exchanges (calls.filter Call.isReserve) =
      Exchange.expected [] (calls.filter Call.isReserve) := by
    apply emptyMemory.exchanges_eq _ (ordered.filter _)
    · exact fun call member => fits call (List.mem_of_mem_filter member)
    · exact fun call member => began call (List.mem_of_mem_filter member)
  rw [memory, table, Exchange.expected_filter]
  exact ⟨rfl, Exchange.byInterval_expected calls⟩

/-- Calls for one id: its span ends with a second in which it is purged and reserved again. -/
def sampleCalls : List Call :=
  [.reserve 10 "a" 5, .reserve 14 "a" 9, .reserve 14 "b" (-1), .purge 15, .reserve 15 "a" 1]

theorem answers_by_interval_sample :
    (memory []).exchanges (sampleCalls.filter Call.isReserve) =
        (table (some [])).exchanges sampleCalls ∧
      Exchange.ByInterval ((table (some [])).exchanges sampleCalls) := by
  apply answers_by_interval
  · simp [sampleCalls, Call.now]
  · simp [sampleCalls, Call.Fits, Number.fitsWord]

/-- **The ends of the spans are not enough**: when a clock shows a second below the words of a
table, memory still reserves an id, and the table fails. -/
theorem not_answers_by_interval_of_ends : ¬ ∀ calls : List Call,
    (calls.Pairwise fun first second => first.now ≤ second.now) →
    (∀ now id ttl, Call.reserve now id ttl ∈ calls →
      Number.fitsWord (now + max ttl 1) = true) →
    (memory []).exchanges (calls.filter Call.isReserve) = (table (some [])).exchanges calls ∧
      Exchange.ByInterval ((table (some [])).exchanges calls) := by
  intro holds
  have fits : ∀ now id ttl, Call.reserve now id ttl ∈ [Call.reserve (-0x8000000000000001) "a" 1] →
      Number.fitsWord (now + max ttl 1) = true := by
    intro now id ttl member
    cases List.mem_singleton.mp member
    rfl
  obtain ⟨same, -⟩ := holds _ (List.pairwise_singleton _ _) fits
  have answers := congrArg (List.map Exchange.answer) same
  have memory : ((memory []).exchanges
      ([.reserve (-0x8000000000000001) "a" 1].filter Call.isReserve)).map Exchange.answer =
        [.ok .reserved] := rfl
  have table : ((table (some [])).exchanges
      [.reserve (-0x8000000000000001) "a" 1]).map Exchange.answer =
        [.error (.defect .integerTooLarge)] := rfl
  rw [memory, table] at answers
  cases answers

end ReservationStore
end SealedGrant
