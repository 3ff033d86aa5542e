import Mathlib
import SealedGrant.Proofs.Number.Sum
import SealedGrant.Reservation

/-! # Reservations that last

What a reservation does to a store is known from one case analysis over both stores
(`SealedGrant.ReservationStore.reserve_cases`). A store holds an id until a second when a
reservation of it lasts that long, and then the id is reserved at every reading before
(`SealedGrant.ReservationStore.Holds.reserved_live`). An id is spent until a second when that has
passed or the store holds the id until then; no later operation on the store takes that back
(`SealedGrant.ReservationStore.Spent.reserve`, `SealedGrant.ReservationStore.Spent.purge`), and a
spent id is not reserved again before its time
(`SealedGrant.ReservationStore.Spent.le_of_reserved`).

Readings need not be whole. A table counts in whole seconds and memory in the readings themselves,
whose sums are rounded; a reservation lasts its full span where the store counts to its end
(`SealedGrant.ReservationStore.Holds.of_reserved`).
-/

namespace SealedGrant

namespace Reservation

theorem reserved_eq_true_iff {reservations : List Reservation} {id : String} :
    reserved reservations id = true ↔ ∃ reservation ∈ reservations, reservation.id = id := by
  simp [reserved]

theorem expiryAfter_eq (now : Number) (span : ℤ) :
    expiryAfter now (.int span) = now.sum (.int (max span 1)) := by
  have one : (1 : Number) = .int 1 := rfl
  have greater : (Number.int span).max (.int 1) = .int (max span 1) := by
    simp only [Number.max, Number.lt_int, decide_eq_true_eq]
    split <;> congr 1 <;> omega
  rw [expiryAfter, one, greater]

/-- A reservation does not expire before a second. -/
def Lasts (reservation : Reservation) (ends : ℤ) : Prop :=
  (Number.int ends).le reservation.expiry = true

/-- **A reservation holds at every reading before the second that it lasts until.** -/
theorem Lasts.isLive {reservation : Reservation} {ends time : ℤ} (lasts : reservation.Lasts ends)
    {reading : Number} (shows : reading.whole = .ok time) (early : time < ends) :
    isLive reading reservation = true :=
  Number.lt_of_lt_of_le (Number.lt_int_of_whole shows early) lasts

end Reservation

namespace ReservationStore

/-- The reservations of a store; a store that is out of order shows none. -/
def entries : ReservationStore → List Reservation
  | .memory entries => entries
  | .table rows => rows.getD []
  | .down _ => []

/-- The time that a store sees when the clock shows a reading: a table counts whole seconds. -/
def timeAt (store : ReservationStore) (reading : Number) : Number :=
  match store with
  | .table _ => .int reading.truncate
  | .memory _ | .down _ => reading

/-- The reservations that hold at a reading. -/
def live (store : ReservationStore) (reading : Number) : List Reservation :=
  store.entries.filter (Reservation.isLive (store.timeAt reading))

variable {store last : ReservationStore} {reading : Number} {id : String} {now span : ℤ}

theorem whole_timeAt (shows : reading.whole = .ok now) :
    (store.timeAt reading).whole = .ok now := by
  cases store with
  | memory entries => exact shows
  | table rows => rw [timeAt, Number.truncate_of_whole shows, Number.whole_int]
  | down outage => exact shows

/-- The expiry that a store keeps: a table may turn a double into an integer. -/
def expiryKept (store : ReservationStore) (expiry : Number) : Number :=
  match store with
  | .table _ => Reservation.columnValue expiry
  | .memory _ | .down _ => expiry

theorem expiryKept_int (n : ℤ) : store.expiryKept (.int n) = .int n := by
  cases store <;> rfl

/-- **What a reservation does**: an id without a live reservation gets one for the span; whatever
else is answered, the store keeps what it had or forgets what has expired. -/
theorem reserve_cases {ttl : Number} {answer : Except Failure ReserveAnswer}
    (ran : store.reserve reading id ttl = (answer, last)) :
    (answer = .ok .reserved ∧ Reservation.reserved (store.live reading) id = false ∧
        ∃ expiry, Reservation.expiryAfter (store.timeAt reading) ttl = .ok expiry ∧
          last.entries = store.live reading ++ [⟨id, store.expiryKept expiry⟩]) ∨
      (answer ≠ .ok .reserved ∧
        (last.entries = store.entries ∨ last.entries = store.live reading)) := by
  cases store with
  | down outage =>
    cases ran
    exact Or.inr ⟨by simp, Or.inl rfl⟩
  | memory entries =>
    rw [reserve, reserveEntry] at ran
    dsimp only at ran
    cases held : Reservation.reserved (entries.filter (Reservation.isLive reading)) id with
    | true =>
      rw [held] at ran
      cases ran
      exact Or.inr ⟨by simp, Or.inr rfl⟩
    | false =>
      rw [held] at ran
      cases added : Reservation.expiryAfter reading ttl with
      | error cause =>
        rw [added] at ran
        cases ran
        exact Or.inr ⟨by simp, Or.inr rfl⟩
      | ok expiry =>
        rw [added] at ran
        cases ran
        exact Or.inl ⟨rfl, held, expiry, added, rfl⟩
  | table rows =>
    unfold reserve at ran
    cases shows : reading.whole with
    | error cause =>
      rw [shows] at ran
      cases rows <;> cases ran <;> exact Or.inr ⟨by simp [arithmeticFailure], Or.inl rfl⟩
    | ok time =>
      obtain rfl := Number.truncate_of_whole shows
      rw [shows] at ran
      cases rows with
      | none =>
        cases ran
        exact Or.inr ⟨by simp [noTable], Or.inl rfl⟩
      | some rows =>
        dsimp only [reserveRow] at ran
        cases added : Reservation.expiryAfter (.int reading.truncate) ttl with
        | error cause =>
          rw [added] at ran
          cases ran
          exact Or.inr ⟨by simp [arithmeticFailure], Or.inl rfl⟩
        | ok expiry =>
          rw [added] at ran
          dsimp only at ran
          by_cases wide : (!Number.fitsWord reading.truncate ||
              !Reservation.fitsColumn expiry) = true
          · rw [if_pos wide] at ran
            cases ran
            exact Or.inr ⟨by simp, Or.inl rfl⟩
          · rw [if_neg wide] at ran
            cases held : expiry.isNaN || Reservation.reserved
                (rows.filter (Reservation.isLive (.int reading.truncate))) id with
            | true =>
              -- the refusal brings back what was forgotten in its transaction
              rw [held] at ran
              cases ran
              exact Or.inr ⟨by simp, Or.inl rfl⟩
            | false =>
              rw [held] at ran
              cases ran
              exact Or.inl ⟨rfl, (Bool.or_eq_false_iff.mp held).2, expiry, added, rfl⟩

theorem timeAt_of_reserve {ttl : Number} {answer : Except Failure ReserveAnswer}
    (ran : store.reserve reading id ttl = (answer, last)) : last.timeAt = store.timeAt := by
  cases store with
  | memory entries =>
    cases ran
    rfl
  | down outage =>
    cases ran
    rfl
  | table rows =>
    unfold reserve at ran
    cases shows : reading.whole <;> rw [shows] at ran <;> cases rows <;> cases ran <;> rfl

/-- **A reservation that is not made** leaves the reservations that hold. -/
theorem live_of_not_reserved {ttl : Number} {answer : Except Failure ReserveAnswer}
    (ran : store.reserve reading id ttl = (answer, last)) (refused : answer ≠ .ok .reserved) :
    last.live reading = store.live reading := by
  unfold live
  rw [timeAt_of_reserve ran]
  rcases reserve_cases ran with ⟨reserved, -⟩ | ⟨-, kept | kept⟩
  · exact absurd reserved refused
  · rw [kept]
  · rw [kept, live, List.filter_filter]
    simp only [Bool.and_self]

/-- Removing what has expired removes nothing else. -/
theorem purge_cases {result : Except Failure Nat}
    (ran : store.purge reading = (result, last)) :
    last.entries = store.entries ∨ last.entries = store.live reading := by
  cases store with
  | down outage =>
    cases ran
    exact Or.inl rfl
  | memory entries =>
    cases ran
    exact Or.inl rfl
  | table rows =>
    cases shows : reading.whole with
    | error cause =>
      unfold purge at ran
      rw [shows] at ran
      cases rows <;> cases ran <;> exact Or.inl rfl
    | ok time =>
      obtain rfl := Number.truncate_of_whole shows
      unfold purge at ran
      rw [shows] at ran
      cases rows with
      | none =>
        cases ran
        exact Or.inl rfl
      | some rows =>
        dsimp only at ran
        split at ran
        · cases ran
          exact Or.inr rfl
        · cases ran
          exact Or.inl rfl

/-! ## Ids that are held -/

/-- A reservation of an id lasts until a second. -/
def Holds (store : ReservationStore) (id : String) (ends : ℤ) : Prop :=
  ∃ reservation ∈ store.entries, reservation.id = id ∧ reservation.Lasts ends

/-- A store counts from a reading to a second: in whole seconds, or from a reading that is not
negative within the range in which doubles count one by one. -/
def CountsTo (store : ReservationStore) (reading : Number) (ends : ℤ) : Prop :=
  (∃ second, store.timeAt reading = .int second) ∨
    ((Number.int 0).le reading = true ∧ ends ≤ 2 ^ 53)

theorem countsTo_int (second ends : ℤ) : store.CountsTo (.int second) ends := by
  cases store <;> exact Or.inl ⟨second, rfl⟩

namespace Holds

variable {ends : ℤ}

theorem exists_mem_live (holds : store.Holds id ends) (shows : reading.whole = .ok now)
    (early : now < ends) :
    ∃ reservation ∈ store.live reading, reservation.id = id ∧ reservation.Lasts ends := by
  obtain ⟨reservation, member, same, lasts⟩ := holds
  exact ⟨reservation, List.mem_filter.mpr ⟨member, lasts.isLive (whole_timeAt shows) early⟩,
    same, lasts⟩

/-- **A held id is reserved** at every reading before its time. -/
theorem reserved_live (holds : store.Holds id ends) (shows : reading.whole = .ok now)
    (early : now < ends) : Reservation.reserved (store.live reading) id = true := by
  obtain ⟨reservation, member, same, -⟩ := holds.exists_mem_live shows early
  exact Reservation.reserved_eq_true_iff.mpr ⟨reservation, member, same⟩

/-- The expiry of a span that a store counts does not come before the span is over. -/
theorem lasts_expiryKept (shows : reading.whole = .ok now) (positive : 0 < span)
    (counts : store.CountsTo reading (now + span)) : (Reservation.mk id
      (store.expiryKept ((store.timeAt reading).add (.int span)))).Lasts (now + span) := by
  have time : (store.timeAt reading).whole = .ok now := whole_timeAt shows
  rcases counts with ⟨second, whole⟩ | ⟨nonneg, small⟩
  · rw [whole] at time ⊢
    cases time
    rw [Number.add_int, expiryKept_int]
    exact decide_eq_true le_rfl
  · cases reading with
    | int second =>
      obtain rfl : second = now := Except.ok.inj shows
      have shown : store.timeAt (.int second) = .int second := by cases store <;> rfl
      rw [shown, Number.add_int, expiryKept_int]
      exact decide_eq_true le_rfl
    | double d =>
      cases store with
      | memory entries => exact Number.int_le_add_span shows nonneg positive small
      | down outage => exact Number.int_le_add_span shows nonneg positive small
      | table rows =>
        obtain rfl : d.truncate = now := Number.truncate_of_whole shows
        exact decide_eq_true le_rfl

/-- **A reserved id is held** until its span is over. -/
theorem of_reserved (shows : reading.whole = .ok now) (positive : 0 < span)
    (counts : store.CountsTo reading (now + span))
    (ran : store.reserve reading id (.int span) = (.ok .reserved, last)) :
    last.Holds id (now + span) := by
  rcases reserve_cases ran with ⟨-, -, expiry, added, entries⟩ | ⟨refused, -⟩
  · refine ⟨⟨id, store.expiryKept expiry⟩, ?_, rfl, ?_⟩
    · rw [entries]
      exact List.mem_append_right _ (List.mem_singleton_self _)
    · rw [Reservation.expiryAfter_eq, max_eq_left (by omega)] at added
      obtain rfl := Number.sum_eq_ok added
      exact lasts_expiryKept shows positive counts
  · exact absurd rfl refused

end Holds

/-- An id is spent until a second: the second has passed, or the store holds the id until then. -/
def Spent (store : ReservationStore) (id : String) (ends now : ℤ) : Prop :=
  ends ≤ now ∨ store.Holds id ends

namespace Spent

variable {ends later : ℤ}

/-- What a store may forget does not bring a spent id back. -/
theorem of_live_subset (spent : store.Spent id ends now) (order : now ≤ later)
    (shows : reading.whole = .ok later)
    (kept : ∀ reservation ∈ store.live reading, reservation ∈ last.entries) :
    last.Spent id ends later := by
  by_cases passed : ends ≤ later
  · exact Or.inl passed
  · rcases spent with earlier | holds
    · exact absurd (earlier.trans order) passed
    · obtain ⟨reservation, member, same, lasts⟩ := holds.exists_mem_live shows (by omega)
      exact Or.inr ⟨reservation, kept reservation member, same, lasts⟩

theorem mono (spent : store.Spent id ends now) (order : now ≤ later) :
    store.Spent id ends later :=
  spent.imp_left fun passed => passed.trans order

theorem of_entries (spent : store.Spent id ends now) (order : now ≤ later)
    (shows : reading.whole = .ok later)
    (same : last.entries = store.entries ∨ last.entries = store.live reading) :
    last.Spent id ends later := by
  refine spent.of_live_subset order shows fun reservation member => ?_
  rcases same with same | same <;> rw [same]
  · exact (List.mem_filter.mp member).1
  · exact member

/-- **A reservation leaves what is spent spent.** -/
theorem reserve (spent : store.Spent id ends now) (order : now ≤ later)
    (shows : reading.whole = .ok later) {other : String} {ttl : Number}
    {answer : Except Failure ReserveAnswer}
    (ran : store.reserve reading other ttl = (answer, last)) :
    last.Spent id ends later := by
  rcases reserve_cases ran with ⟨-, -, expiry, -, added⟩ | ⟨-, kept⟩
  · refine spent.of_live_subset order shows fun reservation member => ?_
    rw [added]
    exact List.mem_append_left _ member
  · exact spent.of_entries order shows kept

theorem purge (spent : store.Spent id ends now) (order : now ≤ later)
    (shows : reading.whole = .ok later) {result : Except Failure Nat}
    (ran : store.purge reading = (result, last)) : last.Spent id ends later :=
  spent.of_entries order shows (purge_cases ran)

/-- **A spent id is reserved again only when its time has passed.** -/
theorem le_of_reserved (spent : store.Spent id ends now) (order : now ≤ later)
    (shows : reading.whole = .ok later) {ttl : Number}
    (ran : store.reserve reading id ttl = (.ok .reserved, last)) : ends ≤ later := by
  by_contra early
  rcases reserve_cases ran with ⟨-, free, -⟩ | ⟨refused, -⟩
  · rcases spent with passed | holds
    · exact early (passed.trans order)
    · rw [holds.reserved_live shows (by omega)] at free
      cases free
  · exact refused rfl

end Spent

end ReservationStore
end SealedGrant
