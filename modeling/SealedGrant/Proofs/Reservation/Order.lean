import Mathlib
import SealedGrant.Proofs.Reservation

/-! # The order of reservations

What a store answers depends on its form and on whether the id is reserved, and so does what it
gains (`SealedGrant.ReservationStore.SameForm.reserve`). A reservation of another id changes
neither, though every reservation forgets what has expired. So two reservations of different ids can
be made in any order.
-/

namespace SealedGrant

namespace Reservation

theorem reserved_append (first second : List Reservation) (id : String) :
    reserved (first ++ second) id = (reserved first id || reserved second id) :=
  List.any_append

/-- Two lists of reservations gain the same, with ids of a kind. -/
def GainAlike (owned : String → Prop) (left leftLater right rightLater : List Reservation) : Prop :=
  ∃ gained : List Reservation, (∀ reservation ∈ gained, owned reservation.id) ∧
    leftLater = left ++ gained ∧ rightLater = right ++ gained

namespace GainAlike

variable {owned : String → Prop} (alive : Reservation → Bool) (left right : List Reservation)

theorem kept : GainAlike owned left left right right :=
  ⟨[], List.forall_mem_nil _, (List.append_nil _).symm, (List.append_nil _).symm⟩

/-- Forgetting what has expired is no gain. -/
theorem forgotten : GainAlike owned (left.filter alive) ((left.filter alive).filter alive)
    (right.filter alive) ((right.filter alive).filter alive) := by
  simp only [List.filter_filter, Bool.and_self]
  exact kept _ _

theorem added {reservation : Reservation} (named : owned reservation.id) :
    GainAlike owned (left.filter alive) ((left.filter alive ++ [reservation]).filter alive)
      (right.filter alive) ((right.filter alive ++ [reservation]).filter alive) := by
  refine ⟨[reservation].filter alive, fun found member => ?_, ?_, ?_⟩
  · rwa [List.mem_singleton.mp (List.mem_of_mem_filter member)]
  · simp only [List.filter_append, List.filter_filter, Bool.and_self]
  · simp only [List.filter_append, List.filter_filter, Bool.and_self]

theorem mono {left leftLater right rightLater : List Reservation} {wider : String → Prop}
    (gain : GainAlike owned left leftLater right rightLater)
    (implies : ∀ id, owned id → wider id) : GainAlike wider left leftLater right rightLater := by
  obtain ⟨gained, named, leftGain, rightGain⟩ := gain
  exact ⟨gained, fun reservation member => implies _ (named reservation member), leftGain,
    rightGain⟩

end GainAlike
end Reservation

namespace ReservationStore

open Reservation (reserved GainAlike)

/-- Two stores are of one form: both keep their reservations in one way, or both are out of order
in one way. -/
inductive SameForm : ReservationStore → ReservationStore → Prop where
  | memory (left right : List Reservation) : SameForm (.memory left) (.memory right)
  | table (left right : List Reservation) : SameForm (.table (some left)) (.table (some right))
  | noTable : SameForm (.table none) (.table none)
  | down (outage : Outage) : SameForm (.down outage) (.down outage)

theorem SameForm.refl (store : ReservationStore) : SameForm store store := by
  cases store with
  | memory entries => exact .memory _ _
  | down outage => exact .down outage
  | table rows =>
    cases rows with
    | none => exact .noTable
    | some rows => exact .table _ _

theorem sameForm_reserve (store : ReservationStore) (reading : Number) (id : String)
    (ttl : Number) : SameForm store (store.reserve reading id ttl).2 := by
  cases store with
  | memory entries => exact .memory _ _
  | down outage => exact .down outage
  | table rows =>
    unfold reserve
    cases reading.whole with
    | error cause => exact SameForm.refl _
    | ok now =>
      cases rows with
      | none => exact .noTable
      | some rows => exact .table _ _

section Rows

variable {left right : List Reservation} {id : String}

theorem reserveEntry_alike {now : Number}
    (held : reserved (left.filter (Reservation.isLive now)) id =
      reserved (right.filter (Reservation.isLive now)) id) (ttl : Number) :
    (reserveEntry left now id ttl).1 = (reserveEntry right now id ttl).1 ∧
      GainAlike (· = id) (left.filter (Reservation.isLive now))
        ((reserveEntry left now id ttl).2.filter (Reservation.isLive now))
        (right.filter (Reservation.isLive now))
        ((reserveEntry right now id ttl).2.filter (Reservation.isLive now)) := by
  unfold reserveEntry
  dsimp only
  rw [held]
  cases reserved (right.filter (Reservation.isLive now)) id with
  | true => exact ⟨rfl, .forgotten _ left right⟩
  | false =>
    cases Reservation.expiryAfter now ttl with
    | error cause => exact ⟨rfl, .forgotten _ left right⟩
    | ok expiry => exact ⟨rfl, .added _ left right rfl⟩

theorem reserveRow_alike {now : ℤ}
    (held : reserved (left.filter (Reservation.isLive (.int now))) id =
      reserved (right.filter (Reservation.isLive (.int now))) id) (ttl : Number) :
    (reserveRow left now id ttl).1 = (reserveRow right now id ttl).1 ∧
      GainAlike (· = id) (left.filter (Reservation.isLive (.int now)))
        ((reserveRow left now id ttl).2.filter (Reservation.isLive (.int now)))
        (right.filter (Reservation.isLive (.int now)))
        ((reserveRow right now id ttl).2.filter (Reservation.isLive (.int now))) := by
  unfold reserveRow
  cases Reservation.expiryAfter (.int now) ttl with
  | error cause => exact ⟨rfl, .kept _ _⟩
  | ok expiry =>
    dsimp only
    rw [held]
    split
    · exact ⟨rfl, .kept _ _⟩
    · split
      · exact ⟨rfl, .kept _ _⟩
      · exact ⟨rfl, .added _ left right rfl⟩

end Rows

variable {left right : ReservationStore} {reading : Number} {id : String}

/-- **What a store answers and gains** depends on its form and on whether the id is reserved. -/
theorem SameForm.reserve (same : SameForm left right)
    (held : reserved (left.live reading) id = reserved (right.live reading) id) (ttl : Number) :
    (left.reserve reading id ttl).1 = (right.reserve reading id ttl).1 ∧
      GainAlike (· = id) (left.live reading) ((left.reserve reading id ttl).2.live reading)
        (right.live reading) ((right.reserve reading id ttl).2.live reading) := by
  cases same with
  | memory left right => exact reserveEntry_alike held ttl
  | noTable =>
    unfold ReservationStore.reserve
    cases reading.whole with
    | error cause => exact ⟨rfl, .kept _ _⟩
    | ok now => exact ⟨rfl, .kept _ _⟩
  | down outage => exact ⟨rfl, .kept _ _⟩
  | table left right =>
    unfold ReservationStore.reserve
    cases shows : reading.whole with
    | error cause => exact ⟨rfl, .kept _ _⟩
    | ok now =>
      obtain rfl := Number.truncate_of_whole shows
      exact reserveRow_alike held ttl

end ReservationStore
end SealedGrant
