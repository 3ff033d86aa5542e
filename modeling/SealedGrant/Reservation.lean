import SealedGrant.Fault

/-! # Reservations of token ids

A token that may be used once is reserved by its id before anything is issued for it. A reservation
lasts for the rest of the token's life and a second at least; an id that is reserved is refused.

Reservations are kept in memory or in a table. Both forget what has expired before they answer; the
table does so in the transaction of the answer, so a refusal brings the forgotten rows back.
-/

namespace SealedGrant

/-- The reservation of an id until a time. -/
structure Reservation where
  id : String
  expiry : Number
  deriving DecidableEq

namespace Reservation

/-- Whether a reservation still holds at a time. -/
def isLive (now : Number) (reservation : Reservation) : Bool :=
  now.lt reservation.expiry

/-- Whether an id is among some reservations. -/
def reserved (reservations : List Reservation) (id : String) : Bool :=
  reservations.any fun reservation => reservation.id = id

/-- The time at which a reservation made now ends: after its span, a second at least. -/
def expiryAfter (now ttl : Number) : Except ArithmeticFault Number :=
  now.sum (ttl.max 1)

/-- Whether a number fits a table column: an integer of 64 bits with sign, or any double. -/
def fitsColumn : Number → Bool
  | .int n => Number.fitsWord n
  | .double _ => true

/-- Whether an integer lies between the ends of the column's range, neither of which counts. -/
def isInnerWord (n : Int) : Bool :=
  -0x8000000000000000 < n && n < 0x7fffffffffffffff

/-- The number that a table column keeps: a whole double between the ends of the column's range
becomes an integer. -/
def columnValue : Number → Number
  | .int n => .int n
  | .double d =>
      let whole : Number := .int d.truncate
      if d.isFinite && whole.same (.double d) && isInnerWord d.truncate then whole else .double d

end Reservation

/-- The answer to a reservation. -/
inductive ReserveAnswer where
  | reserved
  | alreadyPresent
  deriving DecidableEq, Repr

def ReserveAnswer.text : ReserveAnswer → String
  | .reserved => "reserved"
  | .alreadyPresent => "already_present"

/-- Why a store answers nothing. -/
inductive Outage where
  | locked
  /-- The store fails in an unforeseen way. -/
  | crashed
  deriving DecidableEq, Repr

/-- Where reservations are kept. -/
inductive ReservationStore where
  | memory (entries : List Reservation)
  /-- A table; none when the table does not exist. -/
  | table (rows : Option (List Reservation))
  | down (outage : Outage)

namespace ReservationStore

/-- The failure of a store whose table does not exist. -/
def noTable : Failure :=
  .fault (.store "replay store unavailable: OperationalError")

/-- The failure of a store that is out of order. -/
def outageFailure : Outage → Failure
  | .locked => .fault (.store "database is locked")
  | .crashed => .defect .unforeseen

def arithmeticFailure (cause : ArithmeticFault) : Failure :=
  .defect (.arithmetic cause)

/-- Reserve an id in memory. What has expired stays forgotten even when there is no expiry. -/
def reserveEntry (entries : List Reservation) (now : Number) (id : String) (ttl : Number) :
    Except Failure ReserveAnswer × List Reservation :=
  let live := entries.filter (Reservation.isLive now)
  if Reservation.reserved live id then (.ok .alreadyPresent, live)
  else
    match Reservation.expiryAfter now ttl with
    | .ok expiry => (.ok .reserved, live ++ [⟨id, expiry⟩])
    | .error cause => (.error (arithmeticFailure cause), live)

/-- Reserve an id in a table, at a time in whole seconds. A conflict and a number that does not fit
leave the rows as they were; an expiry that is no number conflicts with what the column demands. -/
def reserveRow (rows : List Reservation) (now : Int) (id : String) (ttl : Number) :
    Except Failure ReserveAnswer × List Reservation :=
  match Reservation.expiryAfter (.int now) ttl with
  | .error cause => (.error (arithmeticFailure cause), rows)
  | .ok expiry =>
      if !Number.fitsWord now || !Reservation.fitsColumn expiry then
        (.error (.defect .integerTooLarge), rows)
      else
        let live := rows.filter (Reservation.isLive (.int now))
        if expiry.isNaN || Reservation.reserved live id then (.ok .alreadyPresent, rows)
        else (.ok .reserved, live ++ [⟨id, Reservation.columnValue expiry⟩])

/-- Reserve an id at a time for a span. The clock of a table has whole seconds, and they are read
before the table is looked for. -/
def reserve (store : ReservationStore) (now : Number) (id : String) (ttl : Number) :
    Except Failure ReserveAnswer × ReservationStore :=
  match store with
  | .memory entries =>
      let (answer, entries) := reserveEntry entries now id ttl
      (answer, .memory entries)
  | .table rows =>
      match now.whole, rows with
      | .error cause, _ => (.error (arithmeticFailure cause), store)
      | .ok _, none => (.error noTable, store)
      | .ok now, some rows =>
          let (answer, rows) := reserveRow rows now id ttl
          (answer, .table (some rows))
  | .down outage => (.error (outageFailure outage), store)

/-- Remove the expired rows of a table; the answer counts them. Other stores forget by themselves
what has expired and offer no such operation. -/
def purge (store : ReservationStore) (now : Number) : Except Failure Nat × ReservationStore :=
  match store with
  | .table rows =>
      match now.whole, rows with
      | .error cause, _ => (.error (arithmeticFailure cause), store)
      | .ok _, none => (.error noTable, store)
      | .ok now, some rows =>
          if Number.fitsWord now then
            let live := rows.filter (Reservation.isLive (.int now))
            (.ok (rows.length - live.length), .table (some live))
          else (.error (.defect .integerTooLarge), store)
  | .memory _ | .down _ => (.error (.defect .notOffered), store)

/-- The reservations that a store shows, in the order of their ids. -/
def contents (store : ReservationStore) : Except Failure (List Reservation) :=
  let inOrder := fun reservations : List Reservation =>
    reservations.mergeSort fun left right => decide (left.id ≤ right.id)
  match store with
  | .memory entries => .ok (inOrder entries)
  | .table (some rows) => .ok (inOrder rows)
  | .table none => .error (.defect .noTable)
  | .down _ => .error (.defect .notOffered)

/-- The number of reservations in memory; a table is not counted so. -/
def size (store : ReservationStore) : Except Failure Nat :=
  match store with
  | .memory entries => .ok entries.length
  | .table _ | .down _ => .error (.defect .typeMismatch)

end ReservationStore
end SealedGrant
