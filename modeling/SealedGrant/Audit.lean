import SealedGrant.Fault
import SealedGrant.Log

/-! # The audit log

Every answer of the token endpoint leaves one record; records are only ever added. A record that
cannot be written is reported and does not change the answer, which was decided before.
-/

namespace SealedGrant

/-- What an audit record tells. -/
structure AuditRecord where
  event : String
  clientId : Option String
  error : Option String
  outcome : String
  deriving DecidableEq, Repr

namespace AuditRecord

/-- The outcome of an answer with tokens. -/
def success : String := "success"

def failure : String := "fail"

def denied (clientId : Option String) (code : ErrorCode) : AuditRecord :=
  ⟨"token_denied", clientId, some code.text, failure⟩

/-- The record of issued tokens; the use of a refresh token has an event of its own. -/
def issued (clientId : Option String) (refreshed : Bool) : AuditRecord :=
  ⟨if refreshed then "token_refreshed" else "token_issued", clientId, none, success⟩

end AuditRecord

/-- The audit records, oldest first; none when their table does not exist. -/
abbrev AuditLog := Option (List AuditRecord)

namespace AuditLog

def empty : AuditLog := some []

/-- The log entry about a record that cannot be written. -/
def lostEntry (event clientId : Option String) : LogEntry where
  source := .audit
  level := .error
  text := "Could not write audit record " ++ event.getD "None" ++ " for client_id=" ++
    clientId.getD "None"
  fields := []

def append (audit : AuditLog) (record : AuditRecord) : List LogEntry × AuditLog :=
  match audit with
  | some records => ([], some (records ++ [record]))
  | none => ([lostEntry (some record.event) record.clientId], none)

/-- Add the record of its parts. One without an event or an outcome cannot be written. -/
def offer (audit : AuditLog) (event clientId error outcome : Option String) :
    List LogEntry × AuditLog :=
  match event, outcome with
  | some event, some outcome => audit.append ⟨event, clientId, error, outcome⟩
  | _, _ => ([lostEntry event clientId], audit)

/-- The most records that a query asks for. -/
def queryLimit : Number := 500

/-- The first records of a list, as many as a limit allows; a negative limit is none. -/
def limited (limit : Int) (records : List AuditRecord) : List AuditRecord :=
  if limit < 0 then records else records.take limit.toNat

/-- The newest records first, those of one client if one is named. The integer part of the
limit is taken before the table is looked for, and has to fit a word when the table is asked. -/
def recent (audit : AuditLog) (limit : Number) (clientId : Option String) :
    Except Failure (List AuditRecord) := do
  let bound ← (limit.min queryLimit).whole.mapError fun cause => .defect (.arithmetic cause)
  match audit with
  | none => throw (.defect .noTable)
  | some records =>
      let wanted := match clientId.filter (· ≠ "") with
        | some id => records.filter fun record : AuditRecord => record.clientId = some id
        | none => records
      if Number.fitsWord bound then return limited bound wanted.reverse
      else throw (.defect .integerTooLarge)

end AuditLog
end SealedGrant
