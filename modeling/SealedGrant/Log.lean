import SealedGrant.Json.Value

/-! # Log entries

Operations describe what they did and why they refused in log entries. An entry has the part of the
service that wrote it, a level, a text and some named values.
-/

namespace SealedGrant

/-- The part of the service that writes an entry. -/
inductive LogSource where
  | grants
  | endpoint
  | authorization
  | keys
  | clients
  | audit
  deriving DecidableEq, Repr

/-- The name under which a part writes. -/
def LogSource.name : LogSource → String
  | .grants => "token_service"
  | .endpoint => "token_endpoint"
  | .authorization => "authorization"
  | .keys => "sealer"
  | .clients => "seed"
  | .audit => "audit"

/-- How much an entry matters. -/
inductive LogLevel where
  | info
  | warning
  | error
  deriving DecidableEq, Repr

def LogLevel.name : LogLevel → String
  | .info => "INFO"
  | .warning => "WARNING"
  | .error => "ERROR"

/-- A log entry. -/
structure LogEntry where
  source : LogSource
  level : LogLevel
  text : String
  fields : Members

end SealedGrant
