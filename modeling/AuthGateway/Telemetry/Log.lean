/-!
# Log entries

What operators read: entries of three levels, each under a target that names the part of the
gateway it comes from, with a fixed message and named fields.
-/

namespace AuthGateway

/-- How urgent an entry is. -/
inductive LogLevel where
  | info
  | warn
  | error
  deriving DecidableEq, Repr

/-- The level as it is written. -/
def LogLevel.label : LogLevel → String
  | .info => "INFO"
  | .warn => "WARN"
  | .error => "ERROR"

/-- The value of a field. -/
inductive LogValue where
  | text (s : String)
  | number (n : Nat)
  deriving DecidableEq, Repr

/-- One entry. -/
structure LogEntry where
  level : LogLevel
  target : String
  message : String
  fields : List (String × LogValue)
  deriving DecidableEq, Repr

end AuthGateway
