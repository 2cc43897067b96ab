/-! Entries of the structured log. An entry has a level and named fields; its text is the field
`message`. Security entries carry a mark by which they can be picked out. -/

namespace RentalGuard

inductive LogLevel where
  | error
  | warn
  | info
  | debug
deriving DecidableEq, Repr

def LogLevel.name : LogLevel → String
  | error => "ERROR"
  | warn => "WARN"
  | info => "INFO"
  | debug => "DEBUG"

inductive LogValue where
  | text (value : String)
  | integer (value : Int)
  | flag (value : Bool)
deriving DecidableEq, Repr

structure LogEntry where
  level : LogLevel
  fields : List (String × LogValue)
deriving DecidableEq, Repr

namespace LogEntry

/-- An entry with a message. -/
def plain (level : LogLevel) (fields : List (String × LogValue)) (message : String) : LogEntry :=
  ⟨level, fields ++ [("message", .text message)]⟩

/-- An entry that is marked as a security event. -/
def security (level : LogLevel) (fields : List (String × LogValue)) (message : String) :
    LogEntry :=
  plain level (("event.kind", .text "security_event") :: fields) message

end LogEntry

end RentalGuard
