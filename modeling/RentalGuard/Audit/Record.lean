import RentalGuard.Audit.Event
import RentalGuard.Calendar.Timestamp
import RentalGuard.Json.Writer
import RentalGuard.Log

/-! Audit events in the log. The severity of an event decides the level of its entry. -/

namespace RentalGuard

def AuditSeverity.level : AuditSeverity → LogLevel
  | critical => .error
  | warning => .warn
  | info => .info

namespace AuditEvent

/-- What stands for an actor who is not known. -/
def noActor : String := "-"

/-- The entry that records the event. It has no field for metadata if the event has none. -/
def logEntry (event : AuditEvent) : LogEntry :=
  .security event.severity.level
    ([("event.category", .text "audit"),
      ("event.action", .text event.eventType.name),
      ("event.result", .text event.outcome.name),
      ("event.access", .text event.access.name),
      ("event.actor", .text (event.actor.getD noActor)),
      ("event.resource", .text event.resource),
      ("event.id", .text event.id.write),
      ("event.occurred_at", .text (Timestamp.display event.occurredAt))] ++
      match event.metadata with
      | some document => [("event.metadata", .text document.tree.compact)]
      | none => [])
    "監査イベント"

end AuditEvent

end RentalGuard
