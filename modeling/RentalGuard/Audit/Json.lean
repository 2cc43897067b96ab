import RentalGuard.Audit.Event
import RentalGuard.Calendar.TimestampReader
import RentalGuard.Json.Record

/-! Audit events in JSON, in which they are kept. -/

namespace RentalGuard.AuditEvent

open Json

/-- The metadata as a tree. No metadata is null. -/
def metadataJson (event : AuditEvent) : Json :=
  match event.metadata with
  | some document => document.tree
  | none => null

def toJson (event : AuditEvent) : Json :=
  object
    [("id", string event.id.write),
      ("event_type", string event.eventType.name),
      ("actor", ofText? event.actor),
      ("resource", string event.resource),
      ("access", string event.access.name),
      ("outcome", string event.outcome.name),
      ("metadata", event.metadataJson),
      ("occurred_at", string (Timestamp.write event.occurredAt))]

/-- The fields in the order in which an array gives them. -/
def fieldNames : List String :=
  ["id", "event_type", "actor", "resource", "access", "outcome", "metadata", "occurred_at"]

/-- Reads an event. Metadata that is null counts as none. -/
def ofJson? (v : Json) : Option AuditEvent := do
  match ← record? fieldNames v with
  | [id, eventType, actor, resource, access, outcome, metadata, occurredAt] =>
    let id ← id.required fun v => v.text?.bind EventId.read?
    let eventType ← eventType.required fun v => v.caseName?.bind AuditEventType.ofName?
    let actor ← actor.optional text?
    let resource ← resource.required text?
    let access ← access.required fun v => v.caseName?.bind AccessDecision.ofName?
    let outcome ← outcome.required fun v => v.caseName?.bind AuditOutcome.ofName?
    let metadata ← metadata.optional document?
    let occurredAt ← occurredAt.required fun v => v.text?.bind Timestamp.read?
    return ⟨id, eventType, actor, resource, access, outcome, metadata, occurredAt⟩
  | _ => none

end RentalGuard.AuditEvent
