import RentalGuard.Log
import RentalGuard.Tenancy.Guard

/-! What steps read and change: the slot for the ambient context, the snapshots that have been
taken, the audit trail and the log. -/

namespace RentalGuard

/-- The answers of the surroundings to the audit. -/
structure Auditing where
  /-- When the event with this number is made, counted from zero. -/
  now : Nat → Instant
  /-- The identifier of the event with this number. -/
  eventId : Nat → EventId
  /-- Why the event with this number could not be delivered, if it could not. -/
  failure : Nat → Option ServiceError

structure World where
  /-- The context of the block that runs. There is none outside all blocks. -/
  ambient : Option TenantContext
  /-- The snapshots by name, the newest first. -/
  snapshots : List (String × List CompanyId)
  /-- The events that were handed to the sink, in order. -/
  events : List AuditEvent
  logs : List LogEntry

namespace World

/-- Nothing has happened, and there is no context. -/
def initial : World := ⟨none, [], [], []⟩

def log (w : World) (entry : LogEntry) : World := { w with logs := w.logs ++ [entry] }

/-- Runs a body with its own slot. Whatever the body does to the slot, the one outside is
afterwards what it was. -/
def within {α : Type} (slot : Option TenantContext) (body : World → World × α) (w : World) :
    World × α :=
  let (after, result) := body { w with ambient := slot }
  ({ after with ambient := w.ambient }, result)

end World

/-- Who asks, and for what. -/
structure Caller where
  actor : Option String
  resource : String
deriving DecidableEq, Repr

/-- The entry for an event that could not be delivered. -/
def deliveryFailed (e : ServiceError) (id : EventId) : LogEntry :=
  .plain .error [("error.message", .text e.message), ("event.id", .text id.write)]
    "監査イベントの記録に失敗"

namespace World

/-- Hands one denial to the sink. A failure of the sink is logged and nothing else. -/
def record (a : Auditing) (caller : Caller) (w : World) (denial : Denial) : World :=
  let number := w.events.length
  let event := AuditEvent.denied (a.eventId number) (a.now number) denial.eventType
    caller.actor caller.resource (some denial.metadata)
  let w := { w with events := w.events ++ [event] }
  match a.failure number with
  | some e => w.log (deliveryFailed e event.id)
  | none => w

/-- Hands the denials of a verdict to the sink, one after the other. -/
def settle {α : Type} (a : Auditing) (caller : Caller) (verdict : Verdict α) (w : World) :
    World × Except ServiceError α :=
  (verdict.denials.foldl (record a caller) w, verdict.result)

end World

end RentalGuard
