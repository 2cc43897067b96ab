import RentalGuard.Audit.Record
import RentalGuard.Proofs.Audit.StoredEvents
import RentalGuard.Proofs.Json.FieldOrder
import RentalGuard.Proofs.Json.Writing

/-! # What the log tells of audit events

The entry of an event has a field for everything that is known of the event. So two events that are
logged alike differ at most in their identifiers and in an actor who is unknown in one of them and
has the name of the unknown in the other. The log even tells zeros with different signs apart.
-/

namespace RentalGuard

/-! ## Names -/

/-- What can be read back is told apart by the way it is written. -/
theorem inj_of_read {α β : Type} {write : α → β} {read? : β → Option α}
    (hread : ∀ a, read? (write a) = some a) {a b : α} : write a = write b ↔ a = b := by
  refine ⟨fun h => ?_, congrArg write⟩
  have hsame := congrArg read? h
  rw [hread, hread] at hsame
  exact Option.some.inj hsame

/-- The entry without the fields of that name. -/
def LogEntry.without (name : String) (entry : LogEntry) : LogEntry :=
  { entry with fields := entry.fields.filter fun field => field.1 != name }

namespace AuditEvent

open Json

/-! ## Metadata -/

/-- The field for the metadata. There is none if the event has no metadata. -/
def metadataField (event : AuditEvent) : List (String × LogValue) :=
  match event.metadata with
  | some document => [("event.metadata", .text document.tree.compact)]
  | none => []

/-- Either neither event has metadata, or both have the same value, with doubles compared as
given. -/
def SameMetadata (alike : Double → Double → Prop) (event other : AuditEvent) : Prop :=
  Option.Rel (fun d e : Document => d.tree.Rearranged alike e.tree) event.metadata other.metadata

theorem sameMetadata_iff {event other : AuditEvent} :
    event.SameMetadata Eq other ↔ event.metadata = other.metadata := by
  unfold SameMetadata
  cases event.metadata <;> cases other.metadata <;> simp [Document.rearranged_iff]

theorem metadataField_inj {event other : AuditEvent} :
    event.metadataField = other.metadataField ↔ event.SameMetadata Eq other := by
  rw [sameMetadata_iff]
  unfold metadataField
  cases event.metadata with
  | none => cases other.metadata <;> simp
  | some document =>
    cases other.metadata with
    | none => simp
    | some document' =>
      have htext := compact_inj document.readable document'.readable
      simp only [List.cons.injEq, Prod.mk.injEq, LogValue.text.injEq, true_and, and_true, htext,
        Option.some.injEq]
      exact ⟨Document.eq_of_tree, congrArg Document.tree⟩

/-- Metadata is still the same if its doubles are compared in a way that is less strict for them. -/
theorem SameMetadata.refine {p : Json → Prop} {alike alike' : Double → Double → Prop}
    (h : Refines p alike alike') {event other : AuditEvent} (hevent : event.metadataJson.Every p)
    (hother : other.metadataJson.Every p) (hsame : event.SameMetadata alike other) :
    event.SameMetadata alike' other := by
  unfold SameMetadata at hsame ⊢
  unfold metadataJson at hevent hother
  generalize event.metadata = metadata at hevent hsame ⊢
  generalize other.metadata = metadata' at hother hsame ⊢
  cases hsame with
  | none => exact .none
  | some htree => exact .some (htree.refine h hevent hother)

/-- No zero has a minus sign. -/
def PlainZero : Json → Prop
  | double d => d.units = 0 → d.negative = false
  | _ => True

theorem refines_sameValue : Refines (· ≠ unreadable) Eq Double.SameValue :=
  fun _ _ _ _ h => .inl h

theorem refines_eq : Refines PlainZero Double.SameValue Eq := by
  rintro d e hd he (hsame | ⟨hzero, hzero'⟩)
  · exact hsame
  · exact Double.ext ((hd hzero).trans (he hzero').symm) (hzero.trans hzero'.symm)

/-! ## Entries -/

/-- The events tell the same of everything but their identifiers, with doubles compared as given. An
actor who is not known counts as one whose name is a dash. -/
structure Agrees (alike : Double → Double → Prop) (event other : AuditEvent) : Prop where
  eventType : event.eventType = other.eventType
  access : event.access = other.access
  outcome : event.outcome = other.outcome
  resource : event.resource = other.resource
  occurredAt : event.occurredAt = other.occurredAt
  metadata : event.SameMetadata alike other
  actor : event.actor.getD "-" = other.actor.getD "-"

/-- The fields of the entry but for the identifier of the event. -/
def toldFields (event : AuditEvent) : List (String × LogValue) :=
  [("event.category", .text "audit"),
    ("event.action", .text event.eventType.name),
    ("event.result", .text event.outcome.name),
    ("event.access", .text event.access.name),
    ("event.actor", .text (event.actor.getD "-")),
    ("event.resource", .text event.resource),
    ("event.occurred_at", .text (Timestamp.display event.occurredAt))] ++ event.metadataField

theorem logEntry_without_id (event : AuditEvent) : event.logEntry.without "event.id" =
    .security event.severity.level event.toldFields "監査イベント" := by
  unfold logEntry toldFields metadataField
  cases event.metadata <;> rfl

theorem toldFields_inj {event other : AuditEvent} :
    event.toldFields = other.toldFields ↔ event.Agrees Eq other := by
  simp only [toldFields, List.cons_append, List.nil_append, List.cons.injEq, Prod.mk.injEq,
    LogValue.text.injEq, true_and, inj_of_read AuditEventType.ofName?_name,
    inj_of_read AccessDecision.ofName?_name, inj_of_read AuditOutcome.ofName?_name,
    Timestamp.display_inj, metadataField_inj]
  constructor
  · rintro ⟨htype, houtcome, haccess, hactor, hresource, htime, hmetadata⟩
    exact ⟨htype, haccess, houtcome, hresource, htime, hmetadata, hactor⟩
  · intro h
    exact ⟨h.eventType, h.outcome, h.access, h.actor, h.resource, h.occurredAt, h.metadata⟩

/-- Two events are logged alike, identifiers aside, exactly if they agree in everything else and
have the same doubles in their metadata. -/
theorem logEntry_without_id_inj {event other : AuditEvent} :
    event.logEntry.without "event.id" = other.logEntry.without "event.id" ↔
      event.Agrees Eq other := by
  rw [logEntry_without_id, logEntry_without_id, ← toldFields_inj]
  constructor
  · intro h
    have hfields := congrArg LogEntry.fields h
    exact List.append_cancel_right (List.cons.inj hfields).2
  · intro h
    -- the level follows from the type, which is among the fields
    have hlevel : event.severity.level = other.severity.level :=
      congrArg (fun t => t.severity.level) (toldFields_inj.mp h).eventType
    rw [h, hlevel]

/-- Two events are logged alike, identifiers aside, exactly if they agree in everything else and
have the same doubles in their metadata. So events that are logged alike agree, with doubles
compared as numbers, and if there are no zeros with a minus sign, events that agree are logged
alike. -/
theorem log_entries_tell_events_apart (event other : AuditEvent) :
    (event.logEntry.without "event.id" = other.logEntry.without "event.id" ↔
      event.Agrees Eq other) ∧
    (event.logEntry.without "event.id" = other.logEntry.without "event.id" →
      event.Agrees Double.SameValue other) ∧
    (event.metadataJson.Every PlainZero → other.metadataJson.Every PlainZero →
      event.Agrees Double.SameValue other →
        event.logEntry.without "event.id" = other.logEntry.without "event.id") := by
  refine ⟨logEntry_without_id_inj, fun h => ?_, fun hevent hother h => ?_⟩
  · have hagrees := logEntry_without_id_inj.mp h
    exact { hagrees with
      metadata := hagrees.metadata.refine refines_sameValue
        (every_readable event.readable_metadataJson) (every_readable other.readable_metadataJson) }
  · exact logEntry_without_id_inj.mpr
      { h with metadata := h.metadata.refine refines_eq hevent hother }

/-- An unknown actor and the dash are logged alike. Metadata that is null is not logged like none. -/
theorem log_entries_tell_events_apart_but_for_the_dash :
    let event := withMetadata ⟨array [integer 1, null], ⟨trivial, trivial, trivial⟩, rfl⟩
    let unknown := { event with actor := none }
    let dash := { event with id := .ofNat 1, actor := some "-" }
    let vacant := withMetadata ⟨null, trivial, rfl⟩
    let bare := { vacant with metadata := none }
    unknown.logEntry.without "event.id" = dash.logEntry.without "event.id" ∧
      vacant.logEntry.without "event.id" ≠ bare.logEntry.without "event.id" := by
  intro event unknown dash vacant bare
  constructor
  · refine (log_entries_tell_events_apart unknown dash).1.mpr ?_
    exact ⟨rfl, rfl, rfl, rfl, rfl, .some (rearranged_refl (fun _ => rfl) _), rfl⟩
  · intro h
    have hsame := (log_entries_tell_events_apart vacant bare).1.mp h
    cases hsame.metadata

/-- Zeros with different signs are equal numbers and are logged with their signs. -/
theorem zeros_are_logged_apart :
    let event := withMetadata (.ofDouble (.zero false))
    let other := withMetadata (.ofDouble (.zero true))
    event.Agrees Double.SameValue other ∧
      event.logEntry.without "event.id" ≠ other.logEntry.without "event.id" := by
  intro event other
  refine ⟨⟨rfl, rfl, rfl, rfl, rfl, .some (.inr ⟨rfl, rfl⟩), rfl⟩, fun h => ?_⟩
  have hmetadata := sameMetadata_iff.mp (logEntry_without_id_inj.mp h).metadata
  have htree : double (.zero false) = double (.zero true) :=
    congrArg Document.tree (Option.some.inj hmetadata)
  cases htree

end AuditEvent

end RentalGuard
