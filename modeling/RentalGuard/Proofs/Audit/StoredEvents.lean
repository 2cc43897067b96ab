import RentalGuard.Audit.Json
import RentalGuard.Proofs.Audit.EventIds
import RentalGuard.Proofs.Calendar.Timestamps
import RentalGuard.Proofs.Json.Documents
import RentalGuard.Proofs.Json.Records
import RentalGuard.Proofs.Json.Texts

/-! # Stored audit events are read back

An event that has been kept in JSON comes back with all that it tells, but metadata that is null
comes back as none. The only events that do not come back are those whose metadata cannot be read
again.
-/

namespace RentalGuard

/-! ## Names -/

theorem AuditEventType.ofName?_name (eventType : AuditEventType) :
    ofName? eventType.name = some eventType := by
  cases eventType <;> rfl

theorem AccessDecision.ofName?_name (access : AccessDecision) :
    ofName? access.name = some access := by
  cases access <;> rfl

theorem AuditOutcome.ofName?_name (outcome : AuditOutcome) :
    ofName? outcome.name = some outcome := by
  cases outcome <;> rfl

namespace AuditEvent

open Json

/-! ## Metadata -/

/-- The metadata as it is read back. Null is read as none. -/
def storedMetadata (event : AuditEvent) : Option Document :=
  event.metadata.filter fun document => !document.tree.isNull

/-- The event as it is read back. -/
def stored (event : AuditEvent) : AuditEvent := { event with metadata := event.storedMetadata }

/-- The metadata can be read again, if there is any. -/
def Restorable (event : AuditEvent) : Prop := ∀ document ∈ event.metadata, document.Restorable

instance (event : AuditEvent) : Decidable event.Restorable :=
  inferInstanceAs (Decidable (∀ document ∈ event.metadata, document.Restorable))

/-- Metadata is either written as null, and read as none, or it has a value of its own. -/
theorem metadata_cases (event : AuditEvent) :
    (event.metadataJson = null ∧ event.storedMetadata = none ∧ event.Restorable) ∨
      ∃ document, event.metadata = some document ∧ event.metadataJson = document.tree ∧
        document.tree ≠ null ∧ event.storedMetadata = some document ∧
        (event.Restorable ↔ document.Restorable) := by
  unfold metadataJson storedMetadata Restorable
  cases event.metadata with
  | none => exact .inl ⟨rfl, rfl, fun _ h => by cases h⟩
  | some document =>
    simp only [Option.mem_some_iff, forall_eq', Option.filter_some]
    cases hnull : document.tree.isNull with
    | true =>
      have htree := isNull_iff.mp hnull
      refine .inl ⟨htree, rfl, ?_⟩
      simp [htree, Document.Restorable, depth, literal, maxDepth]
    | false =>
      have hne : document.tree ≠ null := fun htree => by simp [isNull_iff.mpr htree] at hnull
      exact .inr ⟨document, rfl, rfl, hne, rfl, Iff.rfl⟩

/-- No metadata and metadata that is null are written alike. -/
theorem metadataJson_stored (event : AuditEvent) :
    event.stored.metadataJson = event.metadataJson := by
  have hstored : event.stored.metadata = event.storedMetadata := rfl
  rcases metadata_cases event with ⟨hnull, hnone, -⟩ | ⟨document, -, htree, -, hsome, -⟩
  · rw [hnull, metadataJson, hstored, hnone]
  · rw [htree, metadataJson, hstored, hsome]

theorem toJson_stored (event : AuditEvent) : event.stored.toJson = event.toJson := by
  unfold toJson
  rw [metadataJson_stored]
  rfl

/-! ## Events -/

theorem record?_toJson (event : AuditEvent) : record? fieldNames event.toJson =
    some [.present (string event.id.write), .present (string event.eventType.name),
      .present (ofText? event.actor), .present (string event.resource),
      .present (string event.access.name), .present (string event.outcome.name),
      .present event.metadataJson, .present (string (Timestamp.write event.occurredAt))] :=
  record?_object_all (show fieldNames.Nodup by decide)

/-- Whatever the metadata is read as, everything else comes back. -/
theorem ofJson?_toJson (event : AuditEvent) : ofJson? event.toJson =
    ((Field.present event.metadataJson).optional document?).map
      fun metadata => { event with metadata := metadata } := by
  unfold ofJson?
  rw [record?_toJson]
  simp only [Option.bind_eq_bind, Option.bind_some, Field.required, text?, caseName?,
    optional_ofText?, EventId.read?_write, AuditEventType.ofName?_name,
    AccessDecision.ofName?_name, AuditOutcome.ofName?_name, Timestamp.read?_write]
  exact (Option.map_eq_bind ..).symm

theorem metadataJson_of_toJson {event other : AuditEvent} (h : event.toJson = other.toJson) :
    event.metadataJson = other.metadataJson := by
  simp only [toJson, object.injEq, List.cons.injEq, Prod.mk.injEq, true_and] at h
  exact h.2.2.2.2.2.2.1

theorem ofJson?_toJson_eq_stored_iff (event : AuditEvent) :
    ofJson? event.toJson = some event.stored ↔ event.Restorable := by
  have hmetadata : ∀ {metadata : Option Document},
      { event with metadata := metadata } = event.stored ↔ metadata = event.storedMetadata :=
    ⟨congrArg AuditEvent.metadata, fun h => by rw [h]; rfl⟩
  rw [ofJson?_toJson]
  rcases metadata_cases event with
    ⟨hnull, hnone, hrestorable⟩ | ⟨document, -, htree, hne, hsome, hrestorable⟩
  · simp [hnull, hnone, hrestorable, hmetadata, Field.optional]
  · rw [htree, optional_of_ne_null hne, hrestorable, ← document?_tree_eq_iff]
    simp [hmetadata, hsome]

/-- If an event is written as before after it has been read, it was read as the stored form. -/
theorem eq_stored_of_toJson {event other : AuditEvent} (h : ofJson? event.toJson = some other)
    (hsame : other.toJson = event.toJson) : other = event.stored := by
  rw [ofJson?_toJson] at h
  obtain ⟨metadata, hread, rfl⟩ := Option.map_eq_some_iff.mp h
  refine congrArg (fun metadata => { event with metadata := metadata }) ?_
  rcases metadata_cases event with ⟨hnull, hnone, -⟩ | ⟨document, -, htree, hne, hsome, -⟩
  · rw [hnull] at hread
    cases hread
    exact hnone.symm
  · rw [htree, optional_of_ne_null hne] at hread
    obtain ⟨other, -, rfl⟩ := Option.map_eq_some_iff.mp hread
    rw [hsome, Document.eq_of_tree ((metadataJson_of_toJson hsame).trans htree)]

theorem readable_metadataJson (event : AuditEvent) : event.metadataJson.readable = true := by
  unfold metadataJson
  cases event.metadata with
  | none => rfl
  | some document => exact document.readable

/-- A number is whole and has 64 bits. -/
def WholeNumber : Json → Prop
  | integer n => FitsInteger n
  | double _ => False
  | _ => True

/-- Nothing in an event but its metadata can be read as another value. -/
theorem read?_chars_toJson {event : AuditEvent} (h : event.metadataJson.Every WholeNumber) :
    read? event.toJson.chars = some event.toJson := by
  have hactor : (ofText? event.actor).Every Legible := by
    cases event.actor <;> trivial
  have hmetadata : event.metadataJson.Every Legible := by
    refine Every.imp (fun v hv => ?_) ((every_readable event.readable_metadataJson).and h)
    obtain ⟨hvalue, hnumber⟩ := hv
    cases v with
    | integer _ => exact hnumber
    | double _ => exact hnumber.elim
    | unreadable => exact absurd rfl hvalue
    | _ => trivial
  refine read?_chars_eq_self_iff.mpr ?_
  simp only [toJson, Every, EveryField, Legible, hactor, hmetadata, and_self]

/-- Every event is read back with all that it tells, but its metadata is read back only if it is
restorable. Then the event is written again as before, and otherwise it is not. Nothing is lost
between the tree and its text, as long as the numbers in the metadata are whole. -/
theorem reads_back_unchanged (event : AuditEvent) :
    (∀ other, ofJson? event.toJson = some other →
      { other with metadata := event.metadata } = event) ∧
    (ofJson? event.toJson = some event.stored ↔ event.Restorable) ∧
    ((ofJson? event.toJson).map toJson = some event.toJson ↔ event.Restorable) ∧
    (event.metadataJson.Every WholeNumber → read? event.toJson.chars = some event.toJson) := by
  refine ⟨?_, ofJson?_toJson_eq_stored_iff event, ?_, read?_chars_toJson⟩
  · intro other hread
    rw [ofJson?_toJson] at hread
    obtain ⟨metadata, -, rfl⟩ := Option.map_eq_some_iff.mp hread
    rfl
  · rw [← ofJson?_toJson_eq_stored_iff]
    constructor
    · intro hsame
      obtain ⟨other, hread, hjson⟩ := Option.map_eq_some_iff.mp hsame
      rw [hread, eq_stored_of_toJson hread hjson]
    · intro hread
      rw [hread, Option.map_some, toJson_stored]

/-- An event of 2026 with the given metadata. -/
def withMetadata (document : Document) : AuditEvent where
  id := .ofNat 0x0190a5e47c3b7d2e9f102b8c4d6e8a01
  eventType := .logout
  actor := some "u"
  resource := "r"
  access := .denied
  outcome := .failure
  metadata := some document
  occurredAt := ⟨1768469400, 0, by decide, by decide⟩

theorem reads_back_unchanged_with_list :
    let event := withMetadata ⟨array [integer 1, null], ⟨trivial, trivial, trivial⟩, rfl⟩
    event.Restorable ∧ ofJson? event.toJson = some event := by
  intro event
  have hrestorable : event.Restorable := by decide
  exact ⟨hrestorable, (reads_back_unchanged event).2.1.mpr hrestorable⟩

/-- Metadata that stands for a text is read as the value of the text. Metadata that is nested too
deep is not read. -/
theorem embedded_text_is_read_as_value :
    (withMetadata (.ofText "[1]")).metadataJson = object [(embeddedKey, string "[1]")] ∧
      (ofJson? (withMetadata (.ofText "[1]")).toJson).map metadataJson =
        some (array [integer 1]) ∧
      ofJson? (withMetadata (.ofText "[1]")).toJson ≠ some (withMetadata (.ofText "[1]")).stored ∧
      ofJson? (withMetadata (.nested 126)).toJson = none := by
  have hread : ∀ document : Document, document.tree ≠ null →
      ofJson? (withMetadata document).toJson = (document? document.tree).map withMetadata := by
    intro document hne
    rw [ofJson?_toJson]
    refine (congrArg (Option.map _) (optional_of_ne_null hne)).trans ?_
    rw [Option.map_map]
    rfl
  have htext : (Document.ofText "[1]").tree ≠ null := fun h => nomatch h
  have hnested : (Document.nested 126).tree ≠ null := fun h => nomatch h
  refine ⟨rfl, ?_, ?_, ?_⟩
  · have hlegible : (array [integer 1]).Every Legible := ⟨⟨by decide, by decide⟩, trivial⟩
    have hvalue : read? "[1]".toList = some (array [integer 1]) :=
      read?_chars_eq_self_iff.mpr hlegible
    rw [hread _ htext, Option.map_map]
    exact document?_ofText hvalue (by decide) rfl rfl
  · rw [Ne, ofJson?_toJson_eq_stored_iff]
    decide
  · rw [hread _ hnested, document?_nested (Nat.le_refl _)]
    rfl

end AuditEvent

end RentalGuard
