import RentalGuard.Failure
import RentalGuard.Json.Document

/-! What the guards add to their audit events. The fields stand in the order of their names. -/

namespace RentalGuard.AuditMetadata

open Json

/-- A list of texts. -/
def texts (names : List String) : Json := array (names.map string)

theorem ordered_texts (names : List String) : (texts names).Ordered := by
  rw [texts, Ordered]
  induction names with
  | nil => trivial
  | cons name rest ih => exact ⟨trivial, ih⟩

theorem readable_texts (names : List String) : (texts names).readable = true := by
  rw [texts, readable]
  induction names with
  | nil => rfl
  | cons name rest ih => simpa [readableItems, readable] using ih

/-- There was no context. -/
def noContext (error : ScopeError) : Document where
  tree := object [("reason", string error.message)]
  ordered := by simp [Ordered, OrderedFields, RisingKeys]
  readable := by simp [readable, readableFields]

/-- A record was out of sight. -/
def violation (contextCompanies : List String) (recordCompany : Option String) : Document where
  tree := object
    [("context_companies", texts contextCompanies), ("record_company", ofText? recordCompany)]
  ordered := by
    have h : Text.Precedes "context_companies" "record_company" := by decide
    cases recordCompany <;> simp [Ordered, OrderedFields, RisingKeys, ordered_texts, ofText?, h]
  readable := by
    cases recordCompany <;> simp [readable, readableFields, readable_texts, ofText?]

/-- A row policy of the database has refused. -/
def policyDenial (contextCompanies : List String) (error : ServiceError) : Document where
  tree := object
    [("context_companies", texts contextCompanies), ("reason", string error.message),
      ("sqlstate", string DatabaseError.policyDenialCode)]
  ordered := by
    have h : Text.Precedes "context_companies" "reason" := by decide
    have h' : Text.Precedes "reason" "sqlstate" := by decide
    simp [Ordered, OrderedFields, RisingKeys, ordered_texts, h, h', h.trans h']
  readable := by simp [readable, readableFields, readable_texts]

end RentalGuard.AuditMetadata
