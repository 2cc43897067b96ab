import RentalGuard.Tenancy.Context

/-! The changes that a context goes through, and the snapshots that are taken on the way. A
snapshot does not change with the context. -/

namespace RentalGuard

inductive ContextChange where
  | setCompanies (ids : List CompanyId)
  | setSuperAdmin (superAdmin : Bool)
  | clear
  | takeSnapshot (name : String)

/-- A context and the snapshots of its companies by name, the newest first. -/
structure ContextHistory where
  context : TenantContext
  snapshots : List (String × List CompanyId)

namespace ContextHistory

/-- Nothing has changed yet. -/
def start (ctx : TenantContext) : ContextHistory := ⟨ctx, []⟩

def apply (h : ContextHistory) : ContextChange → ContextHistory
  | .setCompanies ids => { h with context := h.context.setCompanies ids }
  | .setSuperAdmin superAdmin => { h with context := h.context.setSuperAdmin superAdmin }
  | .clear => { h with context := .empty }
  | .takeSnapshot name => { h with snapshots := (name, h.context.companies) :: h.snapshots }

/-- A context with its snapshots after some changes. -/
def after (ctx : TenantContext) (changes : List ContextChange) : ContextHistory :=
  changes.foldl apply (start ctx)

theorem after_append (ctx : TenantContext) (before suffix : List ContextChange) :
    after ctx (before ++ suffix) = suffix.foldl apply (after ctx before) :=
  List.foldl_append

/-- The companies at the moment when the snapshot was taken. -/
def snapshot? (h : ContextHistory) (name : String) : Option (List CompanyId) :=
  h.snapshots.lookup name

end ContextHistory

end RentalGuard
