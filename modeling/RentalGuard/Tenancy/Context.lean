import RentalGuard.Distinct
import RentalGuard.Tenancy.Ownership

/-! What a request may see. A record is visible to a super administrator, to a request that lists
the company that owns it, and to everybody if no company owns it. -/

namespace RentalGuard

/-- The companies whose records a request may see, none of them twice, and whether it may see
everything. An empty list does not stand for all companies. -/
structure TenantContext where
  companies : List CompanyId
  superAdmin : Bool
  unrepeated : companies.Nodup
deriving DecidableEq

/-- The part of the data that a query may return. -/
inductive CompanyScope where
  | allCompanies
  /-- The records of these companies and the shared ones. -/
  | companies (ids : List CompanyId)
  /-- The shared records. -/
  | ownDataOnly
deriving DecidableEq

namespace TenantContext

/-- No companies and no special right. -/
def empty : TenantContext := ⟨[], false, by simp⟩

def setCompanies (ctx : TenantContext) (companies : List CompanyId) : TenantContext :=
  ⟨distinct companies, ctx.superAdmin, nodup_distinct companies⟩

def setSuperAdmin (ctx : TenantContext) (superAdmin : Bool) : TenantContext :=
  { ctx with superAdmin }

def make (companies : List CompanyId) (superAdmin : Bool) : TenantContext :=
  (empty.setCompanies companies).setSuperAdmin superAdmin

/-- Whether a record with this owner is visible. -/
def canSee (ctx : TenantContext) : Option CompanyId → Bool
  | some id => ctx.superAdmin || ctx.companies.contains id
  | none => true

def isVisible {α : Type} [Owned α] (ctx : TenantContext) (record : α) : Bool :=
  ctx.canSee (owner record)

def scope (ctx : TenantContext) : CompanyScope :=
  if ctx.superAdmin then .allCompanies
  else if ctx.companies.isEmpty then .ownDataOnly
  else .companies ctx.companies

/-- The identifiers as text, in order. -/
def companyNames (ctx : TenantContext) : List String := ctx.companies.map (·.text)

end TenantContext

end RentalGuard
