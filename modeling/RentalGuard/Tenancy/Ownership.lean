import RentalGuard.Company

/-! Who owns a record: one company, or nobody, if all companies share it. -/

namespace RentalGuard

inductive Ownership where
  | company (id : CompanyId)
  | shared
deriving DecidableEq

/-- Records that may belong to a company. The owner of a record does not change. -/
class Owned (α : Type) where
  /-- The company that owns the record, if there is one. -/
  owner : α → Option CompanyId

export Owned (owner)

namespace Ownership

def companyId? : Ownership → Option CompanyId
  | company id => some id
  | shared => none

def ofCompany? : Option CompanyId → Ownership
  | some id => company id
  | none => shared

instance : Owned Ownership := ⟨companyId?⟩

end Ownership

/-- A value with an owner. -/
structure CompanyOwned (α : Type) where
  ownership : Ownership
  value : α
deriving DecidableEq

instance {α : Type} : Owned (CompanyOwned α) := ⟨fun record => record.ownership.companyId?⟩

end RentalGuard
