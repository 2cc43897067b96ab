import RentalGuard.Failure
import RentalGuard.Json.Basic
import RentalGuard.Tenancy.Context
import RentalGuard.Tenancy.Session

/-! What steps answer. -/

namespace RentalGuard

inductive Answer where
  | done
  | flag (value : Bool)
  | text (value : String)
  | context (ctx : TenantContext)
  | companies (ids : List CompanyId)
  | companyScope (scope : CompanyScope)
  | session (settings : SessionSettings)
  /-- A snapshot, or none if none has been taken under the name. -/
  | snapshot (ids : Option (List CompanyId))
  /-- The records that were kept. -/
  | kept (records : List (CompanyOwned Nat))
  /-- The result of database work. -/
  | value (value : Json)
  | noScope (e : ScopeError)
  | failed (e : ServiceError)
  | invalid (e : DomainError)
  /-- The answers of the steps of a block. -/
  | steps (answers : List Answer)
  /-- The answers before work that was handed on, and those of that work. -/
  | inherited (meanwhile child : List Answer)
  /-- The answers of blocks that ran side by side. -/
  | branches (answers : List (List Answer))
  /-- A block was dropped, or had ended before that. -/
  | cancelled (finished : Bool)
  /-- A block was left by a panic, which went no further. -/
  | panicked (message : String)

end RentalGuard
