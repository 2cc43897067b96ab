import RentalGuard.Audit.Metadata
import RentalGuard.Audit.Event
import RentalGuard.Tenancy.Context

/-! The checks on records that have been loaded and on companies that a request names. A check
looks at the context and comes to a verdict: what the caller gets, and the denials that the audit
must hear of. The verdict does not depend on whether the audit can be reached. -/

namespace RentalGuard

/-- Something that was refused. -/
structure Denial where
  eventType : AuditEventType
  metadata : Json.Document

structure Verdict (α : Type) where
  /-- In the order in which they are to be recorded. -/
  denials : List Denial
  result : Except ServiceError α

namespace Verdict

/-- Access is granted. -/
def grant {α : Type} (value : α) : Verdict α := ⟨[], .ok value⟩

/-- Access is refused for one reason. The caller is not told which. -/
def refuse {α : Type} (denial : Denial) : Verdict α := ⟨[denial], .error .accessDenied⟩

/-- There is no context to check against. -/
def noContext {α : Type} : Verdict α :=
  ⟨[⟨.tenantContextError, AuditMetadata.noContext .notInitialized⟩],
    .error (.scope .notInitialized)⟩

end Verdict

namespace TenantContext

/-- The denial of a record that is out of sight. -/
def outOfSight (ctx : TenantContext) (eventType : AuditEventType) (company : Option CompanyId) :
    Denial :=
  ⟨eventType, AuditMetadata.violation ctx.companyNames (company.map (·.text))⟩

end TenantContext

namespace Guard

/-- A record must be visible. -/
def ensureVisible {α : Type} [Owned α] (context : Option TenantContext) (record : α) :
    Verdict Unit :=
  match context with
  | none => .noContext
  | some ctx =>
    if ctx.isVisible record then .grant ()
    else .refuse (ctx.outOfSight .filterViolation (owner record))

/-- The visible records in their order. Each other one is a denial. -/
def retainVisible {α : Type} [Owned α] (context : Option TenantContext) (records : List α) :
    Verdict (List α) :=
  match context with
  | none => .noContext
  | some ctx =>
    ⟨(records.filter fun r => !ctx.isVisible r).map fun r =>
        ctx.outOfSight .filterViolation (owner r),
      .ok (records.filter fun r => ctx.isVisible r)⟩

/-- The request must be for a company whose records are visible. -/
def requireCompanyAccess (context : Option TenantContext) (company : CompanyId) : Verdict Unit :=
  match context with
  | none => .noContext
  | some ctx =>
    if ctx.canSee (some company) then .grant ()
    else .refuse (ctx.outOfSight .crossTenantAccessAttempt (some company))

/-- The identifiers in the context. Without a context there are none. -/
def contextCompanies (context : Option TenantContext) : List String :=
  (context.map (·.companyNames)).getD []

/-- The result of database work. If a row policy has refused, the caller is told no more than
that. -/
def auditPolicyDenial {α : Type} (context : Option TenantContext)
    (result : Except ServiceError α) : Verdict α :=
  match result with
  | .ok value => .grant value
  | .error e =>
    if e.isPolicyDenial then
      .refuse ⟨.policyViolation, AuditMetadata.policyDenial (contextCompanies context) e⟩
    else ⟨[], .error e⟩

end Guard

end RentalGuard
