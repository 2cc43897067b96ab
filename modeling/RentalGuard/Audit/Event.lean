import RentalGuard.Audit.EventId
import RentalGuard.Calendar.Instant
import RentalGuard.Json.Document

/-! Audit events. An event tells who did what to which resource, and whether that was allowed. It
does not change after it has been made. -/

namespace RentalGuard

inductive AuditEventType where
  | crossTenantAccessAttempt
  | unauthorizedAccess
  | authenticationSuccess
  | authenticationFailure
  | logout
  | tokenValidationFailure
  | tenantContextError
  /-- A record that a query should have left out was found later. -/
  | filterViolation
  /-- A row policy of the database has refused. -/
  | policyViolation
  | runtimeValidationFailure
  | suspiciousActivity
  | adminAction
  | companyAssociationChanged
  | securityConfigChanged
deriving DecidableEq, Repr

inductive AuditSeverity where
  | info
  | warning
  | critical
deriving DecidableEq, Repr

namespace AuditSeverity

def name : AuditSeverity → String
  | info => "info"
  | warning => "warning"
  | critical => "critical"

/-- The place in the order of severity, the least severe first. -/
def rank : AuditSeverity → Nat
  | info => 0
  | warning => 1
  | critical => 2

instance : Ord AuditSeverity := ⟨fun a b => compare a.rank b.rank⟩

end AuditSeverity

namespace AuditEventType

/-- All types in the order in which they are listed. -/
def all : List AuditEventType :=
  [crossTenantAccessAttempt, unauthorizedAccess, authenticationSuccess, authenticationFailure,
    logout, tokenValidationFailure, tenantContextError, filterViolation, policyViolation,
    runtimeValidationFailure, suspiciousActivity, adminAction, companyAssociationChanged,
    securityConfigChanged]

def name : AuditEventType → String
  | crossTenantAccessAttempt => "cross_tenant_access_attempt"
  | unauthorizedAccess => "unauthorized_access"
  | authenticationSuccess => "authentication_success"
  | authenticationFailure => "authentication_failure"
  | logout => "logout"
  | tokenValidationFailure => "token_validation_failure"
  | tenantContextError => "tenant_context_error"
  | filterViolation => "filter_violation"
  | policyViolation => "policy_violation"
  | runtimeValidationFailure => "runtime_validation_failure"
  | suspiciousActivity => "suspicious_activity"
  | adminAction => "admin_action"
  | companyAssociationChanged => "company_association_changed"
  | securityConfigChanged => "security_config_changed"

def ofName? (s : String) : Option AuditEventType := all.find? (·.name == s)

/-- Whatever shows that tenants are not kept apart is critical. -/
def severity : AuditEventType → AuditSeverity
  | crossTenantAccessAttempt | filterViolation | policyViolation | tenantContextError => .critical
  | unauthorizedAccess | authenticationFailure | tokenValidationFailure
  | runtimeValidationFailure | suspiciousActivity => .warning
  | authenticationSuccess | logout | adminAction | companyAssociationChanged
  | securityConfigChanged => .info

end AuditEventType

inductive AccessDecision where
  | allowed
  | denied
deriving DecidableEq, Repr

namespace AccessDecision

def name : AccessDecision → String
  | allowed => "allowed"
  | denied => "denied"

def ofName? : String → Option AccessDecision
  | "allowed" => some allowed
  | "denied" => some denied
  | _ => none

end AccessDecision

inductive AuditOutcome where
  | success
  | failure
deriving DecidableEq, Repr

namespace AuditOutcome

def name : AuditOutcome → String
  | success => "success"
  | failure => "failure"

def ofName? : String → Option AuditOutcome
  | "success" => some success
  | "failure" => some failure
  | _ => none

end AuditOutcome

structure AuditEvent where
  id : EventId
  eventType : AuditEventType
  actor : Option String
  resource : String
  access : AccessDecision
  outcome : AuditOutcome
  metadata : Option Json.Document
  occurredAt : Instant

namespace AuditEvent

/-- An event of an access that was refused. -/
def denied (id : EventId) (occurredAt : Instant) (eventType : AuditEventType)
    (actor : Option String) (resource : String) (metadata : Option Json.Document) : AuditEvent :=
  ⟨id, eventType, actor, resource, .denied, .failure, metadata, occurredAt⟩

def severity (event : AuditEvent) : AuditSeverity := event.eventType.severity

/-- How many of the events have the type. -/
def countOf (eventType : AuditEventType) (events : List AuditEvent) : Nat :=
  events.countP fun event => event.eventType = eventType

end AuditEvent

end RentalGuard
