import RentalGuard.Scope.Run

/-! Services, and the layer that gives every request a context of its own. A call of a service does
something at once and leaves work behind. The work is run later, and the caller's context may then
be another one. -/

namespace RentalGuard

abbrev Deferred (α : Type) := World → World × Except Panic α

structure Service (α : Type) where
  /-- The call is told the claims of a request, if it carries any. -/
  call : Option TenantClaims → World → World × Deferred α

namespace Service

variable {α : Type}

/-- Calls a service and runs the work at once. -/
def serve (service : Service α) (claims : Option TenantClaims) : Deferred α := fun w =>
  let (w, work) := service.call claims w
  work w

/-- The service behind the layer. The call logs the start of the request and no more: the inner
service is called in the work, when its context is there. -/
def withScope (inner : Service α) : Service α where
  call claims w :=
    (w.log (Request.opened claims), fun w =>
      proceed (fun value w => (w.log Request.closed, .ok value))
        (w.within (some (Request.context claims)) (inner.serve claims)))

/-- The service behind a number of layers, one around the other. -/
def layered (inner : Service α) : Nat → Service α
  | 0 => inner
  | layers + 1 => (inner.layered layers).withScope

/-- A service that runs a program for each request. -/
def ofProgram (a : Auditing) (program : Option TenantClaims → List Step) :
    Service (List Answer) where
  call claims w := (w, runSteps a (program claims))

end Service

end RentalGuard
