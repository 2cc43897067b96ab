import RentalGuard.Scope.Operation
import RentalGuard.Tenancy.Claims

/-! Programs that use the ambient context. A block has a context of its own while its steps run;
blocks nest, run side by side, are dropped half-way, and are left by panics. -/

namespace RentalGuard

/-- A call of a guard. -/
inductive GuardCall where
  | ensureVisible (record : Ownership)
  | retainVisible (records : List (CompanyOwned Nat))
  | requireCompanyAccess (company : CompanyId)
  | auditPolicyDenial (result : Except ServiceError Json)

inductive Step where
  | operation (op : AmbientOp)
  | guarded (caller : Caller) (call : GuardCall)
  /-- A step whose input was refused before it could begin. -/
  | refused (e : DomainError)
  | panic (message : String)
  /-- Steps beyond which no panic goes. They share the context of the steps around them. -/
  | caught (body : List Step)
  /-- A block with the context. -/
  | scope (ctx : TenantContext) (body : List Step)
  /-- A block with the context, beyond which no panic goes. -/
  | caughtScope (ctx : TenantContext) (body : List Step)
  /-- A task of its own. It has no context, and no panic goes beyond it. -/
  | spawn (body : List Step)
  /-- Hands the present context on to work that runs in a task of its own, after the steps of
  `meanwhile` have run here. -/
  | inherit (meanwhile child : List Step)
  /-- A block that pauses after each step and is dropped at the first pause. -/
  | cancelledScope (ctx : TenantContext) (body : List Step)
  /-- Blocks that run side by side, each with its context. A turn names the block whose next step
  runs. -/
  | interleave (contexts : List TenantContext) (turns : List (Nat × Step))
  /-- The handling of a request. -/
  | request (claims : Option TenantClaims) (body : List Step)

/-- The steps that are blocks from their beginning to their end. -/
def Step.isBlock : Step → Bool
  | .scope .. | .caughtScope .. | .spawn .. | .cancelledScope .. | .interleave .. | .request .. =>
    true
  | .operation .. | .guarded .. | .refused .. | .panic .. | .caught .. | .inherit .. => false

/-- Turns for blocks side by side: one step of each in every round, in the order of the blocks. -/
def roundRobin (branches : List (List Step)) : List (Nat × Step) :=
  let rounds := (branches.map List.length).foldl max 0
  (List.range rounds).flatMap fun round =>
    branches.zipIdx.filterMap fun (steps, branch) => steps[round]?.map fun step => (branch, step)

end RentalGuard
