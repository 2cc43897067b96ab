import RentalGuard.Scope.Program

/-! Running programs. There is one slot for the ambient context: a block puts its own context
there, and when it ends, in whatever way, the slot gets back what was there before. -/

namespace RentalGuard

/-- A panic that is on its way out. -/
structure Panic where
  message : String
deriving DecidableEq, Repr

namespace GuardCall

/-- The answer for a check that leaves nothing to tell. -/
def granted : Except ServiceError Unit → Answer
  | .ok () => .done
  | .error e => .failed e

def run (a : Auditing) (caller : Caller) (w : World) : GuardCall → World × Answer
  | ensureVisible record =>
    let (w, result) := w.settle a caller (Guard.ensureVisible w.ambient record)
    (w, granted result)
  | retainVisible records =>
    let (w, result) := w.settle a caller (Guard.retainVisible w.ambient records)
    (w, match result with
      | .ok kept => .kept kept
      | .error e => .failed e)
  | requireCompanyAccess company =>
    let (w, result) := w.settle a caller (Guard.requireCompanyAccess w.ambient company)
    (w, granted result)
  | auditPolicyDenial result =>
    let (w, result) := w.settle a caller (Guard.auditPolicyDenial w.ambient result)
    (w, match result with
      | .ok value => .value value
      | .error e => .failed e)

end GuardCall

namespace Request

/-- The context of a request. Without claims it sees the shared records only. -/
def context (claims : Option TenantClaims) : TenantContext :=
  (claims.map TenantClaims.toContext).getD .empty

/-- The entry for the start of a request. -/
def opened (claims : Option TenantClaims) : LogEntry :=
  let ctx := context claims
  .security .info
    [("event.category", .text "tenant"), ("event.action", .text "tenant.scope_opened"),
      ("event.result", .text "success"),
      ("tenant.company_count", .integer ctx.companies.length),
      ("tenant.super_admin", .flag ctx.superAdmin), ("tenant.has_claims", .flag claims.isSome)]
    "テナントスコープを開始"

/-- The entry for the end of a request. A panic leaves none. -/
def closed : LogEntry :=
  .plain .debug
    [("event.category", .text "tenant"), ("event.action", .text "tenant.scope_closed")]
    "テナントスコープを終了"

end Request

/-- The end of a block that lets panics through. -/
def passing (f : List Answer → Answer) :
    World × Except Panic (List Answer) → World × Except Panic Answer
  | (w, result) => (w, result.map f)

/-- The end of steps beyond which no panic goes. -/
def catching : World × Except Panic (List Answer) → World × Except Panic Answer
  | (w, .ok answers) => (w, .ok (.steps answers))
  | (w, .error p) => (w, .ok (.panicked p.message))

/-- Goes on after a result, unless it is a panic. -/
def proceed {α β : Type} (next : α → World → World × Except Panic β) :
    World × Except Panic α → World × Except Panic β
  | (w, .ok value) => next value w
  | (w, .error p) => (w, .error p)

/-- The answers of each of `count` blocks. -/
def byBranch (count : Nat) (answers : List (Nat × Answer)) : List (List Answer) :=
  (List.range count).map fun branch =>
    (answers.filter fun p => p.1 == branch).map (·.2)

mutual

def Step.run (a : Auditing) : Step → World → World × Except Panic Answer
  | .operation op, w =>
    let (w, answer) := op.run w
    (w, .ok answer)
  | .guarded caller call, w =>
    let (w, answer) := call.run a caller w
    (w, .ok answer)
  | .refused e, w => (w, .ok (.invalid e))
  | .panic message, w => (w, .error ⟨message⟩)
  | .caught body, w => catching (runSteps a body w)
  | .scope ctx body, w => passing .steps (w.within (some ctx) (runSteps a body))
  | .caughtScope ctx body, w => catching (w.within (some ctx) (runSteps a body))
  | .spawn body, w => catching (w.within none (runSteps a body))
  | .inherit meanwhile child, w =>
    match w.ambient with
    | none => (w, .ok (.noScope .notInitialized))
    | some ctx =>
      proceed (fun before w => passing (.inherited before) (w.within (some ctx) (runSteps a child)))
        (runSteps a meanwhile w)
  | .cancelledScope ctx body, w =>
    passing (fun _ => .cancelled body.isEmpty) (w.within (some ctx) (runFirst a body))
  | .interleave contexts turns, w =>
    proceed (fun answers w => (w, .ok (.branches (byBranch contexts.length answers))))
      (runTurns a turns (contexts.map some) w)
  | .request claims body, w =>
    proceed (fun answers w => (w.log Request.closed, .ok (.steps answers)))
      ((w.log (Request.opened claims)).within (some (Request.context claims)) (runSteps a body))

/-- Runs steps one after the other, up to a panic. -/
def runSteps (a : Auditing) : List Step → World → World × Except Panic (List Answer)
  | [], w => (w, .ok [])
  | step :: rest, w =>
    proceed (fun answer w =>
      proceed (fun answers w => (w, .ok (answer :: answers))) (runSteps a rest w)) (step.run a w)

/-- Runs the first step only. -/
def runFirst (a : Auditing) : List Step → World → World × Except Panic (List Answer)
  | [], w => (w, .ok [])
  | step :: _, w =>
    proceed (fun answer w => (w, .ok [answer])) (step.run a w)

/-- Runs the steps of blocks in turn. For each turn the context of its block comes into the slot;
afterwards it is taken out again, and the slot gets back what was there before. -/
def runTurns (a : Auditing) : List (Nat × Step) → List (Option TenantContext) → World →
    World × Except Panic (List (Nat × Answer))
  | [], _, w => (w, .ok [])
  | (branch, step) :: rest, slots, w =>
    let (after, result) := step.run a { w with ambient := slots[branch]?.join }
    proceed (fun answer w =>
      proceed (fun answers w => (w, .ok ((branch, answer) :: answers)))
        (runTurns a rest (slots.set branch after.ambient) w))
      ({ after with ambient := w.ambient }, result)

end

/-- Runs a program that starts outside all blocks. -/
def runProgram (a : Auditing) (program : List Step) : World × Except Panic (List Answer) :=
  runSteps a program .initial

end RentalGuard
