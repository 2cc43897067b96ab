import RentalGuard.Scope.Run

/-! Programs that are handed their context. There is no slot: a block is given a context of its
own, the steps of the block pass it on from one to the next, and nobody else has it. -/

namespace RentalGuard

/-- What steps leave behind besides the context. -/
structure Journal where
  snapshots : List (String × List CompanyId)
  events : List AuditEvent
  logs : List LogEntry

namespace Journal

def log (j : Journal) (entry : LogEntry) : Journal := { j with logs := j.logs ++ [entry] }

/-- The world in which the context of the running code is in the slot. -/
def under (own : Option TenantContext) (j : Journal) : World :=
  ⟨own, j.snapshots, j.events, j.logs⟩

end Journal

def World.journal (w : World) : Journal := ⟨w.snapshots, w.events, w.logs⟩

/-- What code leaves behind: its own context, what all code shares, and its result. -/
structure Outcome (α : Type) where
  own : Option TenantContext
  journal : Journal
  result : Except Panic α

namespace AmbientOp

/-- The operation with a context in hand. -/
def onContext (ctx : TenantContext) (j : Journal) : AmbientOp → Outcome Answer
  | isInitialized => ⟨ctx, j, .ok (.flag true)⟩
  | current => ⟨ctx, j, .ok (.context ctx)⟩
  | companies => ⟨ctx, j, .ok (.companies ctx.companies)⟩
  | setCompanies ids => ⟨ctx.setCompanies ids, j, .ok .done⟩
  | isSuperAdmin => ⟨ctx, j, .ok (.flag ctx.superAdmin)⟩
  | setSuperAdmin superAdmin => ⟨ctx.setSuperAdmin superAdmin, j, .ok .done⟩
  | clear => ⟨TenantContext.empty, j, .ok .done⟩
  | scope => ⟨ctx, j, .ok (.companyScope ctx.scope)⟩
  | filter start column =>
    ⟨ctx, j, .ok (.text ((Sql.Query.start start).filter (ctx.scope.condition column)).text)⟩
  | connect => ⟨ctx, j, .ok (.session (.ofContext ctx))⟩
  | takeSnapshot name =>
    ⟨ctx, { j with snapshots := (name, ctx.companies) :: j.snapshots }, .ok .done⟩
  | readSnapshot name => ⟨ctx, j, .ok (.snapshot (j.snapshots.lookup name))⟩

/-- The answer of the operation without a context. -/
def withoutContext (j : Journal) : AmbientOp → Answer
  | isInitialized => .flag false
  | readSnapshot name => .snapshot (j.snapshots.lookup name)
  | connect => .failed (.scope .notInitialized)
  | _ => .noScope .notInitialized

def explicit (own : Option TenantContext) (j : Journal) (op : AmbientOp) : Outcome Answer :=
  match own with
  | some ctx => op.onContext ctx j
  | none => ⟨none, j, .ok (op.withoutContext j)⟩

end AmbientOp

/-- A guard looks at the context in hand and does not change it. -/
def GuardCall.explicit (a : Auditing) (caller : Caller) (own : Option TenantContext) (j : Journal)
    (call : GuardCall) : Outcome Answer :=
  let (w, answer) := call.run a caller (j.under own)
  ⟨own, w.journal, .ok answer⟩

/-- The result of steps beyond which no panic goes. -/
def caughtResult : Except Panic (List Answer) → Except Panic Answer
  | .ok answers => .ok (.steps answers)
  | .error p => .ok (.panicked p.message)

namespace Outcome

variable {α β : Type}

/-- The end of a block. The code around it goes on with the context that it had. -/
def back (own : Option TenantContext) (f : Except Panic α → Except Panic β) (inner : Outcome α) :
    Outcome β :=
  ⟨own, inner.journal, f inner.result⟩

/-- Goes on after a result, unless it is a panic. -/
def andThen (first : Outcome α) (next : α → Option TenantContext → Journal → Outcome β) :
    Outcome β :=
  match first.result with
  | .ok value => next value first.own first.journal
  | .error p => ⟨first.own, first.journal, .error p⟩

end Outcome

mutual

def Step.explicit (a : Auditing) : Step → Option TenantContext → Journal → Outcome Answer
  | .operation op, own, j => op.explicit own j
  | .guarded caller call, own, j => call.explicit a caller own j
  | .refused e, own, j => ⟨own, j, .ok (.invalid e)⟩
  | .panic message, own, j => ⟨own, j, .error ⟨message⟩⟩
  | .caught body, own, j =>
    let inner := explicitSteps a body own j
    ⟨inner.own, inner.journal, caughtResult inner.result⟩
  | .scope ctx body, own, j => (explicitSteps a body (some ctx) j).back own (.map .steps)
  | .caughtScope ctx body, own, j => (explicitSteps a body (some ctx) j).back own caughtResult
  | .spawn body, own, j => (explicitSteps a body none j).back own caughtResult
  | .inherit meanwhile child, own, j =>
    match own with
    | none => ⟨none, j, .ok (.noScope .notInitialized)⟩
    | some ctx =>
      (explicitSteps a meanwhile (some ctx) j).andThen fun before own j =>
        (explicitSteps a child (some ctx) j).back own (.map (.inherited before))
  | .cancelledScope ctx body, own, j =>
    (explicitFirst a body (some ctx) j).back own (.map fun _ => .cancelled body.isEmpty)
  | .interleave contexts turns, own, j =>
    (explicitTurns a turns (contexts.map some) own j).andThen fun answers own j =>
      ⟨own, j, .ok (.branches (byBranch contexts.length answers))⟩
  | .request claims body, own, j =>
    ((explicitSteps a body (some (Request.context claims))
      (j.log (Request.opened claims))).back own id).andThen
        fun answers own j => ⟨own, j.log Request.closed, .ok (.steps answers)⟩

def explicitSteps (a : Auditing) :
    List Step → Option TenantContext → Journal → Outcome (List Answer)
  | [], own, j => ⟨own, j, .ok []⟩
  | step :: rest, own, j =>
    (step.explicit a own j).andThen fun answer own j =>
      (explicitSteps a rest own j).andThen fun answers own j => ⟨own, j, .ok (answer :: answers)⟩

def explicitFirst (a : Auditing) :
    List Step → Option TenantContext → Journal → Outcome (List Answer)
  | [], own, j => ⟨own, j, .ok []⟩
  | step :: _, own, j => (step.explicit a own j).andThen fun answer own j => ⟨own, j, .ok [answer]⟩

/-- Blocks in turn, each with the context that it has now. -/
def explicitTurns (a : Auditing) : List (Nat × Step) → List (Option TenantContext) →
    Option TenantContext → Journal → Outcome (List (Nat × Answer))
  | [], _, own, j => ⟨own, j, .ok []⟩
  | (branch, step) :: rest, held, own, j =>
    let turn := step.explicit a held[branch]?.join j
    (turn.back own id).andThen fun answer own j =>
      (explicitTurns a rest (held.set branch turn.own) own j).andThen fun answers own j =>
        ⟨own, j, .ok ((branch, answer) :: answers)⟩

end

end RentalGuard
