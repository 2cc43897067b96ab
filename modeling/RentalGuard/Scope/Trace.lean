import RentalGuard.Scope.Explicit

/-! What a program does that others hear of: the calls of guards and the requests. A trace knows
neither the audit nor the log. What these receive is read off the trace afterwards, so that it
cannot have a part in what the program does. -/

namespace RentalGuard

/-- A call of a guard in a run. -/
structure GuardedCall where
  /-- The context of the innermost block around the call. -/
  context : Option TenantContext
  caller : Caller
  call : GuardCall

inductive Happening where
  | guarded (call : GuardedCall)
  /-- The handling of a request begins. -/
  | opened (claims : Option TenantClaims)
  /-- A request has been handled without a panic. -/
  | closed

namespace GuardCall

/-- What the call refuses, in order. -/
def denials (context : Option TenantContext) : GuardCall → List Denial
  | ensureVisible record => (Guard.ensureVisible context record).denials
  | retainVisible records => (Guard.retainVisible context records).denials
  | requireCompanyAccess company => (Guard.requireCompanyAccess context company).denials
  | auditPolicyDenial result => (Guard.auditPolicyDenial context result).denials

def answer (context : Option TenantContext) : GuardCall → Answer
  | ensureVisible record => granted (Guard.ensureVisible context record).result
  | retainVisible records =>
    match (Guard.retainVisible context records).result with
    | .ok kept => .kept kept
    | .error e => .failed e
  | requireCompanyAccess company => granted (Guard.requireCompanyAccess context company).result
  | auditPolicyDenial result =>
    match (Guard.auditPolicyDenial context result).result with
    | .ok value => .value value
    | .error e => .failed e

end GuardCall

def GuardedCall.answer (c : GuardedCall) : Answer := c.call.answer c.context

namespace Happening

def call? : Happening → Option GuardedCall
  | guarded c => some c
  | opened _ | closed => none

/-- What is refused, and to whom. -/
def denials : Happening → List (Caller × Denial)
  | guarded c => (c.call.denials c.context).map fun denial => (c.caller, denial)
  | opened _ | closed => []

end Happening

namespace Auditing

/-- The events of denials. The first one has this number. -/
def events (a : Auditing) (number : Nat) (denials : List (Caller × Denial)) : List AuditEvent :=
  (denials.zipIdx number).map fun ((caller, denial), n) =>
    .denied (a.eventId n) (a.now n) denial.eventType caller.actor caller.resource
      (some denial.metadata)

/-- The entries for those of `count` events that could not be delivered. -/
def failures (a : Auditing) (number count : Nat) : List LogEntry :=
  (List.range' number count).filterMap fun n =>
    (a.failure n).map fun e => deliveryFailed e (a.eventId n)

/-- The entries of one happening. The next event has this number. -/
def entriesOf (a : Auditing) (number : Nat) : Happening → List LogEntry
  | .guarded c => a.failures number (c.call.denials c.context).length
  | .opened claims => [Request.opened claims]
  | .closed => [Request.closed]

def entries (a : Auditing) (number : Nat) : List Happening → List LogEntry
  | [] => []
  | h :: rest => a.entriesOf number h ++ a.entries (number + h.denials.length) rest

end Auditing

/-- The snapshots by name, the newest first. -/
abbrev Snapshots := List (String × List CompanyId)

/-- What code leaves behind: its own context, the snapshots, what others hear of, and its
result. -/
structure Traced (α : Type) where
  own : Option TenantContext
  snapshots : Snapshots
  happenings : List Happening
  result : Except Panic α

namespace Traced

variable {α β : Type}

/-- The calls of guards, in the order in which they are made. -/
def calls (t : Traced α) : List GuardedCall := t.happenings.filterMap Happening.call?

def denials (t : Traced α) : List (Caller × Denial) := t.happenings.flatMap Happening.denials

/-- The same with something that happens before. -/
def after (h : Happening) (t : Traced α) : Traced α := { t with happenings := h :: t.happenings }

/-- The end of a block. The code around it goes on with the context that it had. -/
def back (own : Option TenantContext) (f : Except Panic α → Except Panic β) (inner : Traced α) :
    Traced β :=
  ⟨own, inner.snapshots, inner.happenings, f inner.result⟩

/-- Goes on after a result, unless it is a panic. -/
def andThen (first : Traced α)
    (next : α → Option TenantContext → Snapshots → Traced β) : Traced β :=
  match first.result with
  | .ok value =>
    let second := next value first.own first.snapshots
    { second with happenings := first.happenings ++ second.happenings }
  | .error p => ⟨first.own, first.snapshots, first.happenings, .error p⟩

/-- The world in which everything that happens has been heard of. -/
def replay (a : Auditing) (w : World) (t : Traced α) : World × Except Panic α :=
  (⟨t.own, t.snapshots, w.events ++ a.events w.events.length t.denials,
    w.logs ++ a.entries w.events.length t.happenings⟩, t.result)

end Traced

/-- Nobody hears of an operation. -/
def AmbientOp.trace (own : Option TenantContext) (snapshots : Snapshots) (op : AmbientOp) :
    Traced Answer :=
  let (w, answer) := op.run ⟨own, snapshots, [], []⟩
  ⟨w.ambient, w.snapshots, [], .ok answer⟩

mutual

def Step.trace : Step → Option TenantContext → Snapshots → Traced Answer
  | .operation op, own, s => op.trace own s
  | .guarded caller call, own, s =>
    ⟨own, s, [.guarded ⟨own, caller, call⟩], .ok (call.answer own)⟩
  | .refused e, own, s => ⟨own, s, [], .ok (.invalid e)⟩
  | .panic message, own, s => ⟨own, s, [], .error ⟨message⟩⟩
  | .caught body, own, s =>
    let inner := traceSteps body own s
    inner.back inner.own caughtResult
  | .scope ctx body, own, s => (traceSteps body (some ctx) s).back own (.map .steps)
  | .caughtScope ctx body, own, s => (traceSteps body (some ctx) s).back own caughtResult
  | .spawn body, own, s => (traceSteps body none s).back own caughtResult
  | .inherit meanwhile child, own, s =>
    match own with
    | none => ⟨none, s, [], .ok (.noScope .notInitialized)⟩
    | some ctx =>
      (traceSteps meanwhile (some ctx) s).andThen fun before own s =>
        (traceSteps child (some ctx) s).back own (.map (.inherited before))
  | .cancelledScope ctx body, own, s =>
    (traceFirst body (some ctx) s).back own (.map fun _ => .cancelled body.isEmpty)
  | .interleave contexts turns, own, s =>
    (traceTurns turns (contexts.map some) own s).andThen fun answers own s =>
      ⟨own, s, [], .ok (.branches (byBranch contexts.length answers))⟩
  | .request claims body, own, s =>
    (((traceSteps body (some (Request.context claims)) s).back own id).after
      (.opened claims)).andThen fun answers own s => ⟨own, s, [.closed], .ok (.steps answers)⟩

def traceSteps : List Step → Option TenantContext → Snapshots → Traced (List Answer)
  | [], own, s => ⟨own, s, [], .ok []⟩
  | step :: rest, own, s =>
    (step.trace own s).andThen fun answer own s =>
      (traceSteps rest own s).andThen fun answers own s => ⟨own, s, [], .ok (answer :: answers)⟩

def traceFirst : List Step → Option TenantContext → Snapshots → Traced (List Answer)
  | [], own, s => ⟨own, s, [], .ok []⟩
  | step :: _, own, s =>
    (step.trace own s).andThen fun answer own s => ⟨own, s, [], .ok [answer]⟩

/-- Blocks in turn, each with the context that it has now. -/
def traceTurns : List (Nat × Step) → List (Option TenantContext) → Option TenantContext →
    Snapshots → Traced (List (Nat × Answer))
  | [], _, own, s => ⟨own, s, [], .ok []⟩
  | (branch, step) :: rest, held, own, s =>
    let turn := step.trace held[branch]?.join s
    (turn.back own id).andThen fun answer own s =>
      (traceTurns rest (held.set branch turn.own) own s).andThen fun answers own s =>
        ⟨own, s, [], .ok ((branch, answer) :: answers)⟩

end

end RentalGuard
