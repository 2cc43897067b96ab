import RentalGuard.Scope.Service
import RentalGuard.Scope.Task

/-! Handing the present context on. What is handed on is a copy: the work that gets it may be run
at any later time and anywhere, and it runs in a block of its own with this copy. -/

namespace RentalGuard

variable {α : Type}

/-- A copy of the context of the block that runs. -/
def World.current (w : World) : Except ScopeError TenantContext :=
  match w.ambient with
  | some ctx => .ok ctx
  | none => .error .notInitialized

/-- Work as a block with the context. -/
def inBlock (ctx : TenantContext) (work : Deferred α) : Deferred α := fun w =>
  w.within (some ctx) work

/-- Work that will run with the context that is present now. No part of it is run yet. -/
def inherit (work : Deferred α) (w : World) : Except ScopeError (Deferred α) := do
  return inBlock (← w.current) work

/-- Runs work inside of blocks and tasks, the outermost first. A task of its own has no context. -/
def inside : List (Option TenantContext) → Deferred α → Deferred α
  | [], work => work
  | slot :: rest, work => fun w => w.within slot (inside rest work)

namespace Task

/-- The same for work that pauses: a task that will run with the context that is present now. -/
def inherit (program : List Work) (w : World) : Except ScopeError Task := do
  return ⟨.running (.block (some (← w.current)) (.code program)), World.initial.journal, []⟩

/-- The task after polls at places that have these in their slots. -/
def pollsAt (task : Task) (slots : List (Option TenantContext)) : Task :=
  slots.foldl (fun task slot => (task.poll slot).2) task

end Task

end RentalGuard
