import RentalGuard.Scope.Explicit

/-! Tasks that share a thread. The thread has one slot for the ambient context. A task runs until
it pauses, and goes on at the next poll. A block that pauses takes its context out of the slot and
keeps it; at the next poll it puts the context in again. -/

namespace RentalGuard

/-- What a task does. -/
inductive Work where
  | operation (op : AmbientOp)
  | pause
  | panic (message : String)
  /-- A block with the context. It may pause anywhere. -/
  | scope (ctx : TenantContext) (body : List Work)

/-- Work that has paused, or has not begun. -/
inductive Future where
  | code (rest : List Work)
  /-- A block that keeps its context while it does not run. -/
  | block (held : Option TenantContext) (inner : Future)
  | followed (inner : Future) (rest : List Work)

/-- Why work has stopped running. -/
inductive Stop where
  | finished
  | paused (rest : Future)
  | panicked (message : String)

/-- What a poll leaves behind. -/
structure Polled where
  world : World
  answers : List Answer
  stop : Stop

namespace Polled

/-- The end of a poll of a block, in whatever way. The slot gets back what was there before, and a
block that has paused keeps its context. -/
def leave (before : Option TenantContext) (p : Polled) : Polled where
  world := { p.world with ambient := before }
  answers := p.answers
  stop := match p.stop with
    | .paused inner => .paused (.block p.world.ambient inner)
    | .finished => .finished
    | .panicked message => .panicked message

/-- Goes on with the rest, unless the work has paused or panicked. -/
def follow (rest : List Work) (next : World → Polled) (p : Polled) : Polled :=
  match p.stop with
  | .finished =>
    let q := next p.world
    ⟨q.world, p.answers ++ q.answers, q.stop⟩
  | .paused inner => ⟨p.world, p.answers, .paused (.followed inner rest)⟩
  | .panicked message => ⟨p.world, p.answers, .panicked message⟩

end Polled

mutual

def Work.run : Work → World → Polled
  | .operation op, w =>
    let (w, answer) := op.run w
    ⟨w, [answer], .finished⟩
  | .pause, w => ⟨w, [], .paused (.code [])⟩
  | .panic message, w => ⟨w, [], .panicked message⟩
  | .scope ctx body, w => (runWork body { w with ambient := some ctx }).leave w.ambient

/-- Runs work one after the other, up to a pause or a panic. -/
def runWork : List Work → World → Polled
  | [], w => ⟨w, [], .finished⟩
  | work :: rest, w => (work.run w).follow rest (runWork rest)

end

namespace Future

def poll : Future → World → Polled
  | code rest, w => runWork rest w
  | block held inner, w => (inner.poll { w with ambient := held }).leave w.ambient
  | followed inner rest, w => (inner.poll w).follow rest (runWork rest)

/-- A block is dropped with its context in the slot. -/
def drop : Future → World → World
  | code _, w => w
  | block held inner, w => { inner.drop { w with ambient := held } with ambient := w.ambient }
  | followed inner _, w => inner.drop w

end Future

inductive Phase where
  | running (future : Future)
  | finished
  | panicked (message : String)
  | dropped

namespace Phase

/-- The phase after a poll. No panic goes beyond the task. -/
def after : Stop → Phase
  | .finished => finished
  | .paused rest => running rest
  | .panicked message => panicked message

def isRunning : Phase → Bool
  | running _ => true
  | finished | panicked _ | dropped => false

end Phase

structure Task where
  phase : Phase
  /-- What the task has recorded. No other task has it. -/
  journal : Journal
  /-- The answers so far, in order. -/
  results : List Answer

namespace Task

/-- A task that has not been polled. The program of a request is one block with its context. -/
def start (program : List Work) : Task := ⟨.running (.code program), World.initial.journal, []⟩

/-- A poll of the task on a thread with this in its slot: the slot afterwards, and the task. -/
def poll (slot : Option TenantContext) (task : Task) : Option TenantContext × Task :=
  match task.phase with
  | .running future =>
    let p := future.poll (task.journal.under slot)
    (p.world.ambient, ⟨.after p.stop, p.world.journal, task.results ++ p.answers⟩)
  | .finished | .panicked _ | .dropped => (slot, task)

/-- The task is thrown away, unless it has ended. -/
def drop (slot : Option TenantContext) (task : Task) : Option TenantContext × Task :=
  match task.phase with
  | .running future =>
    ((future.drop (task.journal.under slot)).ambient, { task with phase := .dropped })
  | .finished | .panicked _ | .dropped => (slot, task)

end Task

/-- A thread and its tasks. -/
structure Thread (Name : Type) where
  ambient : Option TenantContext
  tasks : Name → Task

/-- What happens on a thread. -/
inductive Turn (Name : Type) where
  | poll (name : Name)
  | drop (name : Name)

namespace Thread

variable {Name : Type} [DecidableEq Name]

/-- No task has been polled. -/
def start (programs : Name → List Work) : Thread Name := ⟨none, fun name => .start (programs name)⟩

/-- The thread after one of its tasks has run. -/
def after (thread : Thread Name) (name : Name) (ran : Option TenantContext × Task) : Thread Name :=
  ⟨ran.1, fun other => if other = name then ran.2 else thread.tasks other⟩

def step (thread : Thread Name) : Turn Name → Thread Name
  | .poll name => thread.after name ((thread.tasks name).poll thread.ambient)
  | .drop name => thread.after name ((thread.tasks name).drop thread.ambient)

def run (thread : Thread Name) (turns : List (Turn Name)) : Thread Name := turns.foldl step thread

end Thread

mutual

/-- How often the work pauses, if it does not panic. -/
def Work.pauses : Work → Nat
  | .pause => 1
  | .scope _ body => pausesIn body
  | .operation _ | .panic _ => 0

def pausesIn : List Work → Nat
  | [] => 0
  | work :: rest => work.pauses + pausesIn rest

end

/-- How often the work will still pause. -/
def Future.pauses : Future → Nat
  | code rest => pausesIn rest
  | block _ inner => inner.pauses
  | followed inner rest => inner.pauses + pausesIn rest

/-- The task at its end when nothing else runs on its thread. Each pause takes one more poll. -/
def Task.alone (program : List Work) : Task :=
  ((Thread.start fun _ : Unit => program).run
    (List.replicate (pausesIn program + 1) (.poll ()))).tasks ()

end RentalGuard
