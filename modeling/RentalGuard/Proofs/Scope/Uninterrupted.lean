import RentalGuard.Proofs.Scope.Isolation

/-! # Pauses change nothing

Work that is polled again and again, with its context taken out of the slot at every pause, does
what the same work does in one piece. Work in one piece is a program of steps. Polls are compared
with `finish`, which runs on where a poll would pause, and `finish` with the run of the steps.
-/

namespace RentalGuard

mutual

/-- The work in one piece. -/
def Work.finish : Work → World → Polled
  | .operation op, w => (Work.operation op).run w
  | .pause, w => ⟨w, [], .finished⟩
  | .panic message, w => ⟨w, [], .panicked message⟩
  | .scope ctx body, w => (finishWork body { w with ambient := some ctx }).leave w.ambient

def finishWork : List Work → World → Polled
  | [], w => ⟨w, [], .finished⟩
  | work :: rest, w => (work.finish w).follow rest (finishWork rest)

end

/-- The rest of the work in one piece. -/
def Future.finish : Future → World → Polled
  | code rest, w => finishWork rest w
  | block held inner, w => (inner.finish { w with ambient := held }).leave w.ambient
  | followed inner rest, w => (inner.finish w).follow rest (finishWork rest)

namespace Polled

/-- Runs on after a pause. -/
def finish (p : Polled) : Polled :=
  match p.stop with
  | .paused future =>
    let q := future.finish p.world
    ⟨q.world, p.answers ++ q.answers, q.stop⟩
  | .finished | .panicked _ => p

theorem finish_leave (before : Option TenantContext) (p : Polled) :
    (p.leave before).finish = p.finish.leave before := by
  obtain ⟨w, answers, stop⟩ := p
  cases stop <;> rfl

theorem finish_follow {rest : List Work} {next : World → Polled}
    (hnext : ∀ w, (next w).finish = finishWork rest w) (p : Polled) :
    (p.follow rest next).finish = p.finish.follow rest (finishWork rest) := by
  obtain ⟨w, answers, stop⟩ := p
  cases stop with
  | finished =>
    have hw := hnext w
    simp only [follow, finish] at hw ⊢
    rw [← hw]
    obtain ⟨after, more, stop⟩ := next w
    cases stop <;> simp
  | paused inner =>
    simp only [follow, finish, Future.finish]
    cases (inner.finish w).stop <;> simp
  | panicked message => rfl

end Polled

mutual

theorem Work.finish_run (work : Work) (w : World) : (work.run w).finish = work.finish w := by
  cases work with
  | operation op => unfold Work.finish Work.run; rfl
  | pause => unfold Work.finish Work.run; rfl
  | panic message => unfold Work.finish Work.run; rfl
  | scope ctx body =>
    unfold Work.finish Work.run
    rw [Polled.finish_leave, finish_runWork body]

theorem finish_runWork (works : List Work) (w : World) :
    (runWork works w).finish = finishWork works w := by
  cases works with
  | nil => rfl
  | cons work rest =>
    unfold finishWork runWork
    rw [Polled.finish_follow (finish_runWork rest), work.finish_run w]

end

theorem Future.finish_poll (future : Future) (w : World) :
    (future.poll w).finish = future.finish w := by
  induction future generalizing w with
  | code rest => exact finish_runWork rest w
  | block held inner ih =>
    unfold poll finish
    rw [Polled.finish_leave, ih]
  | followed inner rest ih =>
    unfold poll finish
    rw [Polled.finish_follow (finish_runWork rest), ih]

/-! ## A task polled to its end -/

/-- The task has given, or will give when it is run on, what the work gives in one piece. -/
def Task.Completes (task : Task) (whole : Polled) : Prop :=
  match task.phase with
  | .running future =>
    let rest := future.finish (task.journal.under none)
    task.results ++ rest.answers = whole.answers ∧ rest.stop = whole.stop
  | .finished => task.results = whole.answers ∧ whole.stop = .finished
  | .panicked message => task.results = whole.answers ∧ whole.stop = .panicked message
  | .dropped => False

theorem Task.Completes.poll {task : Task} {whole : Polled} (h : task.Completes whole) :
    (task.poll none).2.Completes whole := by
  obtain ⟨phase, journal, results⟩ := task
  cases phase with
  | running future =>
    -- the poll splits what is left into the answers that it gives and those after it
    obtain ⟨hanswers, hstop⟩ := h
    have hslot := future.ambient_poll_outside (w := journal.under none) rfl
    have hfinish := future.finish_poll (journal.under none)
    simp only at hanswers hstop
    rw [← hfinish] at hanswers hstop
    unfold Task.poll
    simp only
    generalize future.poll (journal.under none) = p at *
    obtain ⟨w, answers, stop⟩ := p
    obtain ⟨ambient, snapshots, events, logs⟩ := w
    cases hslot
    cases stop with
    | finished => exact ⟨hanswers, hstop.symm⟩
    | paused rest =>
      refine ⟨?_, hstop⟩
      rw [List.append_assoc]
      exact hanswers
    | panicked message => exact ⟨hanswers, hstop.symm⟩
  | finished | panicked | dropped => exact h

theorem Task.completes_polled (program : List Work) (n : Nat) :
    ((Task.start program).polled n).Completes (finishWork program .initial) := by
  induction n with
  | zero => exact ⟨rfl, rfl⟩
  | succ n ih => exact ih.poll

/-! ## Work as steps -/

mutual

/-- A pause becomes a step that does nothing. -/
def Work.step : Work → Step
  | .operation op => .operation op
  | .pause => .caught []
  | .panic message => .panic message
  | .scope ctx body => .scope ctx (stepsOf body)

def stepsOf : List Work → List Step
  | [] => []
  | work :: rest => work.step :: stepsOf rest

end

mutual

/-- The answers without the blocks that they were given in. -/
def Answer.leaves : Answer → List Answer
  | .steps answers => leavesOf answers
  | answer => [answer]

def leavesOf : List Answer → List Answer
  | [] => []
  | answer :: rest => answer.leaves ++ leavesOf rest

end

theorem AmbientOp.leaves_run (op : AmbientOp) (w : World) :
    (op.run w).2.leaves = [(op.run w).2] := by
  obtain ⟨ambient, snapshots, events, logs⟩ := w
  cases ambient <;> cases op <;> rfl

/-- Work in one piece has done what steps have done. The steps that a panic ends have no
answers. -/
def Polled.Matches {α : Type} (p : Polled) (flat : α → List Answer)
    (ran : World × Except Panic α) : Prop :=
  ran.1 = p.world ∧
    match ran.2 with
    | .ok value => p.stop = .finished ∧ flat value = p.answers
    | .error e => p.stop = .panicked e.message

namespace Polled.Matches

theorem leave {p : Polled} {ran : World × Except Panic (List Answer)} (h : p.Matches leavesOf ran)
    (before : Option TenantContext) :
    (p.leave before).Matches Answer.leaves
      (passing .steps ({ ran.1 with ambient := before }, ran.2)) := by
  obtain ⟨w, answers, stop⟩ := p
  obtain ⟨after, result⟩ := ran
  obtain ⟨hworld, hresult⟩ := h
  cases hworld
  refine ⟨rfl, ?_⟩
  cases result with
  | ok values =>
    obtain ⟨hstop, hvalues⟩ := hresult
    cases hstop
    exact ⟨rfl, hvalues⟩
  | error e =>
    cases hresult
    rfl

theorem follow {p : Polled} {ran : World × Except Panic Answer} (h : p.Matches Answer.leaves ran)
    {rest : List Work} {next : World → Polled} {run : World → World × Except Panic (List Answer)}
    (hnext : ∀ w, (next w).Matches leavesOf (run w)) :
    (p.follow rest next).Matches leavesOf
      (proceed (fun answer w => proceed (fun answers w => (w, .ok (answer :: answers))) (run w))
        ran) := by
  obtain ⟨w, answers, stop⟩ := p
  obtain ⟨after, result⟩ := ran
  obtain ⟨hworld, hresult⟩ := h
  cases hworld
  cases result with
  | error e =>
    cases hresult
    exact ⟨rfl, rfl⟩
  | ok answer =>
    obtain ⟨hstop, hanswer⟩ := hresult
    cases hstop
    obtain ⟨hlast, hrest⟩ := hnext w
    simp only [proceed, Polled.follow]
    generalize run w = ran at *
    obtain ⟨last, result⟩ := ran
    cases hlast
    cases result with
    | error e => exact ⟨rfl, hrest⟩
    | ok values =>
      refine ⟨rfl, hrest.1, ?_⟩
      show answer.leaves ++ leavesOf values = answers ++ (next w).answers
      rw [hanswer, hrest.2]

end Polled.Matches

mutual

theorem Work.matches_step (a : Auditing) (work : Work) (w : World) :
    (work.finish w).Matches Answer.leaves (work.step.run a w) := by
  cases work with
  | operation op => exact ⟨rfl, rfl, op.leaves_run w⟩
  | pause => exact ⟨rfl, rfl, rfl⟩
  | panic message => exact ⟨rfl, rfl⟩
  | scope ctx body =>
    unfold Work.finish Work.step Step.run
    exact (finishWork_matches_steps a body { w with ambient := some ctx }).leave w.ambient

theorem finishWork_matches_steps (a : Auditing) (works : List Work) (w : World) :
    (finishWork works w).Matches leavesOf (runSteps a (stepsOf works) w) := by
  cases works with
  | nil => exact ⟨rfl, rfl, rfl⟩
  | cons work rest =>
    unfold finishWork stepsOf runSteps
    exact (work.matches_step a w).follow fun w => finishWork_matches_steps a rest w

end

/-- A task that runs alone to its end answers what its work answers as a program of steps, and it
ends as the program does. -/
theorem Task.alone_eq_runProgram (a : Auditing) (program : List Work) :
    match (runProgram a (stepsOf program)).2 with
    | .ok answers =>
      (Task.alone program).phase = .finished ∧ (Task.alone program).results = leavesOf answers
    | .error e => (Task.alone program).phase = .panicked e.message := by
  obtain ⟨-, hran⟩ := finishWork_matches_steps a program .initial
  have hends := Task.alone_ends program
  have hwhole := Task.completes_polled program (pausesIn program + 1)
  rw [← Task.alone_eq_polled] at hwhole
  unfold runProgram
  generalize runSteps a (stepsOf program) .initial = ran at *
  generalize finishWork program .initial = whole at *
  generalize Task.alone program = task at *
  obtain ⟨phase, journal, results⟩ := task
  cases phase with
  | running future => cases hends
  | finished =>
    obtain ⟨hresults, hstop⟩ := hwhole
    cases hresult : ran.2 with
    | ok answers =>
      rw [hresult] at hran
      exact ⟨rfl, hresults.trans hran.2.symm⟩
    | error e =>
      rw [hresult, hstop] at hran
      cases hran
  | panicked message =>
    obtain ⟨hresults, hstop⟩ := hwhole
    cases hresult : ran.2 with
    | ok answers =>
      rw [hresult, hstop] at hran
      cases hran.1
    | error e =>
      rw [hresult, hstop] at hran
      cases hran
      rfl
  | dropped => cases hwhole

end RentalGuard
