import RentalGuard.Proofs.Scope.Refinement
import RentalGuard.Scope.Task

/-! # Tasks on one thread do not see each other

All tasks share the slot of their thread. A poll that finds the slot empty leaves it empty, so each
task is polled as if it were alone, whatever the others did before. What a schedule makes of a task
is therefore what some number of polls makes of it alone, and a poll only adds results.
-/

namespace RentalGuard

/-! ## One poll -/

namespace Polled

/-- A property of the slot that holds after the work and is kept by the rest holds at the end. -/
theorem ambient_follow {P : Option TenantContext → Prop} {rest : List Work}
    {next : World → Polled} {p : Polled} (hp : P p.world.ambient)
    (hnext : ∀ w, P w.ambient → P (next w).world.ambient) :
    P (p.follow rest next).world.ambient := by
  obtain ⟨w, answers, stop⟩ := p
  cases stop with
  | finished => exact hnext w hp
  | paused inner => exact hp
  | panicked message => exact hp

end Polled

theorem Work.ambient_run_outside (work : Work) {w : World} (h : w.ambient = none) :
    (work.run w).world.ambient = none := by
  cases work with
  | operation op =>
    unfold Work.run
    rw [op.run_outside h]
    exact h
  | pause | panic | scope => unfold Work.run; exact h

theorem ambient_runWork_outside (works : List Work) {w : World} (h : w.ambient = none) :
    (runWork works w).world.ambient = none := by
  induction works generalizing w with
  | nil => exact h
  | cons work rest ih =>
    exact Polled.ambient_follow (P := (· = none)) (work.ambient_run_outside h) fun w hw => ih hw

namespace Future

theorem ambient_poll_outside (future : Future) {w : World} (h : w.ambient = none) :
    (future.poll w).world.ambient = none := by
  induction future generalizing w with
  | code rest => exact ambient_runWork_outside rest h
  | block held inner => exact h
  | followed inner rest ih =>
    exact Polled.ambient_follow (P := (· = none)) (ih h) fun w hw => ambient_runWork_outside rest hw

theorem ambient_drop (future : Future) (w : World) : (future.drop w).ambient = w.ambient := by
  induction future generalizing w with
  | code rest => rfl
  | block held inner => rfl
  | followed inner rest ih => exact ih w

end Future

namespace Task

theorem poll_outside (task : Task) : (task.poll none).1 = none := by
  obtain ⟨phase, journal, results⟩ := task
  cases phase with
  | running future => exact future.ambient_poll_outside rfl
  | finished | panicked | dropped => rfl

theorem drop_slot (slot : Option TenantContext) (task : Task) : (task.drop slot).1 = slot := by
  obtain ⟨phase, journal, results⟩ := task
  cases phase with
  | running future => exact future.ambient_drop _
  | finished | panicked | dropped => rfl

/-- A poll only adds results. -/
theorem results_poll (slot : Option TenantContext) (task : Task) :
    task.results <+: (task.poll slot).2.results := by
  obtain ⟨phase, journal, results⟩ := task
  cases phase with
  | running future => exact List.prefix_append ..
  | finished | panicked | dropped => exact List.prefix_rfl

theorem results_drop (slot : Option TenantContext) (task : Task) :
    (task.drop slot).2.results = task.results := by
  obtain ⟨phase, journal, results⟩ := task
  cases phase <;> rfl

theorem poll_of_not_running (slot : Option TenantContext) {task : Task}
    (h : task.phase.isRunning = false) : (task.poll slot).2 = task := by
  obtain ⟨phase, journal, results⟩ := task
  cases phase with
  | running future => cases h
  | finished | panicked | dropped => rfl

theorem drop_of_not_running (slot : Option TenantContext) {task : Task}
    (h : task.phase.isRunning = false) : (task.drop slot).2 = task := by
  obtain ⟨phase, journal, results⟩ := task
  cases phase with
  | running future => cases h
  | finished | panicked | dropped => rfl

/-- Only a task that still runs can be thrown away. -/
theorem drop_cases (slot : Option TenantContext) (task : Task) :
    (task.drop slot).2.phase = .dropped ∨
      task.phase.isRunning = false ∧ (task.drop slot).2 = task := by
  obtain ⟨phase, journal, results⟩ := task
  cases phase with
  | running future => exact .inl rfl
  | finished | panicked | dropped => exact .inr ⟨rfl, rfl⟩

theorem drop_not_running (slot : Option TenantContext) (task : Task) :
    (task.drop slot).2.phase.isRunning = false := by
  rcases task.drop_cases slot with h | ⟨h, heq⟩
  · rw [h]
    rfl
  · rw [heq, h]

/-! ## Polls of a task that is alone -/

/-- The task after so many polls, each of which finds the slot empty. -/
def polled (task : Task) : Nat → Task
  | 0 => task
  | n + 1 => ((task.polled n).poll none).2

theorem results_polled_add (task : Task) (m n : Nat) :
    (task.polled m).results <+: (task.polled (m + n)).results := by
  induction n with
  | zero => exact List.prefix_rfl
  | succ n ih => exact ih.trans (results_poll none (task.polled (m + n)))

theorem polled_add_of_not_running {task : Task} {m : Nat}
    (h : (task.polled m).phase.isRunning = false) (n : Nat) :
    task.polled (m + n) = task.polled m := by
  induction n with
  | zero => rfl
  | succ n ih =>
    show ((task.polled (m + n)).poll none).2 = task.polled m
    rw [ih, poll_of_not_running none h]

theorem polled_eq_of_not_running {task : Task} {m n : Nat}
    (hm : (task.polled m).phase.isRunning = false)
    (hn : (task.polled n).phase.isRunning = false) : task.polled n = task.polled m := by
  rcases Nat.le_total n m with hle | hle
  · obtain ⟨k, rfl⟩ := Nat.exists_eq_add_of_le hle
    exact (polled_add_of_not_running hn k).symm
  · obtain ⟨k, rfl⟩ := Nat.exists_eq_add_of_le hle
    exact polled_add_of_not_running hm k

/-- The results after some polls begin the results of a run to the end. -/
theorem results_polled_of_not_running {task : Task} {m : Nat}
    (h : (task.polled m).phase.isRunning = false) (n : Nat) :
    (task.polled n).results <+: (task.polled m).results := by
  rcases Nat.le_total n m with hle | hle
  · obtain ⟨k, rfl⟩ := Nat.exists_eq_add_of_le hle
    exact task.results_polled_add n k
  · obtain ⟨k, rfl⟩ := Nat.exists_eq_add_of_le hle
    have heq := congrArg results (polled_add_of_not_running h k)
    exact heq ▸ List.prefix_rfl

end Task

/-! ## Work ends

A poll that pauses has used up a pause. -/

theorem Polled.pauses_follow {rest : List Work} {next : World → Polled} {p : Polled} {n : Nat}
    {future : Future} (hp : ∀ inner, p.stop = .paused inner → inner.pauses < n)
    (hnext : ∀ w future, (next w).stop = .paused future → future.pauses < pausesIn rest)
    (h : (p.follow rest next).stop = .paused future) : future.pauses < n + pausesIn rest := by
  obtain ⟨w, answers, stop⟩ := p
  cases stop with
  | finished => exact Nat.lt_of_lt_of_le (hnext w future h) (Nat.le_add_left ..)
  | paused inner =>
    have hinner := hp inner rfl
    cases h
    exact Nat.add_lt_add_right hinner _
  | panicked message => cases h

theorem Polled.pauses_leave {before : Option TenantContext} {p : Polled} {n : Nat}
    {future : Future} (hp : ∀ inner, p.stop = .paused inner → inner.pauses < n)
    (h : (p.leave before).stop = .paused future) : future.pauses < n := by
  obtain ⟨w, answers, stop⟩ := p
  cases stop with
  | finished => cases h
  | paused inner =>
    cases h
    exact hp inner rfl
  | panicked message => cases h

mutual

theorem Work.pauses_run (work : Work) (w : World) {future : Future}
    (h : (work.run w).stop = .paused future) : future.pauses < work.pauses := by
  cases work with
  | operation op => unfold Work.run at h; cases h
  | pause =>
    unfold Work.run at h
    cases h
    exact Nat.zero_lt_one
  | panic message => unfold Work.run at h; cases h
  | scope ctx body =>
    unfold Work.run at h
    unfold Work.pauses
    exact Polled.pauses_leave (fun inner hinner => pauses_runWork body _ hinner) h

theorem pauses_runWork (works : List Work) (w : World) {future : Future}
    (h : (runWork works w).stop = .paused future) : future.pauses < pausesIn works := by
  cases works with
  | nil => unfold runWork at h; cases h
  | cons work rest =>
    unfold runWork at h
    unfold pausesIn
    exact Polled.pauses_follow (fun inner hinner => work.pauses_run w hinner)
      (fun w future hnext => pauses_runWork rest w hnext) h

end

theorem Future.pauses_poll (future : Future) (w : World) {rest : Future}
    (h : (future.poll w).stop = .paused rest) : rest.pauses < future.pauses := by
  induction future generalizing w rest with
  | code works => exact pauses_runWork works w h
  | block held inner ih => exact Polled.pauses_leave (fun inner hinner => ih _ hinner) h
  | followed inner works ih =>
    exact Polled.pauses_follow (fun inner hinner => ih w hinner)
      (fun w future hnext => pauses_runWork works w hnext) h

namespace Task

theorem pauses_poll (slot : Option TenantContext) (task : Task) {rest : Future}
    (h : (task.poll slot).2.phase = .running rest) :
    ∃ future, task.phase = .running future ∧ rest.pauses < future.pauses := by
  obtain ⟨phase, journal, results⟩ := task
  cases phase with
  | running future =>
    -- only a poll that paused leaves the task running
    refine ⟨future, rfl, future.pauses_poll (journal.under slot) ?_⟩
    simp only [poll] at h
    cases hstop : (future.poll (journal.under slot)).stop with
    | finished => rw [hstop] at h; cases h
    | paused inner => rw [hstop] at h; cases h; rfl
    | panicked message => rw [hstop] at h; cases h
  | finished | panicked | dropped => cases h

theorem pauses_polled (program : List Work) (n : Nat) {future : Future}
    (h : ((start program).polled n).phase = .running future) :
    future.pauses + n ≤ pausesIn program := by
  induction n generalizing future with
  | zero =>
    cases h
    exact Nat.le_refl _
  | succ n ih =>
    obtain ⟨before, hbefore, hlt⟩ := pauses_poll none _ h
    have := ih hbefore
    omega

theorem polled_ends (program : List Work) :
    ((start program).polled (pausesIn program + 1)).phase.isRunning = false := by
  cases hphase : ((start program).polled (pausesIn program + 1)).phase with
  | running future =>
    have := pauses_polled program _ hphase
    omega
  | finished | panicked | dropped => rfl

end Task

/-! ## Any schedule -/

theorem Thread.run_polls (program : List Work) (n : Nat) :
    (Thread.start fun _ : Unit => program).run (List.replicate n (.poll ())) =
      ⟨none, fun _ => (Task.start program).polled n⟩ := by
  induction n with
  | zero => rfl
  | succ n ih =>
    unfold Thread.run at ih ⊢
    rw [List.replicate_succ', List.foldl_append, ih]
    show Thread.mk _ _ = _
    rw [Task.poll_outside]
    rfl

namespace Task

theorem alone_eq_polled (program : List Work) :
    alone program = (start program).polled (pausesIn program + 1) := by
  unfold alone
  rw [Thread.run_polls]

theorem alone_ends (program : List Work) : (alone program).phase.isRunning = false := by
  rw [alone_eq_polled]
  exact polled_ends program

/-- The task is what a number of polls makes of the program alone, or that thrown away. -/
def Follows (program : List Work) (task : Task) : Prop :=
  ∃ n, task = (start program).polled n ∨ task = (((start program).polled n).drop none).2

namespace Follows

variable {program : List Work} {task : Task}

theorem poll (h : task.Follows program) : (task.poll none).2.Follows program := by
  obtain ⟨n, rfl | rfl⟩ := h
  · exact ⟨n + 1, .inl rfl⟩
  · exact ⟨n, .inr (poll_of_not_running none (drop_not_running none _))⟩

theorem drop (h : task.Follows program) : (task.drop none).2.Follows program := by
  obtain ⟨n, rfl | rfl⟩ := h
  · exact ⟨n, .inr rfl⟩
  · exact ⟨n, .inr (drop_of_not_running none (drop_not_running none _))⟩

theorem results (h : task.Follows program) : task.results <+: (alone program).results := by
  have hends := polled_ends program
  rw [alone_eq_polled]
  obtain ⟨n, rfl | rfl⟩ := h
  · exact results_polled_of_not_running hends n
  · rw [results_drop]
    exact results_polled_of_not_running hends n

theorem ended (h : task.Follows program) :
    task.phase.isRunning ∨ task.phase = .dropped ∨ task = alone program := by
  have hends := polled_ends program
  rw [alone_eq_polled]
  obtain ⟨n, rfl | rfl⟩ := h
  · cases hrunning : ((start program).polled n).phase.isRunning with
    | true => exact .inl rfl
    | false => exact .inr (.inr (polled_eq_of_not_running hends hrunning))
  · rcases ((start program).polled n).drop_cases none with hdropped | ⟨hrunning, heq⟩
    · exact .inr (.inl hdropped)
    · rw [heq]
      exact .inr (.inr (polled_eq_of_not_running hends hrunning))

end Follows

end Task

namespace Thread

variable {Name : Type}

/-- The slot is empty, and no task has been touched by another. -/
structure Apart (programs : Name → List Work) (thread : Thread Name) : Prop where
  empty : thread.ambient = none
  follows : ∀ name, (thread.tasks name).Follows (programs name)

theorem apart_start (programs : Name → List Work) : Apart programs (start programs) :=
  ⟨rfl, fun _ => ⟨0, .inl rfl⟩⟩

variable [DecidableEq Name] {programs : Name → List Work} {thread : Thread Name}

theorem Apart.after (h : Apart programs thread) (name : Name) {ran : Option TenantContext × Task}
    (hslot : ran.1 = none) (htask : ran.2.Follows (programs name)) :
    Apart programs (thread.after name ran) := by
  refine ⟨hslot, fun other => ?_⟩
  show (if other = name then ran.2 else thread.tasks other).Follows (programs other)
  by_cases hname : other = name
  · rw [if_pos hname, hname]
    exact htask
  · rw [if_neg hname]
    exact h.follows other

theorem Apart.step (h : Apart programs thread) (turn : Turn Name) :
    Apart programs (thread.step turn) := by
  unfold Thread.step
  rw [h.empty]
  cases turn with
  | poll name => exact h.after name (Task.poll_outside _) (h.follows name).poll
  | drop name => exact h.after name (Task.drop_slot none _) (h.follows name).drop

/-- By induction on the turns. Since the slot is empty again after each of them, the next one finds
what it would find alone. -/
theorem Apart.run (h : Apart programs thread) (turns : List (Turn Name)) :
    Apart programs (thread.run turns) := by
  induction turns generalizing thread with
  | nil => exact h
  | cons turn rest ih => exact ih (h.step turn)

/-- Whatever the order in which the tasks of a thread are polled and dropped, and wherever they
pause or panic, the slot of the thread is empty after each turn, and every task has given the
first of the answers that it gives when it runs alone to its end. A task that is not dropped
ends as it does alone. -/
theorem tasks_are_isolated (programs : Name → List Work) (turns : List (Turn Name)) :
    ((start programs).run turns).ambient = none ∧
    ∀ name,
      let task := ((start programs).run turns).tasks name
      let alone := Task.alone (programs name)
      alone.phase.isRunning = false ∧ task.results <+: alone.results ∧
        (task.phase.isRunning ∨ task.phase = .dropped ∨ task = alone) := by
  have h := (apart_start programs).run turns
  refine ⟨h.empty, ?_⟩
  intro name task alone
  exact ⟨Task.alone_ends _, (h.follows name).results, (h.follows name).ended⟩

end Thread

end RentalGuard
