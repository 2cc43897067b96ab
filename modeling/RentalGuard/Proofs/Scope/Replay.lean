import RentalGuard.Scope.Trace

/-! # A run is its trace, heard of

What a program does is settled by its trace alone. The run adds that the events of the trace reach
the audit and its entries reach the log, behind those that are already there. Therefore neither the
audit nor the log can change an answer or a context, and both only grow.
-/

namespace RentalGuard

variable {α β : Type}

/-! ## Events and entries in order -/

namespace Auditing

variable (a : Auditing)

@[simp] theorem length_events (number : Nat) (denials : List (Caller × Denial)) :
    (a.events number denials).length = denials.length := by
  simp [events]

/-- What is read off events apart from their identifiers and times is read off the denials. -/
theorem map_events {f : AuditEvent → β} {g : Caller × Denial → β}
    (h : ∀ (id : EventId) (now : Instant) (caller : Caller) (denial : Denial),
      f (.denied id now denial.eventType caller.actor caller.resource (some denial.metadata)) =
        g (caller, denial))
    (number : Nat) (denials : List (Caller × Denial)) :
    (a.events number denials).map f = denials.map g := by
  induction denials generalizing number with
  | nil => rfl
  | cons first rest ih =>
    have hrest := ih (number + 1)
    unfold events at hrest ⊢
    rw [List.zipIdx_cons, List.map_cons, List.map_cons, hrest, h, List.map_cons]

theorem events_append (number : Nat) (first second : List (Caller × Denial)) :
    a.events number (first ++ second) =
      a.events number first ++ a.events (number + first.length) second := by
  simp [events, List.zipIdx_append]

theorem failures_add (number first second : Nat) :
    a.failures number (first + second) =
      a.failures number first ++ a.failures (number + first) second := by
  unfold failures
  rw [← List.range'_append_1, List.filterMap_append]

theorem entries_append (number : Nat) (first second : List Happening) :
    a.entries number (first ++ second) =
      a.entries number first ++
        a.entries (number + (first.flatMap Happening.denials).length) second := by
  induction first generalizing number with
  | nil => rfl
  | cons h rest ih =>
    simp only [List.cons_append, entries, ih, List.append_assoc, List.flatMap_cons,
      List.length_append, Nat.add_assoc]

end Auditing

/-- One denial is one event, and one entry if it cannot be delivered. -/
theorem World.record_eq (a : Auditing) (caller : Caller) (w : World) (denial : Denial) :
    w.record a caller denial =
      ⟨w.ambient, w.snapshots, w.events ++ a.events w.events.length [(caller, denial)],
        w.logs ++ a.failures w.events.length 1⟩ := by
  unfold World.record
  simp only [Auditing.events, Auditing.failures, List.range'_one]
  cases h : a.failure w.events.length <;> simp [h, World.log, AuditEvent.denied]

theorem World.foldl_record (a : Auditing) (caller : Caller) (denials : List Denial) (w : World) :
    denials.foldl (record a caller) w =
      ⟨w.ambient, w.snapshots,
        w.events ++ a.events w.events.length (denials.map fun denial => (caller, denial)),
        w.logs ++ a.failures w.events.length denials.length⟩ := by
  induction denials generalizing w with
  | nil => simp [Auditing.events, Auditing.failures]
  | cons denial rest ih =>
    have hevents := a.events_append w.events.length [(caller, denial)]
      (rest.map fun denial => (caller, denial))
    rw [List.foldl_cons, ih, record_eq]
    simp only [List.map_cons, List.length_cons, Nat.add_comm rest.length 1, a.failures_add,
      List.length_append, a.length_events, List.length_nil, List.append_assoc] at hevents ⊢
    rw [← hevents]
    rfl

/-! ## Single steps -/

theorem GuardCall.run_eq (a : Auditing) (caller : Caller) (call : GuardCall) (w : World) :
    call.run a caller w =
      ((call.denials w.ambient).foldl (World.record a caller) w, call.answer w.ambient) := by
  cases call <;> rfl

theorem GuardCall.run_eq_replay (a : Auditing) (caller : Caller) (call : GuardCall) (w : World) :
    ((call.run a caller w).1, Except.ok (call.run a caller w).2) =
      ((Step.guarded caller call).trace w.ambient w.snapshots).replay a w := by
  rw [call.run_eq, World.foldl_record]
  unfold Step.trace Traced.replay Traced.denials
  simp [Auditing.entries, Auditing.entriesOf, Happening.denials]

theorem AmbientOp.run_eq_replay (a : Auditing) (op : AmbientOp) (w : World) :
    ((op.run w).1, Except.ok (op.run w).2) = (op.trace w.ambient w.snapshots).replay a w := by
  obtain ⟨ambient, snapshots, events, logs⟩ := w
  unfold Traced.replay Traced.denials
  cases ambient <;> cases op <;>
    simp [AmbientOp.trace, AmbientOp.run, AmbientOp.look, AmbientOp.change, Auditing.events,
      Auditing.entries]

/-! ## Blocks -/

namespace Traced

/-- Going on after a result replays one trace after the other. -/
theorem replay_andThen {next : α → World → World × Except Panic β} (a : Auditing)
    {trace : α → Option TenantContext → Snapshots → Traced β}
    (h : ∀ value w, next value w = (trace value w.ambient w.snapshots).replay a w)
    (first : Traced α) (w : World) :
    proceed next (first.replay a w) = (first.andThen trace).replay a w := by
  obtain ⟨own, snapshots, happenings, result⟩ := first
  cases result with
  | error p => rfl
  | ok value =>
    simp only [replay, proceed, andThen, h, denials, List.flatMap_append, a.events_append,
      a.entries_append, List.length_append, a.length_events, List.append_assoc]

theorem replay_after_opened (a : Auditing) (claims : Option TenantClaims) (t : Traced α)
    (w : World) :
    (t.after (.opened claims)).replay a w = t.replay a (w.log (Request.opened claims)) := by
  simp [replay, after, denials, Happening.denials, Auditing.entries, Auditing.entriesOf,
    World.log]

theorem replay_quiet (a : Auditing) (own : Option TenantContext) (snapshots : Snapshots)
    (result : Except Panic α) (w : World) :
    (Traced.mk own snapshots [] result).replay a w =
      (⟨own, snapshots, w.events, w.logs⟩, result) := by
  simp [replay, denials, Auditing.events, Auditing.entries]

theorem replay_closed (a : Auditing) (own : Option TenantContext) (snapshots : Snapshots)
    (result : Except Panic α) (w : World) :
    (Traced.mk own snapshots [.closed] result).replay a w =
      (⟨own, snapshots, w.events, w.logs ++ [Request.closed]⟩, result) := by
  simp [replay, denials, Happening.denials, Auditing.events, Auditing.entries, Auditing.entriesOf]

end Traced

theorem World.within_replay {body : World → World × Except Panic α} (a : Auditing)
    {trace : Option TenantContext → Snapshots → Traced α}
    (h : ∀ w, body w = (trace w.ambient w.snapshots).replay a w) (slot : Option TenantContext)
    (w : World) :
    w.within slot body = ((trace slot w.snapshots).back w.ambient id).replay a w := by
  unfold World.within
  rw [h]
  rfl

theorem passing_replay (f : List Answer → Answer) (a : Auditing) (w : World)
    (own : Option TenantContext) (inner : Traced (List Answer)) :
    passing f ((inner.back own id).replay a w) = (inner.back own (.map f)).replay a w := rfl

theorem catching_replay (a : Auditing) (w : World) (own : Option TenantContext)
    (inner : Traced (List Answer)) :
    catching ((inner.back own id).replay a w) = (inner.back own caughtResult).replay a w := by
  obtain ⟨_, _, _, result⟩ := inner
  cases result <;> rfl

mutual

theorem Step.run_eq_replay (a : Auditing) (step : Step) (w : World) :
    step.run a w = (step.trace w.ambient w.snapshots).replay a w := by
  cases step with
  | operation op => unfold Step.run Step.trace; exact op.run_eq_replay a w
  | guarded caller call => unfold Step.run; exact call.run_eq_replay a caller w
  | refused e => unfold Step.run Step.trace; rw [Traced.replay_quiet]
  | panic message => unfold Step.run Step.trace; rw [Traced.replay_quiet]
  | caught body =>
    unfold Step.run Step.trace
    rw [runSteps_eq_replay a body w]
    exact catching_replay a w _ _
  | scope ctx body =>
    unfold Step.run Step.trace
    rw [World.within_replay a (runSteps_eq_replay a body), passing_replay]
  | caughtScope ctx body =>
    unfold Step.run Step.trace
    rw [World.within_replay a (runSteps_eq_replay a body), catching_replay]
  | spawn body =>
    unfold Step.run Step.trace
    rw [World.within_replay a (runSteps_eq_replay a body), catching_replay]
  | inherit meanwhile child =>
    unfold Step.run Step.trace
    obtain ⟨own, snapshots, events, logs⟩ := w
    cases own with
    | none => simp only [Traced.replay_quiet]
    | some ctx =>
      simp only
      rw [runSteps_eq_replay a meanwhile]
      refine Traced.replay_andThen a (fun before w => ?_) _ _
      rw [World.within_replay a (runSteps_eq_replay a child), passing_replay]
  | cancelledScope ctx body =>
    unfold Step.run Step.trace
    rw [World.within_replay a (runFirst_eq_replay a body), passing_replay]
  | interleave contexts turns =>
    unfold Step.run Step.trace
    rw [runTurns_eq_replay a turns (contexts.map some) w]
    exact Traced.replay_andThen a (fun answers w => (Traced.replay_quiet a ..).symm) _ w
  | request claims body =>
    unfold Step.run Step.trace
    rw [World.within_replay a (runSteps_eq_replay a body)]
    exact (congrArg (proceed _) (Traced.replay_after_opened a claims _ w).symm).trans
      (Traced.replay_andThen a (fun answers w => (Traced.replay_closed a ..).symm) _ w)

theorem runSteps_eq_replay (a : Auditing) (steps : List Step) (w : World) :
    runSteps a steps w = (traceSteps steps w.ambient w.snapshots).replay a w := by
  cases steps with
  | nil => unfold runSteps traceSteps; rw [Traced.replay_quiet]
  | cons step rest =>
    unfold runSteps traceSteps
    rw [step.run_eq_replay a w]
    refine Traced.replay_andThen a (fun answer w => ?_) _ w
    rw [runSteps_eq_replay a rest w]
    exact Traced.replay_andThen a (fun answers w => (Traced.replay_quiet a ..).symm) _ w

theorem runFirst_eq_replay (a : Auditing) (steps : List Step) (w : World) :
    runFirst a steps w = (traceFirst steps w.ambient w.snapshots).replay a w := by
  cases steps with
  | nil => unfold runFirst traceFirst; rw [Traced.replay_quiet]
  | cons step rest =>
    unfold runFirst traceFirst
    rw [step.run_eq_replay a w]
    exact Traced.replay_andThen a (fun answer w => (Traced.replay_quiet a ..).symm) _ w

theorem runTurns_eq_replay (a : Auditing) (turns : List (Nat × Step))
    (held : List (Option TenantContext)) (w : World) :
    runTurns a turns held w = (traceTurns turns held w.ambient w.snapshots).replay a w := by
  cases turns with
  | nil => unfold runTurns traceTurns; rw [Traced.replay_quiet]
  | cons turn rest =>
    obtain ⟨branch, step⟩ := turn
    unfold runTurns traceTurns
    rw [step.run_eq_replay a]
    -- the block of this turn leaves in the slot what it goes on with at its next turn
    refine Traced.replay_andThen a (fun answer w => ?_) (Traced.back w.ambient id _) w
    rw [runTurns_eq_replay a rest _ w]
    exact Traced.replay_andThen a (fun answers w => (Traced.replay_quiet a ..).symm) _ w

end

end RentalGuard
