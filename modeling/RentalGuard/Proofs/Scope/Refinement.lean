import RentalGuard.Scope.Explicit

/-! # One slot does what handing the context on would do

A program with the slot is compared with the interpreter that has no slot. Every step, with
whatever is in the slot when it begins, answers what the step answers that was handed this context,
and it leaves in the slot what the other keeps in its hand. Both results are read along the same
tree, so the proof is one case for each kind of step.
-/

namespace RentalGuard

variable {α β : Type}

/-- The outcome as the slot shows it. -/
def Outcome.inSlot (o : Outcome α) : World × Except Panic α := (o.journal.under o.own, o.result)

@[simp] theorem World.under_journal (w : World) : w.journal.under w.ambient = w := rfl

@[simp] theorem Journal.ambient_under (own : Option TenantContext) (j : Journal) :
    (j.under own).ambient = own := rfl

/-! ## Single operations -/

theorem AmbientOp.run_eq_explicit (op : AmbientOp) (own : Option TenantContext) (j : Journal) :
    ((op.run (j.under own)).1, Except.ok (op.run (j.under own)).2) =
      (op.explicit own j).inSlot := by
  cases own with
  | none => cases op <;> rfl
  | some ctx => cases op <;> rfl

/-- A guard leaves the slot alone. -/
theorem World.ambient_record (a : Auditing) (caller : Caller) (w : World) (denial : Denial) :
    (w.record a caller denial).ambient = w.ambient := by
  unfold World.record
  cases h : a.failure w.events.length with
  | none => simp only [h]
  | some e => simp only [h]; rfl

theorem World.ambient_settle (a : Auditing) (caller : Caller) (verdict : Verdict α) (w : World) :
    (w.settle a caller verdict).1.ambient = w.ambient := by
  show (verdict.denials.foldl (record a caller) w).ambient = w.ambient
  induction verdict.denials generalizing w with
  | nil => rfl
  | cons denial rest ih => rw [List.foldl_cons, ih, ambient_record]

theorem GuardCall.ambient_run (a : Auditing) (caller : Caller) (call : GuardCall) (w : World) :
    (call.run a caller w).1.ambient = w.ambient := by
  cases call <;> exact World.ambient_settle ..

theorem GuardCall.run_eq_explicit (a : Auditing) (caller : Caller) (call : GuardCall)
    (own : Option TenantContext) (j : Journal) :
    ((call.run a caller (j.under own)).1, Except.ok (call.run a caller (j.under own)).2) =
      (call.explicit a caller own j).inSlot := by
  have hslot : (call.run a caller (j.under own)).1.ambient = own := call.ambient_run ..
  unfold GuardCall.explicit Outcome.inSlot
  cases hrun : call.run a caller (j.under own) with
  | mk w answer =>
    rw [hrun] at hslot
    subst hslot
    rfl

/-! ## Blocks -/

/-- A block that is handed its context leaves the slot as it was. -/
theorem within_inSlot {body : World → World × Except Panic α}
    {explicit : Option TenantContext → Journal → Outcome α}
    (h : ∀ own j, body (j.under own) = (explicit own j).inSlot)
    (slot own : Option TenantContext) (j : Journal) :
    (j.under own).within slot body = ((explicit slot j).back own id).inSlot := by
  have hbody : body { j.under own with ambient := slot } = (explicit slot j).inSlot := h slot j
  unfold World.within
  rw [hbody]
  rfl

theorem passing_inSlot (f : List Answer → Answer) (own : Option TenantContext)
    (inner : Outcome (List Answer)) :
    passing f (inner.back own id).inSlot = (inner.back own (.map f)).inSlot := rfl

theorem catching_inSlot (o : Outcome (List Answer)) :
    catching o.inSlot = (Outcome.inSlot ⟨o.own, o.journal, caughtResult o.result⟩) := by
  obtain ⟨own, j, result⟩ := o
  cases result <;> rfl

/-- Going on after a result is the same with the slot and without it. -/
theorem proceed_inSlot {next : α → World → World × Except Panic β}
    {explicit : α → Option TenantContext → Journal → Outcome β}
    (h : ∀ value own j, next value (j.under own) = (explicit value own j).inSlot)
    (first : Outcome α) : proceed next first.inSlot = (first.andThen explicit).inSlot := by
  obtain ⟨own, j, result⟩ := first
  cases result with
  | error p => rfl
  | ok value => exact h value own j

mutual

theorem Step.run_eq_explicit (a : Auditing) (step : Step) (own : Option TenantContext)
    (j : Journal) : step.run a (j.under own) = (step.explicit a own j).inSlot := by
  cases step with
  | operation op => exact op.run_eq_explicit own j
  | guarded caller call => exact call.run_eq_explicit a caller own j
  | refused e => rfl
  | panic message => rfl
  | caught body =>
    unfold Step.run Step.explicit
    rw [runSteps_eq_explicit a body own j, catching_inSlot]
  | scope ctx body =>
    unfold Step.run Step.explicit
    rw [within_inSlot (runSteps_eq_explicit a body) (some ctx) own j, passing_inSlot]
  | caughtScope ctx body =>
    unfold Step.run Step.explicit
    rw [within_inSlot (runSteps_eq_explicit a body) (some ctx) own j, catching_inSlot]
    rfl
  | spawn body =>
    unfold Step.run Step.explicit
    rw [within_inSlot (runSteps_eq_explicit a body) none own j, catching_inSlot]
    rfl
  | inherit meanwhile child =>
    unfold Step.run Step.explicit
    cases own with
    | none => rfl
    | some ctx =>
      simp only [Journal.ambient_under]
      rw [runSteps_eq_explicit a meanwhile (some ctx) j]
      refine proceed_inSlot (fun before own j => ?_) _
      rw [within_inSlot (runSteps_eq_explicit a child) (some ctx) own j, passing_inSlot]
  | cancelledScope ctx body =>
    unfold Step.run Step.explicit
    rw [within_inSlot (runFirst_eq_explicit a body) (some ctx) own j, passing_inSlot]
  | interleave contexts turns =>
    unfold Step.run Step.explicit
    rw [runTurns_eq_explicit a turns (contexts.map some) own j]
    exact proceed_inSlot (fun answers own j => rfl) _
  | request claims body =>
    unfold Step.run Step.explicit
    have hopened : (j.under own).log (Request.opened claims) =
        (j.log (Request.opened claims)).under own := rfl
    rw [hopened, within_inSlot (runSteps_eq_explicit a body)]
    exact proceed_inSlot (fun answers own j => rfl) _

theorem runSteps_eq_explicit (a : Auditing) (steps : List Step) (own : Option TenantContext)
    (j : Journal) : runSteps a steps (j.under own) = (explicitSteps a steps own j).inSlot := by
  cases steps with
  | nil => rfl
  | cons step rest =>
    unfold runSteps explicitSteps
    rw [step.run_eq_explicit a own j]
    refine proceed_inSlot (fun answer own j => ?_) _
    rw [runSteps_eq_explicit a rest own j]
    exact proceed_inSlot (fun answers own j => rfl) _

theorem runFirst_eq_explicit (a : Auditing) (steps : List Step) (own : Option TenantContext)
    (j : Journal) : runFirst a steps (j.under own) = (explicitFirst a steps own j).inSlot := by
  cases steps with
  | nil => rfl
  | cons step rest =>
    unfold runFirst explicitFirst
    rw [step.run_eq_explicit a own j]
    exact proceed_inSlot (fun answer own j => rfl) _

theorem runTurns_eq_explicit (a : Auditing) (turns : List (Nat × Step))
    (held : List (Option TenantContext)) (own : Option TenantContext) (j : Journal) :
    runTurns a turns held (j.under own) = (explicitTurns a turns held own j).inSlot := by
  cases turns with
  | nil => rfl
  | cons turn rest =>
    obtain ⟨branch, step⟩ := turn
    unfold runTurns explicitTurns
    -- the block of this turn runs with its own context, the others keep theirs
    have hturn : step.run a { j.under own with ambient := held[branch]?.join } =
        (step.explicit a held[branch]?.join j).inSlot := step.run_eq_explicit a _ j
    rw [hturn]
    refine proceed_inSlot (fun answer own j => ?_) (Outcome.back own id _)
    rw [runTurns_eq_explicit a rest _ own j]
    exact proceed_inSlot (fun answers own j => rfl) _

end

/-! ## What stays in the slot

The slot holds what the other interpreter has in its hand, so that what is said of the hand holds
of the slot. -/

namespace Outcome

theorem own_andThen {first : Outcome α} {next : α → Option TenantContext → Journal → Outcome β}
    {P : Option TenantContext → Prop} (hfirst : P first.own)
    (hnext : ∀ value own j, P own → P (next value own j).own) : P (first.andThen next).own := by
  obtain ⟨own, j, result⟩ := first
  cases result with
  | error p => exact hfirst
  | ok value => exact hnext value own j hfirst

end Outcome

theorem own_explicitTurns (a : Auditing) (turns : List (Nat × Step))
    (held : List (Option TenantContext)) (own : Option TenantContext) (j : Journal) :
    (explicitTurns a turns held own j).own = own := by
  induction turns generalizing held j with
  | nil => unfold explicitTurns; rfl
  | cons turn rest ih =>
    obtain ⟨branch, step⟩ := turn
    unfold explicitTurns
    refine Outcome.own_andThen (P := (· = own)) rfl ?_
    intro answer now j h
    subst h
    exact Outcome.own_andThen (P := (· = now)) (ih _ j) fun _ _ _ h => h

/-- The code around a block goes on with the context that it had. -/
theorem Step.own_explicit_of_isBlock (a : Auditing) {block : Step} (h : block.isBlock)
    (own : Option TenantContext) (j : Journal) : (block.explicit a own j).own = own := by
  cases block with
  | scope | caughtScope | spawn | cancelledScope => unfold Step.explicit; rfl
  | interleave contexts turns =>
    unfold Step.explicit
    exact Outcome.own_andThen (P := (· = own)) (own_explicitTurns a turns _ own j)
      fun _ _ _ h => h
  | request claims body =>
    unfold Step.explicit
    exact Outcome.own_andThen (P := (· = own)) rfl fun _ _ _ h => h
  | operation | guarded | refused | panic | caught | inherit => cases h

theorem AmbientOp.isSome_own_explicit (op : AmbientOp) (own : Option TenantContext) (j : Journal) :
    (op.explicit own j).own.isSome = own.isSome := by
  cases own with
  | none => rfl
  | some ctx => cases op <;> rfl

mutual

/-- Steps take nobody out of a block and put nobody into one. -/
theorem Step.isSome_own_explicit (a : Auditing) (step : Step) (own : Option TenantContext)
    (j : Journal) : (step.explicit a own j).own.isSome = own.isSome := by
  cases step with
  | operation op => exact op.isSome_own_explicit own j
  | guarded | refused | panic => unfold Step.explicit; rfl
  | caught body => unfold Step.explicit; exact isSome_own_explicitSteps a body own j
  | inherit meanwhile child =>
    unfold Step.explicit
    cases own with
    | none => rfl
    | some ctx =>
      exact Outcome.own_andThen (P := (·.isSome = true))
        (isSome_own_explicitSteps a meanwhile (some ctx) j) fun _ _ _ h => h
  -- blocks give back what was there, whatever their steps do
  | scope | caughtScope | spawn | cancelledScope | interleave | request =>
    rw [Step.own_explicit_of_isBlock a rfl own j]

theorem isSome_own_explicitSteps (a : Auditing) (steps : List Step) (own : Option TenantContext)
    (j : Journal) : (explicitSteps a steps own j).own.isSome = own.isSome := by
  cases steps with
  | nil => unfold explicitSteps; rfl
  | cons step rest =>
    unfold explicitSteps
    refine Outcome.own_andThen (P := (·.isSome = own.isSome))
      (step.isSome_own_explicit a own j) ?_
    intro answer after j h
    have hrest := (isSome_own_explicitSteps a rest after j).trans h
    exact Outcome.own_andThen (P := (·.isSome = own.isSome)) hrest fun _ _ _ h => h

end

theorem Step.ambient_run_of_isBlock (a : Auditing) {block : Step} (h : block.isBlock) (w : World) :
    (block.run a w).1.ambient = w.ambient := by
  have hrun := block.run_eq_explicit a w.ambient w.journal
  rw [World.under_journal] at hrun
  rw [hrun]
  exact Step.own_explicit_of_isBlock a h ..

theorem ambient_runSteps_outside (a : Auditing) (steps : List Step) (j : Journal) :
    (runSteps a steps (j.under none)).1.ambient = none := by
  rw [runSteps_eq_explicit a steps none j]
  exact Option.not_isSome_iff_eq_none.mp (by simp [Outcome.inSlot, isSome_own_explicitSteps])

/-! ## Outside all blocks -/

theorem AmbientOp.run_outside (op : AmbientOp) {w : World} (h : w.ambient = none) :
    op.run w = (w, op.withoutContext w.journal) := by
  obtain ⟨ambient, snapshots, events, logs⟩ := w
  cases h
  cases op <;> rfl

/-- Operations outside all blocks are all refused, and nothing happens. -/
theorem runSteps_operations_outside (a : Auditing) (ops : List AmbientOp) {w : World}
    (h : w.ambient = none) :
    runSteps a (ops.map .operation) w = (w, .ok (ops.map (·.withoutContext w.journal))) := by
  induction ops with
  | nil => rfl
  | cons op rest ih =>
    simp only [List.map_cons, runSteps, Step.run, op.run_outside h, proceed, ih]

theorem Step.run_spawn_operations (a : Auditing) (ops : List AmbientOp) (w : World) :
    (Step.spawn (ops.map .operation)).run a w =
      (w, .ok (.steps (ops.map (·.withoutContext w.journal)))) := by
  unfold Step.run World.within
  rw [runSteps_operations_outside a ops rfl]
  rfl

/-- The slot stands for the context that blocks would hand on. Every step and every program, in
every world, answers and leaves behind what it does when each block is handed a context of its
own. A block that ends, by a panic too, gives back the context around it. Outside all blocks, and
in a task of its own, every operation is refused with nothing changed, whatever was run before;
and a program that starts there ends there. -/
theorem ambient_refines_explicit (a : Auditing) :
    (∀ (step : Step) (w : World),
      step.run a w = (step.explicit a w.ambient w.journal).inSlot) ∧
    (∀ (steps : List Step) (w : World),
      runSteps a steps w = (explicitSteps a steps w.ambient w.journal).inSlot) ∧
    (∀ (block : Step) (w : World), block.isBlock → (block.run a w).1.ambient = w.ambient) ∧
    (∀ (steps : List Step) (j : Journal) (op : AmbientOp),
      let w := (runSteps a steps (j.under none)).1
      op.run w = (w, op.withoutContext w.journal)) ∧
    (∀ (ops : List AmbientOp) (w : World),
      (Step.spawn (ops.map .operation)).run a w =
        (w, .ok (.steps (ops.map (·.withoutContext w.journal))))) ∧
    (∀ program : List Step, (runProgram a program).1.ambient = none) := by
  refine ⟨?steps, ?programs, ?blocks, ?outside, ?spawned, ?whole⟩
  case steps => exact fun step w => step.run_eq_explicit a w.ambient w.journal
  case programs => exact fun steps w => runSteps_eq_explicit a steps w.ambient w.journal
  case blocks => exact fun block w h => Step.ambient_run_of_isBlock a h w
  case outside =>
    intro steps j op w
    exact op.run_outside (ambient_runSteps_outside a steps j)
  case spawned => exact Step.run_spawn_operations a
  case whole => exact fun program => ambient_runSteps_outside a program World.initial.journal

/-- A panic leaves two blocks at once. The outer one catches it, and the code around goes on with
the context that it had. -/
theorem ambient_refines_explicit_after_panic :
    let a : Auditing := ⟨fun _ => ⟨0, 0, by decide, by decide⟩, EventId.ofNat, fun _ => none⟩
    let block := Step.caughtScope .empty
      [.operation (.setSuperAdmin true), .scope .empty [.operation .clear, .panic "out"]]
    let ctx := TenantContext.empty.setSuperAdmin true
    block.isBlock ∧
      (block.run a ⟨some ctx, [], [], []⟩).1.ambient = some ctx ∧
      block.run a ⟨some ctx, [], [], []⟩ = (⟨some ctx, [], [], []⟩, .ok (.panicked "out")) := by
  intro a block ctx
  have h := ambient_refines_explicit a
  exact ⟨rfl, h.2.2.1 block _ rfl, (h.1 block _).trans rfl⟩

end RentalGuard
