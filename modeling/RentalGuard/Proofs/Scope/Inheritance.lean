import RentalGuard.Proofs.Scope.Snapshots
import RentalGuard.Proofs.Scope.Uninterrupted
import RentalGuard.Scope.Inherit

/-! # Work keeps the context that it was handed

Work that is handed on brings a block of its own along. The block does not look at the slot in which
it begins, and the slot gets back what it held, so that neither side of the handover can see the
other. This holds of work that is run in one piece, and of each poll of work that pauses.
-/

namespace RentalGuard

variable {α : Type}

/-! ## In one piece -/

theorem inherit_of_outside (work : Deferred α) {w : World} (h : w.ambient = none) :
    inherit work w = .error .notInitialized := by
  unfold inherit World.current
  rw [h]
  rfl

theorem inherit_of_ambient (work : Deferred α) {w : World} {ctx : TenantContext}
    (h : w.ambient = some ctx) : inherit work w = .ok (inBlock ctx work) := by
  unfold inherit World.current
  rw [h]
  rfl

/-- A block that is run inside of other blocks and tasks does what it does without them. -/
theorem inside_inBlock (around : List (Option TenantContext)) (ctx : TenantContext)
    (work : Deferred α) (w : World) : inside around (inBlock ctx work) w = inBlock ctx work w := by
  induction around generalizing w with
  | nil => rfl
  | cons slot rest ih =>
    unfold inside World.within
    rw [ih]
    rfl

/-- A step that hands the context on runs the work in a task of its own. -/
theorem Step.run_inherit (a : Auditing) (meanwhile child : List Step) {w : World}
    {ctx : TenantContext} (h : w.ambient = some ctx) :
    (Step.inherit meanwhile child).run a w =
      proceed (fun before v =>
        passing (.inherited before) (inside [none] (inBlock ctx (runSteps a child)) v))
        (runSteps a meanwhile w) := by
  unfold Step.run
  rw [h]
  rfl

/-- The steps after the handover may change the context. The work that is handed on does not. -/
theorem Step.ambient_inherit (a : Auditing) (meanwhile child : List Step) {w : World}
    {ctx : TenantContext} (h : w.ambient = some ctx) :
    ((Step.inherit meanwhile child).run a w).1.ambient = (runSteps a meanwhile w).1.ambient := by
  rw [Step.run_inherit a meanwhile child h]
  obtain ⟨v, result⟩ := runSteps a meanwhile w
  cases result with
  | ok before =>
    show (passing _ (inside [none] (inBlock ctx (runSteps a child)) v)).1.ambient = v.ambient
    rw [inside_inBlock]
    rfl
  | error panic => rfl

/-! ## Poll by poll -/

namespace Task

/-- What is left of the task is a block, if anything is left. -/
def Enclosed (task : Task) : Prop :=
  ∀ future, task.phase = .running future → ∃ held inner, future = .block held inner

/-- What is in the slot has no part in a poll of a block, nor the poll in what is in the slot. -/
theorem Enclosed.poll {task : Task} (h : task.Enclosed) (slot : Option TenantContext) :
    (task.poll slot).1 = slot ∧ (task.poll slot).2 = (task.poll none).2 ∧
      (task.poll slot).2.Enclosed := by
  obtain ⟨phase, journal, results⟩ := task
  cases phase with
  | running future =>
    obtain ⟨held, inner, rfl⟩ := h future rfl
    refine ⟨rfl, rfl, ?_⟩
    intro rest hrest
    simp only [Task.poll, Future.poll, Polled.leave] at hrest
    revert hrest
    cases (inner.poll { journal.under slot with ambient := held }).stop with
    | finished => intro hrest; cases hrest
    | paused inner => intro hrest; cases hrest; exact ⟨_, _, rfl⟩
    | panicked message => intro hrest; cases hrest
  | finished | panicked | dropped => exact ⟨rfl, rfl, fun _ hrest => by cases hrest⟩

/-- By induction on the polls. Wherever they happen, they take the task on towards the same end. -/
theorem Enclosed.completes_pollsAt {task : Task} {whole : Polled} (h : task.Enclosed)
    (hwhole : task.Completes whole) (slots : List (Option TenantContext)) :
    (task.pollsAt slots).Enclosed ∧ (task.pollsAt slots).Completes whole := by
  induction slots generalizing task with
  | nil => exact ⟨h, hwhole⟩
  | cons slot rest ih =>
    obtain ⟨-, hsame, henclosed⟩ := h.poll slot
    have hnext : (task.poll slot).2.Completes whole := by
      rw [hsame]
      exact hwhole.poll
    exact ih henclosed hnext

theorem inherit_of_outside (program : List Work) {w : World} (h : w.ambient = none) :
    inherit program w = .error .notInitialized := by
  unfold inherit World.current
  rw [h]
  rfl

/-- What is handed on begins as the block that the same program would be with this context. -/
theorem inherit_of_ambient (program : List Work) {w : World} {ctx : TenantContext}
    (h : w.ambient = some ctx) : ∃ task, inherit program w = .ok task ∧ task.Enclosed ∧
      task.Completes ((Work.scope ctx program).finish .initial) := by
  refine ⟨⟨.running (.block (some ctx) (.code program)), World.initial.journal, []⟩, ?_, ?_, ?_⟩
  · unfold inherit World.current
    rw [h]
    rfl
  · intro future hfuture
    cases hfuture
    exact ⟨_, _, rfl⟩
  · unfold Work.finish
    exact ⟨rfl, rfl⟩

end Task

/-- Work that is handed on keeps the context of that moment. It can be run in any world, so at any
later time, and inside of any blocks and tasks. There it does what it does in a fresh block with this
context, and the code around it has its own context again. Its results are those that it has in such
a block at the moment when it is handed on, except that it reads the snapshots that have been taken
by then. A step that hands work on runs such work in a task of its own after the steps `meanwhile`,
and ends with the context that these steps have left.
Work that pauses goes on in the same way at each poll, wherever that happens. Outside all blocks
nothing is handed on, and no part of the work is run. -/
theorem inherited_work_keeps_its_context (a : Auditing) (meanwhile child : List Step)
    (program : List Work) (w : World) :
    (w.ambient = none →
      inherit (runSteps a child) w = .error .notInitialized ∧
      Task.inherit program w = .error .notInitialized ∧
      (Step.inherit meanwhile child).run a w = (w, .ok (.noScope .notInitialized))) ∧
    ∀ ctx, w.ambient = some ctx →
      (∃ work, inherit (runSteps a child) w = .ok work ∧
        (∀ (around : List (Option TenantContext)) (v : World),
          let fresh := runSteps a child { v with ambient := some ctx }
          inside around work v = ({ fresh.1 with ambient := v.ambient }, fresh.2) ∧
          fresh.2 = (runSteps a child { w with snapshots := v.snapshots }).2 ∧
          (Snapshots.AgreeOn (readsIn child) v.snapshots w.snapshots →
            fresh.2 = (runSteps a child w).2)) ∧
        (Step.inherit meanwhile child).run a w =
          proceed (fun before v => passing (.inherited before) (inside [none] work v))
            (runSteps a meanwhile w)) ∧
      ((Step.inherit meanwhile child).run a w).1.ambient = (runSteps a meanwhile w).1.ambient ∧
      ∃ task, Task.inherit program w = .ok task ∧
        ∀ slots, (task.pollsAt slots).Completes ((Work.scope ctx program).finish .initial) ∧
          ∀ slot, ((task.pollsAt slots).poll slot).1 = slot := by
  refine ⟨?outside, fun ctx hctx => ⟨?pieces, Step.ambient_inherit a meanwhile child hctx, ?polls⟩⟩
  case outside =>
    intro hnone
    refine ⟨inherit_of_outside _ hnone, Task.inherit_of_outside program hnone, ?_⟩
    unfold Step.run
    rw [hnone]
  case pieces =>
    refine ⟨_, inherit_of_ambient _ hctx, ?_, Step.run_inherit a meanwhile child hctx⟩
    intro around v fresh
    refine ⟨inside_inBlock around ctx _ v, ?_, fun hsnapshots => ?_⟩
    · exact result_runSteps_congr a child hctx.symm fun _ _ => rfl
    · exact result_runSteps_congr a child hctx.symm hsnapshots
  case polls =>
    obtain ⟨task, htask, henclosed, hwhole⟩ := Task.inherit_of_ambient program hctx
    refine ⟨task, htask, fun slots => ?_⟩
    obtain ⟨hlater, hcompletes⟩ := henclosed.completes_pollsAt hwhole slots
    exact ⟨hcompletes, fun slot => (hlater.poll slot).1⟩

/-- The context is cleared after it has been handed on. The work, in a task and there in a block
with an empty context, still finds what was handed on, and clears only its own copy. -/
theorem inherited_work_keeps_its_context_when_cleared :
    let a : Auditing := ⟨fun _ => ⟨0, 0, by decide, by decide⟩, EventId.ofNat, fun _ => none⟩
    let ctx := TenantContext.empty.setSuperAdmin true
    let w : World := ⟨some ctx, [], [], []⟩
    let v := (runSteps a [.operation .clear] w).1
    let child := [Step.operation .isSuperAdmin, .operation .clear, .operation .isSuperAdmin]
    let answers : Except Panic (List Answer) := .ok [.flag true, .done, .flag false]
    v.ambient = some .empty ∧ readsIn child = [] ∧
      inherit (runSteps a child) .initial = .error .notInitialized ∧
      ∃ work, inherit (runSteps a child) w = .ok work ∧
        inside [none, some .empty] work v = (v, answers) ∧
        (inside [none, some .empty] work v).2 = (runSteps a child w).2 := by
  intro a ctx w v child answers
  have houtside := (inherited_work_keeps_its_context a [] child [] .initial).1 rfl
  obtain ⟨work, hwork, hruns, -⟩ := ((inherited_work_keeps_its_context a [] child [] w).2 ctx rfl).1
  obtain ⟨hinside, -, hresults⟩ := hruns [none, some .empty] v
  refine ⟨rfl, rfl, houtside.1, work, hwork, hinside.trans rfl, ?_⟩
  exact (congrArg Prod.snd hinside).trans (hresults fun _ _ => rfl)

end RentalGuard
