import RentalGuard.Proofs.Scope.Replay

/-! # Steps depend on the snapshots that they read

Snapshots are shared by all code that knows their names. Steps that begin with the same context and
find the same snapshots under the names that they look for do the same, whatever else has been
taken. Two traces are compared along the steps, and what they leave behind is alike again.
-/

namespace RentalGuard

mutual

/-- The names under which a step looks for snapshots, in whatever block. -/
def Step.reads : Step → List String
  | .operation (.readSnapshot name) => [name]
  | .operation _ | .guarded .. | .refused _ | .panic _ => []
  | .caught body | .scope _ body | .caughtScope _ body | .spawn body | .cancelledScope _ body
  | .request _ body => readsIn body
  | .inherit meanwhile child => readsIn meanwhile ++ readsIn child
  | .interleave _ turns => readsInTurns turns

def readsIn : List Step → List String
  | [] => []
  | step :: rest => step.reads ++ readsIn rest

def readsInTurns : List (Nat × Step) → List String
  | [] => []
  | (_, step) :: rest => step.reads ++ readsInTurns rest

end

/-- The snapshots are the same under these names. -/
def Snapshots.AgreeOn (names : List String) (s t : Snapshots) : Prop :=
  ∀ name ∈ names, s.lookup name = t.lookup name

theorem Snapshots.AgreeOn.taken {names : List String} {s t : Snapshots} (h : AgreeOn names s t)
    (name : String) (ids : List CompanyId) : AgreeOn names ((name, ids) :: s) ((name, ids) :: t) := by
  intro other hother
  rw [List.lookup_cons, List.lookup_cons, h other hother]

namespace Traced

variable {α β : Type} {names : List String}

/-- The traces differ in snapshots under other names, if at all. -/
structure Alike (names : List String) (t u : Traced α) : Prop where
  own : t.own = u.own
  happenings : t.happenings = u.happenings
  result : t.result = u.result
  snapshots : Snapshots.AgreeOn names t.snapshots u.snapshots

namespace Alike

variable {t u : Traced α}

theorem back (h : t.Alike names u) (own : Option TenantContext)
    (f : Except Panic α → Except Panic β) : (t.back own f).Alike names (u.back own f) :=
  ⟨rfl, h.happenings, congrArg f h.result, h.snapshots⟩

theorem after (h : t.Alike names u) (happening : Happening) :
    (t.after happening).Alike names (u.after happening) :=
  ⟨h.own, congrArg (happening :: ·) h.happenings, h.result, h.snapshots⟩

/-- Going on in the same way after traces that are alike. -/
theorem andThen {next : α → Option TenantContext → Snapshots → Traced β} (h : t.Alike names u)
    (hnext : ∀ value own s s', Snapshots.AgreeOn names s s' →
      (next value own s).Alike names (next value own s')) :
    (t.andThen next).Alike names (u.andThen next) := by
  obtain ⟨own, s, happenings, result⟩ := t
  obtain ⟨own', s', happenings', result'⟩ := u
  obtain ⟨hown, hhappenings, hresult, hs⟩ := h
  cases hown
  cases hhappenings
  cases hresult
  cases result with
  | error p => exact ⟨rfl, rfl, rfl, hs⟩
  | ok value =>
    have hv := hnext value own s s' hs
    exact ⟨hv.own, congrArg (happenings ++ ·) hv.happenings, hv.result, hv.snapshots⟩

end Alike

end Traced

variable {names : List String}

theorem AmbientOp.trace_alike (op : AmbientOp) (own : Option TenantContext) {s t : Snapshots}
    (h : Snapshots.AgreeOn names s t) (hreads : (Step.operation op).reads ⊆ names) :
    (op.trace own s).Alike names (op.trace own t) := by
  cases op with
  | readSnapshot name =>
    have hname : s.lookup name = t.lookup name := h name (hreads (by simp [Step.reads]))
    exact ⟨rfl, rfl, congrArg (Except.ok ∘ Answer.snapshot) hname, h⟩
  | takeSnapshot name =>
    cases own with
    | none => exact ⟨rfl, rfl, rfl, h⟩
    | some ctx => exact ⟨rfl, rfl, rfl, h.taken name ctx.companies⟩
  | isInitialized => exact ⟨rfl, rfl, rfl, h⟩
  | current | companies | isSuperAdmin | scope | filter | connect | setCompanies
  | setSuperAdmin | clear => cases own <;> exact ⟨rfl, rfl, rfl, h⟩

mutual

theorem Step.trace_alike (step : Step) (own : Option TenantContext) {s t : Snapshots}
    (h : Snapshots.AgreeOn names s t) (hreads : step.reads ⊆ names) :
    (step.trace own s).Alike names (step.trace own t) := by
  cases step with
  | operation op => unfold Step.trace; exact op.trace_alike own h hreads
  | guarded caller call => unfold Step.trace; exact ⟨rfl, rfl, rfl, h⟩
  | refused e => unfold Step.trace; exact ⟨rfl, rfl, rfl, h⟩
  | panic message => unfold Step.trace; exact ⟨rfl, rfl, rfl, h⟩
  | caught body =>
    unfold Step.reads at hreads
    have hbody := traceSteps_alike body own h hreads
    unfold Step.trace
    simp only
    rw [hbody.own]
    exact hbody.back _ _
  | scope ctx body =>
    unfold Step.reads at hreads
    unfold Step.trace
    exact (traceSteps_alike body (some ctx) h hreads).back _ _
  | caughtScope ctx body =>
    unfold Step.reads at hreads
    unfold Step.trace
    exact (traceSteps_alike body (some ctx) h hreads).back _ _
  | spawn body =>
    unfold Step.reads at hreads
    unfold Step.trace
    exact (traceSteps_alike body none h hreads).back _ _
  | inherit meanwhile child =>
    unfold Step.reads at hreads
    obtain ⟨hmeanwhile, hchild⟩ := List.append_subset.mp hreads
    unfold Step.trace
    cases own with
    | none => exact ⟨rfl, rfl, rfl, h⟩
    | some ctx =>
      refine (traceSteps_alike meanwhile (some ctx) h hmeanwhile).andThen ?_
      intro before own s s' hs
      exact (traceSteps_alike child (some ctx) hs hchild).back _ _
  | cancelledScope ctx body =>
    unfold Step.reads at hreads
    unfold Step.trace
    exact (traceFirst_alike body (some ctx) h hreads).back _ _
  | interleave contexts turns =>
    unfold Step.reads at hreads
    unfold Step.trace
    exact (traceTurns_alike turns _ own h hreads).andThen fun answers own s s' hs =>
      ⟨rfl, rfl, rfl, hs⟩
  | request claims body =>
    unfold Step.reads at hreads
    unfold Step.trace
    have hbody := traceSteps_alike body (some (Request.context claims)) h hreads
    exact ((hbody.back own id).after _).andThen fun answers own s s' hs => ⟨rfl, rfl, rfl, hs⟩

theorem traceSteps_alike (steps : List Step) (own : Option TenantContext) {s t : Snapshots}
    (h : Snapshots.AgreeOn names s t) (hreads : readsIn steps ⊆ names) :
    (traceSteps steps own s).Alike names (traceSteps steps own t) := by
  cases steps with
  | nil => unfold traceSteps; exact ⟨rfl, rfl, rfl, h⟩
  | cons step rest =>
    unfold readsIn at hreads
    obtain ⟨hstep, hrest⟩ := List.append_subset.mp hreads
    unfold traceSteps
    refine (step.trace_alike own h hstep).andThen fun answer own s s' hs => ?_
    exact (traceSteps_alike rest own hs hrest).andThen fun answers own s s' hs =>
      ⟨rfl, rfl, rfl, hs⟩

theorem traceFirst_alike (steps : List Step) (own : Option TenantContext) {s t : Snapshots}
    (h : Snapshots.AgreeOn names s t) (hreads : readsIn steps ⊆ names) :
    (traceFirst steps own s).Alike names (traceFirst steps own t) := by
  cases steps with
  | nil => unfold traceFirst; exact ⟨rfl, rfl, rfl, h⟩
  | cons step rest =>
    unfold readsIn at hreads
    obtain ⟨hstep, -⟩ := List.append_subset.mp hreads
    unfold traceFirst
    exact (step.trace_alike own h hstep).andThen fun answer own s s' hs => ⟨rfl, rfl, rfl, hs⟩

theorem traceTurns_alike (turns : List (Nat × Step)) (held : List (Option TenantContext))
    (own : Option TenantContext) {s t : Snapshots} (h : Snapshots.AgreeOn names s t)
    (hreads : readsInTurns turns ⊆ names) :
    (traceTurns turns held own s).Alike names (traceTurns turns held own t) := by
  cases turns with
  | nil => unfold traceTurns; exact ⟨rfl, rfl, rfl, h⟩
  | cons turn rest =>
    obtain ⟨branch, step⟩ := turn
    unfold readsInTurns at hreads
    obtain ⟨hstep, hrest⟩ := List.append_subset.mp hreads
    have hturn := step.trace_alike held[branch]?.join h hstep
    unfold traceTurns
    -- both blocks go on at their next turn with the same context
    simp only
    rw [hturn.own]
    refine (hturn.back own id).andThen fun answer own s s' hs => ?_
    exact (traceTurns_alike rest _ own hs hrest).andThen fun answers own s s' hs =>
      ⟨rfl, rfl, rfl, hs⟩

end

/-- The results of steps depend on their context and on the snapshots that they read. The audit and
the log have no part in them, nor have other snapshots. -/
theorem result_runSteps_congr (a : Auditing) (steps : List Step) {v w : World}
    (hambient : v.ambient = w.ambient)
    (hsnapshots : Snapshots.AgreeOn (readsIn steps) v.snapshots w.snapshots) :
    (runSteps a steps v).2 = (runSteps a steps w).2 := by
  rw [runSteps_eq_replay, runSteps_eq_replay, hambient]
  exact (traceSteps_alike steps w.ambient hsnapshots fun _ h => h).result

end RentalGuard
