import Mathlib.Data.Finset.Card
import RentalGuard.Proofs.Scope.Replay
import RentalGuard.Scope.Service

/-! # Each request has its own context

The layer puts the context of the claims around the work of a request, and takes it away again
however the work ends. The caller's context has no part in the request, nor the request in it. In
the log the request is bracketed by its start and, without a panic, by its end.
-/

namespace RentalGuard

variable {α : Type}

/-- The entries for the ends of nested requests. A panic leaves none. -/
def Request.closings (count : Nat) : Except Panic α → List LogEntry
  | .ok _ => List.replicate count closed
  | .error _ => []

theorem Request.closings_append (m n : Nat) (result : Except Panic α) :
    closings m result ++ closings n result = closings (m + n) result := by
  cases result with
  | error p => rfl
  | ok value => exact List.replicate_append_replicate

/-- What work does in a context, with a log of its own. -/
def workIn (ctx : TenantContext) (work : Deferred α) (w : World) : World × Except Panic α :=
  work { w with ambient := some ctx, logs := [] }

/-- Work that does not look at the log and adds its own entries to it. -/
def OnlyAppends (work : Deferred α) : Prop :=
  ∀ w, work w =
    ({ (work { w with logs := [] }).1 with logs := w.logs ++ (work { w with logs := [] }).1.logs },
      (work { w with logs := [] }).2)

theorem runSteps_onlyAppends (a : Auditing) (steps : List Step) :
    OnlyAppends (runSteps a steps) := by
  intro w
  rw [runSteps_eq_replay, runSteps_eq_replay]
  simp [Traced.replay]

namespace Service

theorem serve_ofProgram (a : Auditing) (program : Option TenantClaims → List Step)
    (claims : Option TenantClaims) :
    (ofProgram a program).serve claims = runSteps a (program claims) := rfl

theorem ofProgram_onlyAppends {a : Auditing} {program : Option TenantClaims → List Step}
    {claims : Option TenantClaims} : OnlyAppends ((ofProgram a program).serve claims) :=
  runSteps_onlyAppends a (program claims)

/-- A layer gives the caller its context back, and closes its bracket. -/
theorem withScope_work (inner : Service α) (claims : Option TenantClaims) (w v : World) :
    (inner.withScope.call claims w).2 v =
      let served := inner.serve claims { v with ambient := some (Request.context claims) }
      ({ served.1 with
          ambient := v.ambient
          logs := served.1.logs ++ Request.closings 1 served.2 }, served.2) := by
  unfold withScope World.within
  simp only
  generalize inner.serve claims { v with ambient := some (Request.context claims) } = served
  obtain ⟨after, result⟩ := served
  cases result with
  | error p => simp [proceed, Request.closings]
  | ok value => rfl

/-- Behind layers, the work of a service runs in the context of the claims. -/
theorem layered_work {inner : Service α} {claims : Option TenantClaims}
    (h : OnlyAppends (inner.serve claims)) (layers : Nat) (w v : World) :
    ((inner.layered (layers + 1)).call claims w).2 v =
      let handled := workIn (Request.context claims) (inner.serve claims) v
      ({ handled.1 with
          ambient := v.ambient
          logs := v.logs ++ (List.replicate layers (Request.opened claims) ++ handled.1.logs ++
            Request.closings (layers + 1) handled.2) }, handled.2) := by
  induction layers generalizing w v with
  | zero =>
    rw [layered, withScope_work, layered, h]
    simp only [workIn, List.replicate_zero, List.nil_append, List.append_assoc]
  | succ layers ih =>
    -- the call of the inner layers opens one more bracket, in the context of the outermost one
    have hserve : ∀ u : World, (inner.layered (layers + 1)).serve claims u =
        ((inner.layered (layers + 1)).call claims u).2 (u.log (Request.opened claims)) :=
      fun _ => rfl
    rw [layered, withScope_work, hserve, ih]
    simp only [workIn, World.log, List.append_assoc, List.replicate_succ, List.cons_append,
      List.nil_append, Request.closings_append]

theorem layered_serve {inner : Service α} {claims : Option TenantClaims}
    (h : OnlyAppends (inner.serve claims)) (layers : Nat) (w : World) :
    (inner.layered (layers + 1)).serve claims w =
      let handled := workIn (Request.context claims) (inner.serve claims) w
      ({ handled.1 with
          ambient := w.ambient
          logs := w.logs ++ (List.replicate (layers + 1) (Request.opened claims) ++
            handled.1.logs ++ Request.closings (layers + 1) handled.2) }, handled.2) := by
  refine (layered_work h layers w (w.log (Request.opened claims))).trans ?_
  simp only [workIn, World.log, List.append_assoc, List.replicate_succ, List.cons_append,
    List.nil_append]

end Service

/-! ## Requests in programs -/

/-- A request of a program is a call through one layer. -/
theorem Step.run_request (a : Auditing) (claims : Option TenantClaims) (body : List Step)
    (w : World) :
    (Step.request claims body).run a w =
      passing .steps (((Service.ofProgram a fun _ => body).layered 1).serve claims w) := by
  unfold Step.run Service.serve Service.layered Service.withScope
  simp only [Service.layered, Service.serve_ofProgram]
  generalize (w.log (Request.opened claims)).within _ (runSteps a body) = ran
  obtain ⟨after, result⟩ := ran
  cases result <;> rfl

namespace Request

/-- The log of one request: its start, the handler's own entries, and its end unless the handler
panics. -/
def ownLog (a : Auditing) (claims : Option TenantClaims) (body : List Step) (w : World) :
    List LogEntry :=
  let handled := workIn (context claims) (runSteps a body) w
  opened claims :: handled.1.logs ++ closings 1 handled.2

theorem run_request_eq (a : Auditing) (claims : Option TenantClaims) (body : List Step)
    (w : World) :
    (Step.request claims body).run a w =
      let handled := workIn (context claims) (runSteps a body) w
      ({ handled.1 with ambient := w.ambient, logs := w.logs ++ ownLog a claims body w },
        handled.2.map .steps) := by
  have happends : OnlyAppends ((Service.ofProgram a fun _ => body).serve claims) :=
    Service.ofProgram_onlyAppends
  rw [Step.run_request, Service.layered_serve happends]
  rfl

/-- Requests one after the other. A panic ends its own request and no other. -/
def sequence (requests : List (Option TenantClaims × List Step)) : List Step :=
  requests.map fun (claims, body) => .caught [.request claims body]

/-- The logs of the requests, each from the world that the requests before it leave. -/
def sequenceLog (a : Auditing) : List (Option TenantClaims × List Step) → World → List LogEntry
  | [], _ => []
  | (claims, body) :: rest, w =>
    ownLog a claims body w ++ sequenceLog a rest ((Step.request claims body).run a w).1

/-- The panic of a step that is caught leaves what the step has done. -/
theorem run_caught (a : Auditing) (step : Step) (w : World) :
    ∃ answer, (Step.caught [step]).run a w = ((step.run a w).1, .ok answer) := by
  have hcaught : (Step.caught [step]).run a w = catching (runSteps a [step] w) := by rw [Step.run]
  have hnil : ∀ u, runSteps a [] u = (u, .ok []) := fun u => by rw [runSteps]
  rw [hcaught, runSteps]
  simp only [hnil]
  generalize step.run a w = ran
  obtain ⟨after, result⟩ := ran
  cases result with
  | error p => exact ⟨_, rfl⟩
  | ok answer => exact ⟨_, rfl⟩

theorem run_sequence (a : Auditing) (requests : List (Option TenantClaims × List Step))
    (w : World) :
    ∃ after answers, runSteps a (sequence requests) w = (after, .ok answers) ∧
      after.ambient = w.ambient ∧ after.logs = w.logs ++ sequenceLog a requests w := by
  induction requests generalizing w with
  | nil => exact ⟨w, [], rfl, rfl, (List.append_nil _).symm⟩
  | cons request rest ih =>
    obtain ⟨claims, body⟩ := request
    obtain ⟨answer, hfirst⟩ := run_caught a (.request claims body) w
    obtain ⟨after, answers, hrest, hambient, hlogs⟩ :=
      ih ((Step.request claims body).run a w).1
    refine ⟨after, answer :: answers, ?_, ?_, ?_⟩
    · rw [sequence, List.map_cons, runSteps, hfirst]
      exact congrArg (proceed _) hrest
    · rw [hambient, run_request_eq]
    · rw [hlogs, sequenceLog, run_request_eq]
      simp

/-! ## The entry for the start -/

theorem context_eq (claims : Option TenantClaims) :
    context claims = claims.elim .empty TenantClaims.toContext := by
  cases claims <;> rfl

theorem length_distinct {β : Type} [DecidableEq β] (items : List β) :
    (distinct items).length = items.toFinset.card := by
  rw [← List.toFinset_card_of_nodup (nodup_distinct items)]
  congr 1
  ext b
  simp

/-- The companies that the claims list, none of them twice. -/
theorem length_context_companies (claims : Option TenantClaims) :
    (context claims).companies.length = (claims.elim [] (·.companies)).toFinset.card := by
  cases claims with
  | none => rfl
  | some c => exact length_distinct c.companies

theorem context_superAdmin (claims : Option TenantClaims) :
    (context claims).superAdmin = claims.any TenantClaims.isSuperAdmin := by
  cases claims <;> rfl

end Request

/-- Each request has its own context. Its handler starts in the context of the claims, or in the
empty one if there are none, however many layers are around it and whatever context the caller has
when the call is made and when the work is run. Afterwards the caller has its context again. The
request is in the log as its start, what the handler logs, and its end unless the handler panics;
further layers only open and close further brackets. Requests that follow each other are logged one
after the other. The entry for the start counts the companies of the claims without repetitions, and
the entry for the end says no more than that it is one. -/
theorem requests_have_their_own_context (a : Auditing)
    (program : Option TenantClaims → List Step) (claims : Option TenantClaims) (layers : Nat)
    (w v : World) :
    let ctx := claims.elim .empty TenantClaims.toContext
    let handled := workIn ctx (runSteps a (program claims)) v
    let called := ((Service.ofProgram a program).layered (layers + 1)).call claims w
    (Step.request claims (program claims)).run a v =
      ({ handled.1 with
          ambient := v.ambient
          logs := v.logs ++ (Request.opened claims :: handled.1.logs ++
            Request.closings 1 handled.2) }, handled.2.map .steps) ∧
    called.1 = { w with logs := w.logs ++ [Request.opened claims] } ∧
    called.2 v =
      ({ handled.1 with
          ambient := v.ambient
          logs := v.logs ++ (List.replicate layers (Request.opened claims) ++ handled.1.logs ++
            Request.closings (layers + 1) handled.2) }, handled.2) ∧
    (∀ outer, called.2 { v with ambient := outer } =
      ({ (called.2 v).1 with ambient := outer }, (called.2 v).2)) ∧
    (∀ requests, ∃ after answers,
      runSteps a (Request.sequence requests) w = (after, .ok answers) ∧
        after.ambient = w.ambient ∧ after.logs = w.logs ++ Request.sequenceLog a requests w) ∧
    Request.opened claims = .security .info
      [("event.category", .text "tenant"), ("event.action", .text "tenant.scope_opened"),
        ("event.result", .text "success"),
        ("tenant.company_count", .integer (claims.elim [] (·.companies)).toFinset.card),
        ("tenant.super_admin", .flag (claims.any TenantClaims.isSuperAdmin)),
        ("tenant.has_claims", .flag claims.isSome)] "テナントスコープを開始" ∧
    Request.closed = .plain .debug
      [("event.category", .text "tenant"), ("event.action", .text "tenant.scope_closed")]
      "テナントスコープを終了" := by
  intro ctx handled called
  have hctx : Request.context claims = ctx := Request.context_eq claims
  have happends : OnlyAppends ((Service.ofProgram a program).serve claims) :=
    Service.ofProgram_onlyAppends
  refine ⟨?request, rfl, ?work, ?outer, ?sequence, ?opened, rfl⟩
  case request =>
    rw [Request.run_request_eq, Request.ownLog, hctx]
  case work =>
    rw [Service.layered_work happends, hctx, Service.serve_ofProgram]
  case outer =>
    intro outer
    rw [Service.layered_work happends, Service.layered_work happends]
    rfl
  case sequence =>
    exact fun requests => Request.run_sequence a requests w
  case opened =>
    simp only [Request.opened, Request.length_context_companies, Request.context_superAdmin]

end RentalGuard
