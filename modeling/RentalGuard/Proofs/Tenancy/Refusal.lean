import RentalGuard.Problem
import RentalGuard.Proofs.Scope.Replay

/-! # A refusal tells nothing

Two runs in which a guard refuses give errors that cannot be told apart, whatever is different
between the runs. The answer to the client is that of every refusal, and the answers to all other
failures are one answer too.
-/

namespace RentalGuard

/-- Whether the database has reported that a row policy refuses. -/
def refusedByPolicy {α : Type} : Except ServiceError α → Bool
  | .error (.database cause) => cause.code == some "42501"
  | _ => false

namespace GuardCall

/-- A call that is refused in a block with this context: a record or a company is out of sight, or
a row policy of the database has refused. -/
def isRefused (ctx : TenantContext) : GuardCall → Bool
  | ensureVisible record => !ctx.canSee (owner record)
  | requireCompanyAccess company => !ctx.canSee (some company)
  | auditPolicyDenial result => refusedByPolicy result
  | retainVisible _ => false

variable {ctx : TenantContext} {call : GuardCall}

theorem isPolicyDenial_iff {e : ServiceError} :
    e.isPolicyDenial = refusedByPolicy (.error e : Except ServiceError Json) := by
  cases e with
  | database | scope | accessDenied | unexpected => rfl

theorem answer_of_isRefused (h : call.isRefused ctx) :
    call.answer (some ctx) = .failed .accessDenied := by
  cases call with
  | ensureVisible record =>
    have hvisible : ctx.isVisible record = false := by
      simpa [isRefused, TenantContext.isVisible] using h
    unfold answer Guard.ensureVisible
    simp only [hvisible]
    rfl
  | requireCompanyAccess company =>
    have hseen : ctx.canSee (some company) = false := by simpa [isRefused] using h
    unfold answer Guard.requireCompanyAccess
    simp only [hseen]
    rfl
  | retainVisible records => cases h
  | auditPolicyDenial result =>
    cases result with
    | ok value => cases h
    | error e =>
      have hpolicy : e.isPolicyDenial = true := isPolicyDenial_iff.trans h
      unfold answer Guard.auditPolicyDenial
      simp only [hpolicy]
      rfl

/-- In a block nothing else fails, except that errors of other work are handed through. -/
theorem isRefused_of_failed {e : ServiceError} (h : call.answer (some ctx) = .failed e) :
    call.isRefused ctx ∨ call = .auditPolicyDenial (.error e) := by
  cases call with
  | ensureVisible record =>
    left
    cases hvisible : ctx.isVisible record with
    | true => simp [answer, Guard.ensureVisible, hvisible, Verdict.grant, granted] at h
    | false => simpa [isRefused, TenantContext.isVisible] using hvisible
  | requireCompanyAccess company =>
    left
    cases hseen : ctx.canSee (some company) with
    | true => simp [answer, Guard.requireCompanyAccess, hseen, Verdict.grant, granted] at h
    | false => simpa [isRefused] using hseen
  | retainVisible records => cases h
  | auditPolicyDenial result =>
    cases result with
    | ok value => cases h
    | error cause =>
      cases hpolicy : cause.isPolicyDenial with
      | true => exact .inl (isPolicyDenial_iff.symm.trans hpolicy)
      | false =>
        right
        simp only [answer, Guard.auditPolicyDenial, hpolicy] at h
        cases h
        rfl

end GuardCall

namespace Problem

theorem ofServiceError_of_ne {e : ServiceError} (h : e ≠ .accessDenied) :
    ofServiceError e = internalError := by
  cases e with
  | accessDenied => exact absurd rfl h
  | database | scope | unexpected => rfl

theorem internalError_ne_accessDenied : internalError ≠ accessDenied := by decide

end Problem

/-- A refusal tells the client nothing. Take two runs in which a guard refuses in a block: whatever
their contexts, their callers, what they ask for, what the database says and which of the guards
they call, both get an error with the same message, and the client gets the same answer, which is
that to everything forbidden. In a block no call fails in another way, unless it hands an error
through. All errors but a refusal have one answer, and it is another one. -/
theorem refusals_look_alike (a b : Auditing) (caller other : Caller) {w v : World}
    {ctx ctx' : TenantContext} {call call' : GuardCall} (hw : w.ambient = some ctx)
    (hv : v.ambient = some ctx') (hcall : call.isRefused ctx) (hcall' : call'.isRefused ctx') :
    (∃ e e', (call.run a caller w).2 = .failed e ∧ (call'.run b other v).2 = .failed e' ∧
      e.message = e'.message ∧ Problem.ofServiceError e = Problem.ofServiceError e' ∧
      ∀ text, Problem.ofServiceError e = Problem.ofDomainError (.forbidden text)) ∧
    (∀ (asked : GuardCall) (e : ServiceError), (asked.run a caller w).2 = .failed e →
      asked.isRefused ctx ∨ asked = .auditPolicyDenial (.error e)) ∧
    ∀ e e' : ServiceError, e ≠ .accessDenied → e' ≠ .accessDenied →
      Problem.ofServiceError e = Problem.ofServiceError e' ∧
        Problem.ofServiceError e ≠ Problem.ofServiceError .accessDenied := by
  refine ⟨?refused, ?only, ?others⟩
  case refused =>
    have hfailed : (call.run a caller w).2 = .failed .accessDenied := by
      rw [call.run_eq, hw]
      exact GuardCall.answer_of_isRefused hcall
    have hfailed' : (call'.run b other v).2 = .failed .accessDenied := by
      rw [call'.run_eq, hv]
      exact GuardCall.answer_of_isRefused hcall'
    exact ⟨.accessDenied, .accessDenied, hfailed, hfailed', rfl, rfl, fun _ => rfl⟩
  case only =>
    intro asked e h
    rw [asked.run_eq, hw] at h
    exact GuardCall.isRefused_of_failed h
  case others =>
    intro e e' he he'
    rw [Problem.ofServiceError_of_ne he, Problem.ofServiceError_of_ne he']
    exact ⟨rfl, Problem.internalError_ne_accessDenied⟩

/-- A record of a company and a row policy that refuses, under different contexts. -/
theorem refusals_look_alike_record_and_policy :
    let a : Auditing := ⟨fun _ => ⟨0, 0, by decide, by decide⟩, EventId.ofNat, fun _ => none⟩
    let id : CompanyId := ⟨"C", by decide, by decide⟩
    let ctx := TenantContext.empty
    let ctx' := TenantContext.make [id] true
    let call := GuardCall.ensureVisible (.company id)
    let call' := GuardCall.auditPolicyDenial
      (.error (.database
        ⟨"error returned from database: new row violates row-level security policy",
          some "42501"⟩))
    call.isRefused ctx ∧ call'.isRefused ctx' ∧
      ∃ e e', (call.run a ⟨none, "bikes"⟩ ⟨some ctx, [], [], []⟩).2 = .failed e ∧
        (call'.run a ⟨some "user-1", "bike/9"⟩ ⟨some ctx', [], [], []⟩).2 = .failed e' ∧
        e.message = e'.message ∧ Problem.ofServiceError e = Problem.ofServiceError e' ∧
        ∀ text, Problem.ofServiceError e = Problem.ofDomainError (.forbidden text) := by
  intro a id ctx ctx' call call'
  have hcall : call.isRefused ctx := by decide
  have hcall' : call'.isRefused ctx' := by decide
  exact ⟨hcall, hcall', (refusals_look_alike a a ⟨none, "bikes"⟩ ⟨some "user-1", "bike/9"⟩
    (w := ⟨some ctx, [], [], []⟩) (v := ⟨some ctx', [], [], []⟩) rfl rfl hcall hcall').1⟩

end RentalGuard
