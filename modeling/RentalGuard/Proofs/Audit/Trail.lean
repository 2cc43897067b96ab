import Mathlib.Data.List.Basic
import RentalGuard.Proofs.Scope.Replay

/-! # Every denial is in the audit trail once

What the trail must hold is read off the calls of guards and their answers. It is compared with the
events that a run leaves behind. One lemma for each kind of call says that its denials are what is
due; the replay of the trace carries this over to whole programs.
-/

namespace RentalGuard

open Json

/-- What an event says, without its identifier and its time. -/
structure AuditStatement where
  eventType : AuditEventType
  caller : Caller
  access : AccessDecision
  outcome : AuditOutcome
  metadata : Option Json

def AuditEvent.statement (event : AuditEvent) : AuditStatement :=
  ⟨event.eventType, ⟨event.actor, event.resource⟩, event.access, event.outcome,
    event.metadata.map (·.tree)⟩

namespace GuardCall

/-- A check of records or of a company. It cannot be made outside all blocks. -/
def isCheck : GuardCall → Bool
  | ensureVisible _ | retainVisible _ | requireCompanyAccess _ => true
  | auditPolicyDenial _ => false

end GuardCall

namespace GuardedCall

/-- Whether the caller is told that access is refused. -/
def denies (c : GuardedCall) : Bool :=
  match c.answer with
  | .failed .accessDenied => true
  | _ => false

/-- Those of the records that the caller does not get back, in order. Of equal records there are as
many as are missing. -/
def removed (c : GuardedCall) (records : List (CompanyOwned Nat)) : List (CompanyOwned Nat) :=
  match c.answer with
  | .kept kept => records.diff kept
  | _ => []

/-- The companies of the innermost block, in order. -/
def companies (c : GuardedCall) : Json :=
  array (((c.context.map (·.companies)).getD []).map fun id => string id.text)

/-- A statement about a refusal of this call. -/
def refusal (c : GuardedCall) (eventType : AuditEventType) (metadata : List (String × Json)) :
    AuditStatement :=
  ⟨eventType, c.caller, .denied, .failure, some (object metadata)⟩

/-- A statement about something of this owner. -/
def violation (c : GuardedCall) (eventType : AuditEventType) (owner : Option CompanyId) :
    AuditStatement :=
  c.refusal eventType
    [("context_companies", c.companies), ("record_company", ofText? (owner.map (·.text)))]

/-- What the trail must hold of the call. -/
def due (c : GuardedCall) : List AuditStatement :=
  match c.call, c.context with
  | .auditPolicyDenial (.error (.database cause)), _ =>
    if cause.code = some "42501" then
      [c.refusal .policyViolation
        [("context_companies", c.companies),
          ("reason", string (ServiceError.database cause).message),
          ("sqlstate", string "42501")]]
    else []
  | .auditPolicyDenial _, _ => []
  | _, none =>
    [c.refusal .tenantContextError [("reason", string ScopeError.notInitialized.message)]]
  | .ensureVisible record, some _ =>
    if c.denies then [c.violation .filterViolation (owner record)] else []
  | .retainVisible records, some _ =>
    (c.removed records).map fun record => c.violation .filterViolation (owner record)
  | .requireCompanyAccess company, some _ =>
    if c.denies then [c.violation .crossTenantAccessAttempt (some company)] else []

/-- The statement that the event of a denial makes. -/
def statementOf (caller : Caller) (denial : Denial) : AuditStatement :=
  ⟨denial.eventType, caller, .denied, .failure, some denial.metadata.tree⟩

/-! ## One call -/

theorem statementOf_outOfSight (ctx : TenantContext) (caller : Caller) (call : GuardCall)
    (eventType : AuditEventType) (owner : Option CompanyId) :
    statementOf caller (ctx.outOfSight eventType owner) =
      violation ⟨some ctx, caller, call⟩ eventType owner := by
  simp [statementOf, TenantContext.outOfSight, violation, refusal, companies,
    AuditMetadata.violation, AuditMetadata.texts, TenantContext.companyNames, Function.comp_def]

theorem answer_outside (caller : Caller) {call : GuardCall} (h : call.isCheck) :
    answer ⟨none, caller, call⟩ = .failed (.scope .notInitialized) := by
  cases call with
  | ensureVisible | retainVisible | requireCompanyAccess => rfl
  | auditPolicyDenial => cases h

theorem due_outside (caller : Caller) {call : GuardCall} (h : call.isCheck) :
    (call.denials none).map (statementOf caller) = due ⟨none, caller, call⟩ := by
  cases call with
  | ensureVisible | retainVisible | requireCompanyAccess => rfl
  | auditPolicyDenial => cases h

theorem due_ensureVisible (ctx : TenantContext) (caller : Caller) (record : Ownership) :
    ((GuardCall.ensureVisible record).denials (some ctx)).map (statementOf caller) =
      due ⟨some ctx, caller, .ensureVisible record⟩ := by
  unfold due denies answer GuardCall.answer GuardCall.denials Guard.ensureVisible
  cases h : ctx.isVisible record with
  | true => simp [h, Verdict.grant, GuardCall.granted]
  | false =>
    simp [h, Verdict.refuse, GuardCall.granted, statementOf_outOfSight ctx caller
      (.ensureVisible record)]

theorem due_requireCompanyAccess (ctx : TenantContext) (caller : Caller) (company : CompanyId) :
    ((GuardCall.requireCompanyAccess company).denials (some ctx)).map (statementOf caller) =
      due ⟨some ctx, caller, .requireCompanyAccess company⟩ := by
  unfold due denies answer GuardCall.answer GuardCall.denials Guard.requireCompanyAccess
  cases h : ctx.canSee (some company) with
  | true => simp [h, Verdict.grant, GuardCall.granted]
  | false =>
    simp [h, Verdict.refuse, GuardCall.granted, statementOf_outOfSight ctx caller
      (.requireCompanyAccess company)]

/-- What a filter leaves out is what the filter of the opposite lets through. -/
theorem diff_filter {α : Type} [DecidableEq α] (keep : α → Bool) (items : List α) :
    items.diff (items.filter keep) = items.filter fun item => !keep item := by
  induction items with
  | nil => rfl
  | cons first rest ih =>
    cases h : keep first with
    | true =>
      rw [List.filter_cons_of_pos h, List.filter_cons_of_neg (by simp [h]), List.diff_cons,
        List.erase_cons_head, ih]
    | false =>
      have hfirst : first ∉ rest.filter keep := by simp [h]
      rw [List.filter_cons_of_neg (by simp [h]), List.filter_cons_of_pos (by simp [h]),
        List.cons_diff_of_not_mem hfirst, ih]

/-- The records that are not given back are those that are not visible. -/
theorem removed_retainVisible (ctx : TenantContext) (caller : Caller)
    (records : List (CompanyOwned Nat)) :
    removed ⟨some ctx, caller, .retainVisible records⟩ records =
      records.filter fun record => !ctx.isVisible record :=
  diff_filter (ctx.isVisible ·) records

theorem due_retainVisible (ctx : TenantContext) (caller : Caller)
    (records : List (CompanyOwned Nat)) :
    ((GuardCall.retainVisible records).denials (some ctx)).map (statementOf caller) =
      due ⟨some ctx, caller, .retainVisible records⟩ := by
  unfold due
  simp only [removed_retainVisible, GuardCall.denials, Guard.retainVisible, List.map_map]
  exact List.map_congr_left fun record _ => statementOf_outOfSight ..

theorem due_auditPolicyDenial (context : Option TenantContext) (caller : Caller)
    (result : Except ServiceError Json) :
    ((GuardCall.auditPolicyDenial result).denials context).map (statementOf caller) =
      due ⟨context, caller, .auditPolicyDenial result⟩ := by
  cases result with
  | ok value => rfl
  | error e =>
    cases e with
    | scope | accessDenied | unexpected => rfl
    | database cause =>
      have hpolicy : (ServiceError.database cause).isPolicyDenial ↔ cause.code = some "42501" :=
        beq_iff_eq
      unfold due GuardCall.denials Guard.auditPolicyDenial
      simp only [hpolicy]
      by_cases hcode : cause.code = some "42501"
      · rw [if_pos hcode, if_pos hcode]
        cases context <;>
          simp [Verdict.refuse, statementOf, refusal, companies, AuditMetadata.policyDenial,
            AuditMetadata.texts, Guard.contextCompanies, TenantContext.companyNames,
            DatabaseError.policyDenialCode, Function.comp_def]
      · rw [if_neg hcode, if_neg hcode]
        rfl

/-- What a call refuses is what is due of it. -/
theorem map_denials (c : GuardedCall) :
    (c.call.denials c.context).map (statementOf c.caller) = c.due := by
  obtain ⟨context, caller, call⟩ := c
  cases call with
  | auditPolicyDenial result => exact due_auditPolicyDenial context caller result
  | ensureVisible record =>
    cases context with
    | none => exact due_outside caller rfl
    | some ctx => exact due_ensureVisible ctx caller record
  | retainVisible records =>
    cases context with
    | none => exact due_outside caller rfl
    | some ctx => exact due_retainVisible ctx caller records
  | requireCompanyAccess company =>
    cases context with
    | none => exact due_outside caller rfl
    | some ctx => exact due_requireCompanyAccess ctx caller company

end GuardedCall

/-! ## Whole runs -/

theorem Auditing.map_statement_events (a : Auditing) (number : Nat)
    (denials : List (Caller × Denial)) :
    (a.events number denials).map AuditEvent.statement =
      denials.map fun (caller, denial) => GuardedCall.statementOf caller denial :=
  a.map_events (fun _ _ _ _ => rfl) number denials

theorem Traced.map_denials {α : Type} (t : Traced α) :
    (t.denials.map fun (caller, denial) => GuardedCall.statementOf caller denial) =
      t.calls.flatMap GuardedCall.due := by
  unfold denials calls
  induction t.happenings with
  | nil => rfl
  | cons h rest ih =>
    rw [List.flatMap_cons, List.map_append, ih]
    cases h with
    | opened | closed => rfl
    | guarded c =>
      have hcall : (Happening.guarded c).denials.map
          (fun (caller, denial) => GuardedCall.statementOf caller denial) = c.due := by
        unfold Happening.denials
        rw [List.map_map]
        exact c.map_denials
      rw [hcall]
      rfl

/-- Every denial is in the audit trail once, and nothing else is. A program answers what its trace
answers. The events that it leaves behind, in order, make the statements that are due of the calls
of its trace: one for each refusal of a record or a company, one for each record that is left out,
one for each refusal by the database, in a block or outside, and one for each check outside all
blocks. Such a check always fails. -/
theorem denials_are_audited_once (a : Auditing) (program : List Step) (w : World) :
    let ran := runSteps a program w
    let trace := traceSteps program w.ambient w.snapshots
    ran.1.ambient = trace.own ∧ ran.2 = trace.result ∧
      (∃ trail, ran.1.events = w.events ++ trail ∧
        trail.map AuditEvent.statement = trace.calls.flatMap GuardedCall.due) ∧
      ∀ (caller : Caller) (call : GuardCall), call.isCheck →
        GuardedCall.answer ⟨none, caller, call⟩ = .failed (.scope .notInitialized) := by
  intro ran trace
  have hran : ran = trace.replay a w := runSteps_eq_replay a program w
  refine ⟨?own, ?result, ?events, ?outside⟩
  case own => rw [hran]; rfl
  case result => rw [hran]; rfl
  case events =>
    refine ⟨a.events w.events.length trace.denials, by rw [hran]; rfl, ?_⟩
    rw [a.map_statement_events, trace.map_denials]
  case outside => exact fun caller call h => GuardedCall.answer_outside caller h

/-- A record of another company is refused in a block. Afterwards no records at all are checked
outside all blocks, which fails. -/
theorem denials_are_audited_once_in_and_outside :
    let a : Auditing := ⟨fun _ => ⟨0, 0, by decide, by decide⟩, EventId.ofNat, fun _ => none⟩
    let other : CompanyId := ⟨"C", by decide, by decide⟩
    let ctx := TenantContext.make [⟨"A", by decide, by decide⟩, ⟨"B", by decide, by decide⟩] false
    let caller : Caller := ⟨some "user-1", "bikes"⟩
    let program : List Step :=
      [.scope ctx [.guarded caller (.ensureVisible (.company other))],
        .guarded caller (.retainVisible [])]
    (GuardCall.retainVisible []).isCheck ∧
      GuardedCall.answer ⟨none, caller, .retainVisible []⟩ = .failed (.scope .notInitialized) ∧
      ∃ trail, (runSteps a program .initial).1.events = [] ++ trail ∧
        trail.map AuditEvent.statement =
          [⟨.filterViolation, caller, .denied, .failure,
              some (object [("context_companies", array [string "A", string "B"]),
                ("record_company", string "C")])⟩,
            ⟨.tenantContextError, caller, .denied, .failure,
              some (object [("reason", string "テナントコンテキストが初期化されていません")])⟩] := by
  intro a other ctx caller program
  obtain ⟨-, -, ⟨trail, hevents, hstatements⟩, houtside⟩ :=
    denials_are_audited_once a program .initial
  exact ⟨rfl, houtside caller _ rfl, trail, hevents, hstatements.trans rfl⟩

end RentalGuard
