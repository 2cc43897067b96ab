import RentalGuard.Proofs.Audit.Deliveries
import RentalGuard.Proofs.Scope.Refinement

/-! # A list is checked as its records are one by one

The filter of a list parts the records first and reports those that it leaves out afterwards; the
check of one record reports at once. In a block both refuse the same records in the same order, and
the refusals decide what is recorded. One induction over the list says so of the records that are
checked one after the other.
-/

namespace RentalGuard

variable {α : Type} [Owned α]

/-- Checks the records one after the other, each in the world that the last check has left. -/
def ensureEach (a : Auditing) (caller : Caller) :
    List α → World → World × List (Except ServiceError Unit)
  | [], w => (w, [])
  | record :: rest, w =>
    let (w, result) := w.settle a caller (Guard.ensureVisible w.ambient record)
    let (w, results) := ensureEach a caller rest w
    (w, result :: results)

namespace Guard

/-- What the check of each record refuses, in the order of the records. -/
def refusals (context : Option TenantContext) (records : List α) : List Denial :=
  records.flatMap fun record => (ensureVisible context record).denials

theorem isOk_ensureVisible (ctx : TenantContext) (record : α) :
    (ensureVisible (some ctx) record).result.isOk = ctx.isVisible record := by
  unfold ensureVisible
  cases h : ctx.isVisible record <;> simp only [h] <;> rfl

/-- A company may be named in a request if and only if its records are visible. -/
theorem isOk_requireCompanyAccess (ctx : TenantContext) {company : CompanyId} {record : α}
    (h : owner record = some company) :
    (requireCompanyAccess (some ctx) company).result.isOk = ctx.isVisible record := by
  have hsee : ctx.canSee (some company) = ctx.isVisible record := by
    unfold TenantContext.isVisible
    rw [h]
  unfold requireCompanyAccess
  cases hvisible : ctx.isVisible record <;> simp only [hsee, hvisible] <;> rfl

theorem refusals_eq (ctx : TenantContext) (records : List α) :
    refusals (some ctx) records =
      (records.filter fun record => !ctx.isVisible record).map fun record =>
        ctx.outOfSight .filterViolation (owner record) := by
  induction records with
  | nil => rfl
  | cons record rest ih =>
    unfold refusals at ih ⊢
    rw [List.flatMap_cons, ih]
    cases h : ctx.isVisible record <;> simp [ensureVisible, h, Verdict.grant, Verdict.refuse]

theorem retainVisible_eq (ctx : TenantContext) (records : List α) :
    retainVisible (some ctx) records =
      ⟨refusals (some ctx) records, .ok (records.filter fun record => ctx.isVisible record)⟩ := by
  rw [refusals_eq]
  rfl

/-- Each record is kept or refused. -/
theorem length_kept_add_refusals (ctx : TenantContext) (records : List α) :
    (records.filter fun record => ctx.isVisible record).length +
      (refusals (some ctx) records).length = records.length := by
  rw [refusals_eq, List.length_map]
  simpa [List.countP_eq_length_filter] using
    (List.length_eq_countP_add_countP (ctx.isVisible ·) (l := records)).symm

/-- There is nothing to refuse among the records that have been kept. -/
theorem retainVisible_kept (ctx : TenantContext) (records : List α) :
    retainVisible (some ctx) (records.filter fun record => ctx.isVisible record) =
      .grant (records.filter fun record => ctx.isVisible record) := by
  rw [retainVisible_eq, refusals_eq, List.filter_filter, List.filter_filter]
  simp [Verdict.grant]

end Guard

theorem World.settle_eq {β : Type} (a : Auditing) (caller : Caller) (verdict : Verdict β)
    (w : World) :
    w.settle a caller verdict =
      (⟨w.ambient, w.snapshots,
          w.events ++ a.events w.events.length
            (verdict.denials.map fun denial => (caller, denial)),
          w.logs ++ a.failures w.events.length verdict.denials.length⟩,
        verdict.result) := by
  unfold settle
  rw [foldl_record]

/-- The checks one after the other record what they refuse, and each answers what it answers in
the first world. -/
theorem ensureEach_eq (a : Auditing) (caller : Caller) (records : List α) (w : World) :
    ensureEach a caller records w =
      ((Guard.refusals w.ambient records).foldl (World.record a caller) w,
        records.map fun record => (Guard.ensureVisible w.ambient record).result) := by
  induction records generalizing w with
  | nil => rfl
  | cons record rest ih =>
    have hrefusals : Guard.refusals w.ambient (record :: rest) =
        (Guard.ensureVisible w.ambient record).denials ++ Guard.refusals w.ambient rest := rfl
    have hambient := World.ambient_settle a caller (Guard.ensureVisible w.ambient record) w
    unfold ensureEach
    simp only [ih, hambient]
    rw [hrefusals, List.foldl_append]
    rfl

/-- In a block the filter of a list agrees with the check of each record, under any two audits with
one clock. It gives back the records that pass the check, in their order and as often as they are
there; the checks one after the other answer what each answers alone. Both hand over the same
events in the same order, but for the identifiers, and each record is either given back or the
subject of one event. What has been given back passes the filter again, and nothing in the world
changes. A company may be named in a request if and only if a record that it owns passes the
check. -/
theorem batches_agree_with_single_checks (now : Nat → Instant) (eventId eventId' : Nat → EventId)
    (failure failure' : Nat → Option ServiceError) (caller : Caller) (ctx : TenantContext)
    (records : List α) (j : Journal) :
    let a : Auditing := ⟨now, eventId, failure⟩
    let b : Auditing := ⟨now, eventId', failure'⟩
    let w := j.under (some ctx)
    let check (record : α) := (w.settle b caller (Guard.ensureVisible w.ambient record)).2
    let batch := w.settle a caller (Guard.retainVisible w.ambient records)
    let single := ensureEach b caller records w
    ∃ kept trail trail',
      (batch.2 = .ok kept ∧ kept = records.filter fun record => (check record).isOk) ∧
      single.2 = records.map check ∧
      (batch.1.events = w.events ++ trail ∧ single.1.events = w.events ++ trail' ∧
        SameButIds trail trail') ∧
      kept.length + trail.length = records.length ∧
      (∀ (c : Auditing) (other : Caller),
        batch.1.settle c other (Guard.retainVisible batch.1.ambient kept) =
          (batch.1, .ok kept)) ∧
      ∀ (company : CompanyId) (record : α), owner record = some company →
        (w.settle a caller (Guard.requireCompanyAccess w.ambient company)).2.isOk =
          (check record).isOk := by
  intro a b w check batch single
  let denied := (Guard.refusals (some ctx) records).map fun denial => (caller, denial)
  let number := w.events.length
  have hbatch : batch = _ := World.settle_eq a caller (Guard.retainVisible (some ctx) records) w
  have hsingle : single = _ := ensureEach_eq b caller records w
  rw [Guard.retainVisible_eq] at hbatch
  rw [World.foldl_record] at hsingle
  have hkept : (fun record => (check record).isOk) = fun record => ctx.isVisible record :=
    funext fun record => Guard.isOk_ensureVisible ctx record
  refine ⟨records.filter fun record => ctx.isVisible record, a.events number denied,
    b.events number denied, ?kept, ?single, ?events, ?each, ?again, ?company⟩
  case kept => exact ⟨by rw [hbatch], by rw [hkept]⟩
  case single => rw [hsingle]; rfl
  case events =>
    exact ⟨by rw [hbatch], by rw [hsingle]; rfl, a.events_sameButIds b rfl number denied⟩
  case each =>
    rw [a.length_events, List.length_map]
    exact Guard.length_kept_add_refusals ctx records
  case again =>
    intro c other
    have hambient : batch.1.ambient = some ctx := by rw [hbatch]; rfl
    rw [hambient, Guard.retainVisible_kept]
    rfl
  case company =>
    intro company record h
    exact (Guard.isOk_requireCompanyAccess ctx h).trans (Guard.isOk_ensureVisible ctx record).symm

/-- One of four records belongs to another company. It alone is left out, and a request for its
company is refused, as it is. -/
theorem batches_agree_with_single_checks_on_four_records :
    let a : Auditing := ⟨fun _ => ⟨0, 0, by decide, by decide⟩, EventId.ofNat, fun _ => none⟩
    let own : CompanyId := ⟨"A", by decide, by decide⟩
    let other : CompanyId := ⟨"B", by decide, by decide⟩
    let w := (Journal.mk [] [] []).under (some (TenantContext.make [own] false))
    let caller : Caller := ⟨some "user-1", "bikes"⟩
    let records : List Ownership := [.company own, .company other, .shared, .company own]
    let batch := w.settle a caller (Guard.retainVisible w.ambient records)
    owner (Ownership.company other) = some other ∧
      (w.settle a caller (Guard.requireCompanyAccess w.ambient other)).2.isOk = false ∧
      batch.2 = .ok [.company own, .shared, .company own] ∧ batch.1.events.length = 1 := by
  intro a own other w caller records batch
  obtain ⟨kept, trail, -, ⟨hkept, hpassed⟩, -, ⟨hevents, -, -⟩, hlength, -, hcompany⟩ :=
    batches_agree_with_single_checks a.now a.eventId a.eventId a.failure a.failure caller
      (TenantContext.make [own] false) records ⟨[], [], []⟩
  have hthree : kept = [.company own, .shared, .company own] := hpassed.trans rfl
  rw [hthree] at hkept hlength
  have htrail : trail.length = 1 := Nat.add_left_cancel (hlength : 3 + trail.length = 3 + 1)
  refine ⟨rfl, (hcompany other (.company other) rfl).trans rfl, hkept, ?_⟩
  rw [hevents]
  exact htrail

end RentalGuard
