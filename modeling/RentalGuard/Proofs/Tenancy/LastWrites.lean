import Mathlib.Data.List.Induction
import RentalGuard.Proofs.Tenancy.SharedLists

/-! # A context is what was written to it last

Whatever was done to a context before it was cleared has no part in it, and of what was done since
then only the last list and the last flag. Snapshots stay what they were when they were taken, also
if a context and its snapshots share their lists.
-/

namespace RentalGuard

/-! ## The last writes -/

namespace ContextChange

/-- The list that a change writes, if it writes one. -/
def listed? : ContextChange → Option (List CompanyId)
  | setCompanies ids => some ids
  | _ => none

/-- The flag that a change writes, if it writes one. -/
def flag? : ContextChange → Option Bool
  | setSuperAdmin superAdmin => some superAdmin
  | _ => none

def isClear : ContextChange → Bool
  | clear => true
  | _ => false

end ContextChange

section

variable {β : Type} {written? : ContextChange → Option β}

/-- The changes after the last one that clears the context, the newest first. -/
def sinceClear (changes : List ContextChange) : List ContextChange :=
  changes.reverse.takeWhile fun change => !change.isClear

/-- What has been written last since the context was cleared. -/
def lastWritten (written? : ContextChange → Option β) (changes : List ContextChange) : Option β :=
  (sinceClear changes).findSome? written?

theorem sinceClear_append (changes : List ContextChange) (change : ContextChange) :
    sinceClear (changes ++ [change]) =
      if change.isClear then [] else change :: sinceClear changes := by
  cases h : change.isClear <;> simp [sinceClear, h]

theorem lastWritten_append (changes : List ContextChange) (change : ContextChange) :
    lastWritten written? (changes ++ [change]) =
      if change.isClear then none else (written? change).or (lastWritten written? changes) := by
  unfold lastWritten
  rw [sinceClear_append]
  cases change.isClear <;> cases h : written? change <;> simp [h]

/-- What was done before the context was cleared does not count. -/
theorem sinceClear_append_clear (before suffix : List ContextChange) :
    sinceClear (before ++ .clear :: suffix) = sinceClear suffix := by
  induction suffix using List.reverseRecOn with
  | nil => exact sinceClear_append before .clear
  | append_singleton suffix change ih =>
    have hsplit : before ++ .clear :: (suffix ++ [change]) =
        (before ++ .clear :: suffix) ++ [change] := by simp
    rw [hsplit, sinceClear_append, sinceClear_append, ih]

end

/-! ## What a context is -/

namespace ContextHistory

/-- What each change keeps, resets when it clears, or replaces by what it writes is what was
written last. -/
theorem value_after {β γ : Type} (value : ContextHistory → γ)
    {written? : ContextChange → Option β} {store : β → γ} {reset : γ}
    (hstep : ∀ h change, value (h.apply change) =
      if change.isClear then reset else (written? change).elim (value h) store)
    (ctx : TenantContext) (changes : List ContextChange) :
    value (after ctx changes) =
      (lastWritten written? changes).elim
        (if changes.any ContextChange.isClear then reset else value (start ctx)) store := by
  induction changes using List.reverseRecOn with
  | nil => rfl
  | append_singleton changes change ih =>
    have hlast : after ctx (changes ++ [change]) = (after ctx changes).apply change :=
      after_append ctx changes [change]
    rw [hlast, hstep, lastWritten_append, ih]
    by_cases hclear : change.isClear = true
    · simp [hclear]
    · cases hwritten : written? change <;> simp [hclear]

theorem companies_apply (h : ContextHistory) (change : ContextChange) :
    (h.apply change).context.companies =
      if change.isClear then [] else change.listed?.elim h.context.companies List.eraseDups := by
  cases change with
  | setCompanies ids => exact distinct_eq_eraseDups ids
  | _ => rfl

theorem superAdmin_apply (h : ContextHistory) (change : ContextChange) :
    (h.apply change).context.superAdmin =
      if change.isClear then false else change.flag?.elim h.context.superAdmin id := by
  cases change <;> rfl

theorem companies_after (ctx : TenantContext) (changes : List ContextChange) :
    (after ctx changes).context.companies =
      (lastWritten ContextChange.listed? changes).elim
        (if changes.any ContextChange.isClear then [] else ctx.companies) List.eraseDups :=
  value_after (fun h => h.context.companies) companies_apply ctx changes

theorem superAdmin_after (ctx : TenantContext) (changes : List ContextChange) :
    (after ctx changes).context.superAdmin =
      (lastWritten ContextChange.flag? changes).getD
        (if changes.any ContextChange.isClear then false else ctx.superAdmin) := by
  rw [value_after (fun h => h.context.superAdmin) superAdmin_apply]
  cases lastWritten ContextChange.flag? changes <;> rfl

/-- Nothing is left of what was there before the context was cleared. -/
theorem context_after_clear (ctx other : TenantContext)
    (before before' suffix : List ContextChange) :
    (after ctx (before ++ .clear :: suffix)).context =
      (after other (before' ++ .clear :: suffix)).context := by
  have hcleared : ∀ before, (before ++ .clear :: suffix).any ContextChange.isClear = true := by
    simp [ContextChange.isClear]
  rw [TenantContext.mk.injEq]
  simp only [companies_after, superAdmin_after, lastWritten, sinceClear_append_clear, hcleared,
    if_true, and_self]

/-! ## Snapshots -/

/-- A change may add a snapshot, of the list that the context has then, and leaves those that are
there as they are. -/
theorem snapshots_after (ctx : TenantContext) (before suffix : List ContextChange) :
    ∃ newer, (after ctx (before ++ suffix)).snapshots = newer ++ (after ctx before).snapshots ∧
      ∀ taken ∈ newer, .takeSnapshot taken.1 ∈ suffix := by
  induction suffix using List.reverseRecOn with
  | nil => exact ⟨[], by simp, by simp⟩
  | append_singleton suffix change ih =>
    obtain ⟨newer, hnewer, hnames⟩ := ih
    rw [← List.append_assoc, after_append ctx (before ++ suffix)]
    cases change with
    | takeSnapshot name =>
      refine ⟨(name, (after ctx (before ++ suffix)).context.companies) :: newer, ?_, ?_⟩
      · exact congrArg (_ :: ·) hnewer
      · simp only [List.forall_mem_cons, List.mem_append]
        exact ⟨.inr (by simp), fun taken htaken => .inl (hnames taken htaken)⟩
    | _ => exact ⟨newer, hnewer, fun taken htaken => List.mem_append_left _ (hnames taken htaken)⟩

/-- What is taken stays between what was taken before and what is taken later. -/
theorem snapshots_after_taken (ctx : TenantContext) (before : List ContextChange) (name : String)
    (suffix : List ContextChange) :
    ∃ newer, (after ctx (before ++ .takeSnapshot name :: suffix)).snapshots =
        newer ++ (name, (after ctx before).context.companies) :: (after ctx before).snapshots ∧
      ∀ taken ∈ newer, .takeSnapshot taken.1 ∈ suffix := by
  have hsplit : before ++ .takeSnapshot name :: suffix =
      (before ++ [.takeSnapshot name]) ++ suffix := by simp
  have htaken : (after ctx (before ++ [.takeSnapshot name])).snapshots =
      (name, (after ctx before).context.companies) :: (after ctx before).snapshots := by
    rw [after_append]
    rfl
  rw [hsplit, ← htaken]
  exact snapshots_after ctx (before ++ [.takeSnapshot name]) suffix

/-- A snapshot is found under its name until another one is taken under it. -/
theorem snapshot?_after (ctx : TenantContext) (before : List ContextChange) {name : String}
    {suffix : List ContextChange} (h : .takeSnapshot name ∉ suffix) :
    (after ctx (before ++ .takeSnapshot name :: suffix)).snapshot? name =
      some (after ctx before).context.companies := by
  obtain ⟨newer, hnewer, hnames⟩ := snapshots_after_taken ctx before name suffix
  have hother : newer.lookup name = none := by
    rw [List.lookup_eq_none_iff]
    intro taken htaken
    rw [bne_iff_ne]
    rintro rfl
    exact h (hnames taken htaken)
  rw [snapshot?, hnewer, List.lookup_append, hother]
  simp

end ContextHistory

/-- A context after some changes is told by its last writes. Its list is that of the last change of
the companies since it was cleared, each company where it comes first, and has the companies that
were given and no others; its flag is the last one that was set since then. What was not written
since then is that of an empty context if it was cleared, and that of the first context if not.
Contexts that are cleared and then changed alike are equal, whatever was before, so they see the
same and ask for the same. A snapshot keeps the list that the context had when it was taken. All of
this can be read as well where lists are shared and repetitions are found by a hash set. -/
theorem contexts_are_their_last_writes (ctx : TenantContext) (changes : List ContextChange) :
    let h := ContextHistory.after ctx changes
    let list? := lastWritten ContextChange.listed? changes
    let flag? := lastWritten ContextChange.flag? changes
    let cleared := changes.any ContextChange.isClear
    let shared := SharedHistory.after ctx changes
    (h.context.companies.Nodup ∧
      h.context.companies = list?.elim (if cleared then [] else ctx.companies) List.eraseDups ∧
      ∀ ids, list? = some ids → ∀ id, id ∈ h.context.companies ↔ id ∈ ids) ∧
    h.context.superAdmin = flag?.getD (if cleared then false else ctx.superAdmin) ∧
    (∀ (other : TenantContext) (before before' suffix : List ContextChange),
      let a := (ContextHistory.after ctx (before ++ .clear :: suffix)).context
      let b := (ContextHistory.after other (before' ++ .clear :: suffix)).context
      a = b ∧ (∀ owner, a.canSee owner = b.canSee owner) ∧ a.scope = b.scope) ∧
    (∀ before name suffix, changes = before ++ .takeSnapshot name :: suffix →
      let past := ContextHistory.after ctx before
      (∃ newer, h.snapshots = newer ++ (name, past.context.companies) :: past.snapshots) ∧
      (.takeSnapshot name ∉ suffix → h.snapshot? name = some past.context.companies)) ∧
    shared.companies = h.context.companies ∧ shared.superAdmin = h.context.superAdmin ∧
      shared.taken = h.snapshots := by
  intro h list? flag? cleared shared
  have hlist : h.context.companies =
      list?.elim (if cleared then [] else ctx.companies) List.eraseDups :=
    ContextHistory.companies_after ctx changes
  have hshared : shared.Shows h := .after ctx changes
  refine ⟨⟨h.context.unrepeated, hlist, ?members⟩, ContextHistory.superAdmin_after ctx changes,
    ?residue, ?snapshots, hshared.companies, hshared.superAdmin, hshared.taken⟩
  case members =>
    intro ids hids id
    rw [hlist, hids]
    exact List.mem_eraseDups
  case residue =>
    intro other before before' suffix a b
    have hsame : a = b := ContextHistory.context_after_clear ctx other before before' suffix
    exact ⟨hsame, fun owner => by rw [hsame], by rw [hsame]⟩
  case snapshots =>
    rintro before name suffix rfl past
    obtain ⟨newer, hnewer, -⟩ := ContextHistory.snapshots_after_taken ctx before name suffix
    exact ⟨⟨newer, hnewer⟩, ContextHistory.snapshot?_after ctx before⟩

/-- A super administrator's context is cleared after a snapshot, and two companies are listed, one
of them twice. -/
theorem contexts_are_their_last_writes_after_clear :
    let a : CompanyId := ⟨"A", by decide, by decide⟩
    let b : CompanyId := ⟨"B", by decide, by decide⟩
    let ctx : TenantContext := .make [b] true
    let suffix : List ContextChange := [.clear, .setSuperAdmin false, .setCompanies [b, a, b]]
    let changes := [.setCompanies [a, a], .takeSnapshot "s"] ++ suffix
    let h := ContextHistory.after ctx changes
    lastWritten ContextChange.listed? changes = some [b, a, b] ∧
      h.context.companies = [b, a] ∧ (∀ id, id ∈ h.context.companies ↔ id ∈ [b, a, b]) ∧
      h.context.superAdmin = false ∧ h.snapshot? "s" = some [a] ∧
      (SharedHistory.after ctx changes).companies = [b, a] := by
  intro a b ctx suffix changes h
  obtain ⟨⟨-, hlist, hmembers⟩, hflag, -, hsnapshot, hshared, -⟩ :=
    contexts_are_their_last_writes ctx changes
  have hboth : h.context.companies = [b, a] := hlist.trans (by decide)
  have hlater : .takeSnapshot "s" ∉ suffix := by simp [suffix]
  obtain ⟨-, htaken⟩ := hsnapshot [.setCompanies [a, a]] "s" suffix rfl
  exact ⟨rfl, hboth, hmembers _ rfl, hflag.trans rfl, (htaken hlater).trans (by decide),
    hshared.trans hboth⟩

end RentalGuard
