import RentalGuard.Tenancy.SharedLists

/-! # Sharing a list shows nowhere

A snapshot that shares its list with the context is read as if it had been copied, since no list
changes after it has been made. What can be read of the shared lists is followed along the changes.
The filter that remembers what it has seen keeps the same items as `RentalGuard.distinct`.
-/

namespace RentalGuard

/-- What the set has seen is left out of the items without repetitions. -/
theorem keepUnseen_eq {α : Type} [DecidableEq α] [Hashable α] (items : List α)
    (seen : Std.HashSet α) :
    keepUnseen seen items = (distinct items).filter fun a => !seen.contains a := by
  induction items generalizing seen with
  | nil => rfl
  | cons a rest ih =>
    have hnext : (fun b => !(seen.insert a).contains b) =
        fun b => !seen.contains b && decide (b ≠ a) := by
      funext b
      by_cases hb : b = a
      · simp [hb]
      · simp [Std.HashSet.contains_insert, hb, Ne.symm hb]
    simp only [keepUnseen, distinct, Std.HashSet.containsThenInsert_fst,
      Std.HashSet.containsThenInsert_snd, ih, hnext, List.filter_cons, List.filter_filter]
    cases seen.contains a <;> rfl

theorem keepUnseen_empty {α : Type} [DecidableEq α] [Hashable α] (items : List α) :
    keepUnseen ∅ items = distinct items := by
  simp [keepUnseen_eq]

namespace SharedHistory

variable {h : SharedHistory} {g : ContextHistory}

/-! ## Reading lists -/

/-- Making a list leaves the others as they are. -/
theorem read_make {n : Nat} (hn : n < h.lists.length) (ids : List CompanyId) :
    (h.make ids).read n = h.read n := by
  simp [read, make, List.getD_eq_getElem?_getD, List.getElem?_append_left hn]

theorem companies_make (h : SharedHistory) (ids : List CompanyId) :
    (h.make ids).companies = ids := by
  simp [companies, make, read]

/-! ## What can be read -/

/-- Whether a history with shared lists reads as one with lists of its own. Every number that it
has is that of a list. -/
structure Shows (h : SharedHistory) (g : ContextHistory) : Prop where
  current_lt : h.current < h.lists.length
  snapshots_lt : ∀ snapshot ∈ h.snapshots, snapshot.2 < h.lists.length
  companies : h.companies = g.context.companies
  superAdmin : h.superAdmin = g.context.superAdmin
  taken : h.taken = g.snapshots

namespace Shows

theorem start (ctx : TenantContext) : (start ctx).Shows (.start ctx) :=
  ⟨Nat.zero_lt_one, by simp [SharedHistory.start], rfl, rfl, rfl⟩

theorem taken_make (hs : h.Shows g) (ids : List CompanyId) : (h.make ids).taken = g.snapshots := by
  rw [← hs.taken]
  exact List.map_congr_left fun snapshot hmem =>
    congrArg (snapshot.1, ·) (read_make (hs.snapshots_lt snapshot hmem) ids)

/-- The context gets a new list, and the snapshots keep theirs. -/
theorem make (hs : h.Shows g) {ids : List CompanyId} {superAdmin : Bool} {ctx : TenantContext}
    (hids : ids = ctx.companies) (hflag : superAdmin = ctx.superAdmin) :
    ({ h.make ids with superAdmin } : SharedHistory).Shows { g with context := ctx } where
  current_lt := by simp [SharedHistory.make]
  snapshots_lt snapshot hmem := by
    have hlt := hs.snapshots_lt snapshot hmem
    simp only [SharedHistory.make, List.length_append]
    omega
  companies := (companies_make h ids).trans hids
  superAdmin := hflag
  taken := hs.taken_make ids

theorem apply (hs : h.Shows g) (change : ContextChange) :
    (h.apply change).Shows (g.apply change) := by
  cases change with
  | setCompanies ids => exact hs.make (keepUnseen_empty ids) hs.superAdmin
  | setSuperAdmin superAdmin =>
    exact ⟨hs.current_lt, hs.snapshots_lt, hs.companies, rfl, hs.taken⟩
  | clear => exact hs.make rfl rfl
  | takeSnapshot name =>
    refine ⟨hs.current_lt, List.forall_mem_cons.mpr ⟨hs.current_lt, hs.snapshots_lt⟩,
      hs.companies, hs.superAdmin, ?_⟩
    exact congrArg₂ (fun ids rest => (name, ids) :: rest) hs.companies hs.taken

theorem foldl_apply (hs : h.Shows g) (changes : List ContextChange) :
    (changes.foldl SharedHistory.apply h).Shows (changes.foldl ContextHistory.apply g) := by
  induction changes generalizing h g with
  | nil => exact hs
  | cons change rest ih => exact ih (hs.apply change)

theorem after (ctx : TenantContext) (changes : List ContextChange) :
    (after ctx changes).Shows (.after ctx changes) :=
  (start ctx).foldl_apply changes

end Shows

end SharedHistory

end RentalGuard
