import RentalGuard.Proofs.Tenancy.QueryFilter
import RentalGuard.Tenancy.Records
import RentalGuard.Tenancy.Session

/-! # A session carries its context

The companies of a context are written with commas between them, and since no identifier is empty
or has a comma, the database reads the same companies back. The row policy then lets through what
the context sees. -/

namespace RentalGuard

open Json

/-! ## Identifiers in JSON -/

theorem CompanyId.ofJson?_eq_some_iff {v : Json} {id : CompanyId} :
    CompanyId.ofJson? v = some id ↔ ∃ raw, v = string raw ∧ id.text = Text.trimmed raw := by
  cases v with
  | string raw =>
    have hj : CompanyId.ofJson? (string raw) = (CompanyId.parse raw).toOption := by
      have ht : (string raw).text? = some raw := rfl
      unfold CompanyId.ofJson?
      rw [ht, Option.bind_eq_bind, Option.bind_some]
    constructor
    · intro h
      rw [hj] at h
      cases hp : CompanyId.parse raw with
      | error e =>
        rw [hp] at h
        cases h
      | ok a =>
        rw [hp] at h
        cases h
        exact ⟨raw, rfl, CompanyId.parse_eq_ok_iff.mp hp⟩
    · rintro ⟨_, hr, ht⟩
      cases hr
      rw [hj, CompanyId.parse_eq_ok_iff.mpr ht]
      rfl
  | _ =>
    constructor
    · intro h
      cases h
    · rintro ⟨_, hr, _⟩
      cases hr

theorem CompanyId.mapM_ofJson? {items : List Json} : ∀ {ids : List CompanyId},
    items.mapM CompanyId.ofJson? = some ids →
      ∃ raws : List String, items = raws.map string ∧ ids.map (·.text) = raws.map Text.trimmed := by
  induction items with
  | nil =>
    intro ids h
    cases h
    exact ⟨[], rfl, rfl⟩
  | cons v rest ih =>
    intro ids h
    rw [List.mapM_cons] at h
    obtain ⟨id, hid, h⟩ := Option.bind_eq_some_iff.mp h
    obtain ⟨others, ho, h⟩ := Option.bind_eq_some_iff.mp h
    cases h
    obtain ⟨raw, rfl, ht⟩ := CompanyId.ofJson?_eq_some_iff.mp hid
    obtain ⟨raws, rfl, hts⟩ := ih ho
    exact ⟨raw :: raws, rfl, by rw [List.map_cons, List.map_cons, ht, hts]⟩

/-- The companies of claims are the texts of an array, trimmed. -/
theorem TenantClaims.ofJson?_companies {v : Json} {claims : TenantClaims}
    (h : TenantClaims.ofJson? v = some claims) :
    ∃ (raws : List String) (roles : Field),
      record? ["companies", "roles"] v = some [.present (array (raws.map string)), roles] ∧
      claims.companies.map (·.text) = raws.map Text.trimmed := by
  unfold TenantClaims.ofJson? at h
  obtain ⟨fields, hf, h⟩ := Option.bind_eq_some_iff.mp h
  split at h
  · rename_i companies roles
    obtain ⟨ids, hids, h⟩ := Option.bind_eq_some_iff.mp h
    obtain ⟨names, -, h⟩ := Option.bind_eq_some_iff.mp h
    cases h
    cases companies with
    | present value =>
      cases value with
      | array items =>
        obtain ⟨raws, rfl, ht⟩ := CompanyId.mapM_ofJson? hids
        exact ⟨raws, roles, hf, ht⟩
      | _ => cases hids
    | _ => cases hids
  · cases h

namespace SessionSettings

/-! ## The setting -/

theorem separator_notMem (id : CompanyId) : separator ∉ id.text.toList := by
  intro h
  have hc := List.all_eq_true.mp id.chars separator h
  revert hc
  decide

theorem companies_ofContext (ctx : TenantContext) :
    (ofContext ctx).companies = ctx.companyNames := by
  have hs : ∀ p ∈ ctx.companyNames.map String.toList, separator ∉ p := by
    intro p hp
    obtain ⟨name, hn, rfl⟩ := List.mem_map.mp hp
    obtain ⟨id, -, rfl⟩ := List.mem_map.mp hn
    exact separator_notMem id
  unfold companies ofContext
  rw [String.toList_ofList]
  cases hc : ctx.companies with
  | nil => simp [TenantContext.companyNames, hc, Text.joined]
  | cons first rest =>
    have hne : ctx.companyNames.map String.toList ≠ [] := by
      simp [TenantContext.companyNames, hc]
    have hj : Text.joined separator (ctx.companyNames.map String.toList) ≠ [] := by
      simp only [TenantContext.companyNames, hc, List.map_cons]
      exact Text.joined_ne_nil first.nonempty
    rw [if_neg (by simpa using hj), Text.parts_joined hne hs, List.map_map]
    simp

/-- The flag as the database has it. -/
def superAdminText (settings : SessionSettings) : String :=
  if settings.superAdmin then "true" else "false"

/-- The truth of the row policy for a row: the flag is set, the row has no owner, or the owner is
one of the companies. -/
def policy (settings : SessionSettings) (cell : Option String) : Sql.Truth :=
  (Sql.Truth.either (some (settings.superAdminText == "true")) (some cell.isNone)).either
    (cell.map settings.companies.contains)

theorem policy_eq_true_iff (settings : SessionSettings) (cell : Option String) :
    settings.policy cell = some true ↔ settings.admits cell = true := by
  unfold policy admits superAdminText
  cases settings.superAdmin with
  | true => cases cell <;> simp [Sql.Truth.either]
  | false =>
    cases cell with
    | none => simp [Sql.Truth.either]
    | some company =>
      simp only [Option.map_some, Bool.false_or]
      cases settings.companies.contains company <;> simp [Sql.Truth.either]

theorem admits_ofContext (ctx : TenantContext) (owner : Option CompanyId) :
    (ofContext ctx).admits (owner.map (·.text)) = ctx.canSee owner := by
  have hflag : (ofContext ctx).superAdmin = ctx.superAdmin := rfl
  unfold admits
  rw [companies_ofContext, hflag]
  cases owner with
  | none => exact Bool.or_true _
  | some id =>
    rw [Option.map_some, TenantContext.companyNames]
    simp only [contains_text]
    rfl

end SessionSettings

end RentalGuard
