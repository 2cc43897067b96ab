import RentalGuard.Tenancy.Claims

/-! # Claims grant what they state

A bearer sees the shared records, those of the companies in the claims, and everything if a role
names a super administrator. Roles come from outside as any text: the test on characters and the
test on bytes agree on all of them, and no cut goes through a character.
-/

namespace RentalGuard

open Text

namespace TenantClaims

/-! ## The case of a role -/

theorem upperAscii_eq_upperAscii_iff {a b : List Char} :
    upperAscii a = upperAscii b ↔ sameLetters a b := by
  rw [sameLetters, beq_iff_eq]
  unfold upperAscii
  induction a generalizing b with
  | nil => cases b <;> simp
  | cons c rest ih =>
    cases b with
    | nil => simp
    | cons d others => simp [toUpper_eq_toUpper_iff, ih]

theorem upperAscii_eq_superAdminRole_iff {cs : List Char} :
    upperAscii cs = superAdminRole ↔ sameLetters cs superAdminRole :=
  upperAscii_eq_upperAscii_iff (b := superAdminRole)

theorem upperAscii_eq_roleMark_iff {cs : List Char} :
    upperAscii cs = roleMark ↔ sameLetters cs roleMark :=
  upperAscii_eq_upperAscii_iff (b := roleMark)

/-- A text that starts with the mark, in any case, is the mark and the rest. -/
theorem roleMark_isPrefixOf_iff {cs : List Char} : roleMark.isPrefixOf (upperAscii cs) ↔
    ∃ mark rest, cs = mark ++ rest ∧ sameLetters mark roleMark := by
  rw [List.isPrefixOf_iff_prefix]
  constructor
  · rintro ⟨others, h⟩
    obtain ⟨mark, rest, rfl, hmark, -⟩ := List.map_eq_append_iff.mp h.symm
    exact ⟨mark, rest, rfl, upperAscii_eq_roleMark_iff.mp hmark⟩
  · rintro ⟨mark, rest, rfl, h⟩
    refine ⟨upperAscii rest, ?_⟩
    rw [← upperAscii_eq_roleMark_iff.mpr h]
    exact List.map_append.symm

/-- The characters of a role after its mark, if it has one. -/
def unmarked (cs : List Char) : List Char :=
  if roleMark.isPrefixOf (upperAscii cs) then cs.drop roleMark.length else cs

theorem unmarked_append {mark rest : List Char} (h : sameLetters mark roleMark) :
    unmarked (mark ++ rest) = rest := by
  rw [unmarked, if_pos (roleMark_isPrefixOf_iff.mpr ⟨mark, rest, rfl, h⟩)]
  exact List.drop_left' (sameLetters.length_eq h)

theorem isSuperAdminRole_iff_unmarked {role : String} :
    isSuperAdminRole role ↔ sameLetters (unmarked (trim role.toList)) superAdminRole := by
  have hdrop : ∀ cs : List Char,
      upperAscii (cs.drop roleMark.length) = (upperAscii cs).drop roleMark.length :=
    fun _ => List.map_drop
  rw [← upperAscii_eq_superAdminRole_iff, unmarked, apply_ite upperAscii, hdrop]
  exact beq_iff_eq

/-! ## Cuts -/

/-- The cut succeeds. It takes the mark off, if there is one. -/
theorem withoutMark?_eq (role : String) :
    withoutMark? role = some (String.ofList (unmarked role.toList)) := by
  by_cases h : roleMark.isPrefixOf (upperAscii role.toList) = true
  · obtain ⟨mark, rest, hrole, hmark⟩ := roleMark_isPrefixOf_iff.mp h
    have hascii : ∀ c ∈ mark, c.toNat < 128 := fun c hc =>
      isAscii_of_isVisible (sameLetters.forall_isVisible hmark (by decide) c hc)
    have hcut : cut? role 5 = some (String.ofList mark, String.ofList rest) := by
      rw [cut?_eq_some_iff, utf8ByteSize_ofList hascii, ← String.ofList_append, ← hrole,
        String.ofList_toList]
      exact ⟨rfl, sameLetters.length_eq hmark⟩
    have hstart : (before? role 5).filter (fun start => sameLetters start.toList roleMark) =
        some (String.ofList mark) := by
      rw [before?, hcut, Option.map_some]
      exact Option.filter_some_pos (by rwa [String.toList_ofList])
    rw [withoutMark?, hstart, after?, hcut, hrole, unmarked_append hmark]
    rfl
  · have hnone : (before? role 5).filter (fun start => sameLetters start.toList roleMark) =
        none := by
      rw [Option.filter_eq_none_iff]
      intro start hstart hmark
      obtain ⟨⟨t, u⟩, hcut, rfl⟩ := Option.map_eq_some_iff.mp hstart
      obtain ⟨rfl, -⟩ := cut?_eq_some_iff.mp hcut
      exact h (roleMark_isPrefixOf_iff.mpr ⟨t.toList, u.toList, String.toList_append, hmark⟩)
    rw [withoutMark?, hnone, unmarked, if_neg h, String.ofList_toList]

/-- Every role can be read from its bytes, with the same result. -/
theorem readRole?_eq (role : String) : readRole? role = some (isSuperAdminRole role) := by
  rw [readRole?, withoutMark?_eq, toList_trimmed, Option.map_some, String.toList_ofList]
  exact congrArg some (Bool.eq_iff_iff.mpr isSuperAdminRole_iff_unmarked.symm)

/-- The fifth byte may be inside a character. -/
example : before? "ROLEé" 5 = none ∧ readRole? "ROLEé" = some false := by decide

/-! ## Roles that name a super administrator -/

/-- The role is the name of a super administrator's role, marked or not. Only blanks stand around
the name, and only ASCII letters may be in another case. -/
def NamesSuperAdmin (role : String) : Prop :=
  ∃ before name after, role.toList = before ++ name ++ after ∧
    (∀ c ∈ before, isBlank c) ∧ (∀ c ∈ after, isBlank c) ∧
    (sameLetters name "SUPER_ADMIN".toList ∨ sameLetters name "ROLE_SUPER_ADMIN".toList)

theorem sameLetters_unmarked_iff {cs : List Char} : sameLetters (unmarked cs) superAdminRole ↔
    sameLetters cs "SUPER_ADMIN".toList ∨ sameLetters cs "ROLE_SUPER_ADMIN".toList := by
  have hmarked : "ROLE_SUPER_ADMIN".toList = roleMark ++ superAdminRole := by decide
  by_cases h : roleMark.isPrefixOf (upperAscii cs) = true
  · obtain ⟨mark, rest, rfl, hmark⟩ := roleMark_isPrefixOf_iff.mp h
    have hplain : ¬ sameLetters (mark ++ rest) superAdminRole := by
      rw [← upperAscii_eq_superAdminRole_iff]
      intro hs
      rw [hs] at h
      exact absurd h (by decide)
    rw [unmarked_append hmark, hmarked, sameLetters.append_iff hmark]
    exact ⟨.inr, fun hs => hs.resolve_left hplain⟩
  · rw [unmarked, if_neg h]
    refine ⟨.inl, fun hs => hs.resolve_right fun hs => h ?_⟩
    rw [hmarked, ← upperAscii_eq_upperAscii_iff] at hs
    rw [hs]
    decide

theorem forall_isVisible_of_name {cs : List Char}
    (h : sameLetters cs "SUPER_ADMIN".toList ∨ sameLetters cs "ROLE_SUPER_ADMIN".toList) :
    ∀ c ∈ cs, isVisible c := by
  rcases h with h | h
  · exact sameLetters.forall_isVisible h (by decide)
  · exact sameLetters.forall_isVisible h (by decide)

theorem isSuperAdminRole_iff {role : String} : isSuperAdminRole role ↔ NamesSuperAdmin role := by
  rw [isSuperAdminRole_iff_unmarked, sameLetters_unmarked_iff]
  constructor
  · intro h
    obtain ⟨before, after, hrole, hbefore, hafter⟩ := exists_padded_trim role.toList
    exact ⟨before, trim role.toList, after, hrole, hbefore, hafter, h⟩
  · rintro ⟨before, name, after, hrole, hbefore, hafter, h⟩
    have hvisible : ∀ c ∈ name, isBlank c = false := fun c hc =>
      isBlank_of_isVisible (forall_isVisible_of_name h c hc)
    have htrim : trim role.toList = name := by
      rw [hrole]
      exact trim_padded hbefore hafter (fun c hc => hvisible c (List.mem_of_head? hc))
        fun c hc => hvisible c (List.mem_of_getLast? hc)
    rw [htrim]
    exact h

/-- Nothing that merely looks like the name counts as it. -/
theorem NamesSuperAdmin.ascii {role : String} (h : NamesSuperAdmin role) :
    ∀ c ∈ role.toList, isBlank c ∨ c.toNat < 128 := by
  obtain ⟨before, name, after, hrole, hbefore, hafter, h⟩ := h
  intro c hc
  rw [hrole, List.mem_append, List.mem_append] at hc
  rcases hc with (hc | hc) | hc
  · exact .inl (hbefore c hc)
  · exact .inr (isAscii_of_isVisible (forall_isVisible_of_name h c hc))
  · exact .inl (hafter c hc)

/-- The name of the role follows its mark at once. -/
theorem not_namesSuperAdmin_of_between {before mark between name after : List Char}
    (hbefore : ∀ c ∈ before, isBlank c) (hmark : sameLetters mark roleMark)
    (hbetween : between ≠ []) (hname : sameLetters name superAdminRole)
    (hafter : ∀ c ∈ after, isBlank c) :
    ¬ NamesSuperAdmin (String.ofList (before ++ (mark ++ between ++ name) ++ after)) := by
  have hnameLength : name.length = 11 := sameLetters.length_eq hname
  have hhead : ∀ c ∈ (mark ++ between ++ name).head?, isBlank c = false := by
    have hne : mark ≠ [] := List.ne_nil_of_length_pos (sameLetters.length_eq hmark ▸ by decide)
    intro c hc
    rw [List.append_assoc, List.head?_append, List.head?_eq_some_head hne, Option.some_or] at hc
    cases hc
    exact isBlank_of_isVisible
      (sameLetters.forall_isVisible hmark (by decide) _ (List.head_mem hne))
  have hlast : ∀ c ∈ (mark ++ between ++ name).getLast?, isBlank c = false := by
    have hne : name ≠ [] := List.ne_nil_of_length_pos (hnameLength ▸ by decide)
    intro c hc
    rw [List.getLast?_append, List.getLast?_eq_some_getLast hne, Option.some_or] at hc
    cases hc
    exact isBlank_of_isVisible
      (sameLetters.forall_isVisible hname (by decide) _ (List.getLast_mem hne))
  -- the rest after the mark is longer than the name
  rw [← isSuperAdminRole_iff, isSuperAdminRole_iff_unmarked, String.toList_ofList,
    trim_padded hbefore hafter hhead hlast, List.append_assoc, unmarked_append hmark]
  intro h
  have hlength : (between ++ name).length = 11 := sameLetters.length_eq h
  rw [List.length_append, hnameLength] at hlength
  exact hbetween (List.eq_nil_of_length_eq_zero (by omega))

end TenantClaims

open TenantClaims

/-! ## What claims grant -/

theorem TenantClaims.canSee_toContext_iff {claims : TenantClaims} {company : Option CompanyId} :
    claims.toContext.canSee company ↔ company = none ∨
      (∃ id ∈ claims.companies, company = some id) ∨
      ∃ role ∈ claims.roles, NamesSuperAdmin role := by
  have hroles : claims.isSuperAdmin ↔ ∃ role ∈ claims.roles, NamesSuperAdmin role := by
    simp [isSuperAdmin, isSuperAdminRole_iff]
  cases company with
  | none => simp [TenantContext.canSee]
  | some id =>
    have hsee : claims.toContext.canSee (some id) ↔
        claims.isSuperAdmin ∨ id ∈ distinct claims.companies := by
      rw [TenantContext.canSee, Bool.or_eq_true, List.contains_iff_mem]
      exact Iff.rfl
    rw [hsee, hroles, mem_distinct]
    simp [or_comm]

theorem TenantClaims.canSee_toContext_mono {claims more : TenantClaims}
    (hcompanies : claims.companies ⊆ more.companies) (hroles : claims.roles ⊆ more.roles)
    {company : Option CompanyId} (h : claims.toContext.canSee company) :
    more.toContext.canSee company := by
  rw [canSee_toContext_iff] at h ⊢
  rcases h with h | ⟨id, hid, h⟩ | ⟨role, hrole, h⟩
  · exact .inl h
  · exact .inr (.inl ⟨id, hcompanies hid, h⟩)
  · exact .inr (.inr ⟨role, hroles hrole, h⟩)

/-- Claims grant exactly what they state: the shared records, those of the companies they list, and
everything if a role names a super administrator. Whatever a role is, reading its bytes makes no cut
inside a character. Letters that are not ASCII are in no name of a super administrator, and nothing
stands between the mark and the name, be it a blank or the mark once more. Further companies and
roles take nothing away. -/
theorem claims_grant_what_they_state (claims : TenantClaims) :
    (∀ company, claims.toContext.canSee company ↔ company = none ∨
      (∃ id ∈ claims.companies, company = some id) ∨
      ∃ role ∈ claims.roles, NamesSuperAdmin role) ∧
    (∀ role, readRole? role = some (isSuperAdminRole role)) ∧
    (∀ role, NamesSuperAdmin role → ∀ c ∈ role.toList, isBlank c ∨ c.toNat < 128) ∧
    (∀ before mark between name after : List Char, (∀ c ∈ before, isBlank c) →
      sameLetters mark roleMark → between ≠ [] → sameLetters name superAdminRole →
      (∀ c ∈ after, isBlank c) →
      ¬ NamesSuperAdmin (String.ofList (before ++ (mark ++ between ++ name) ++ after))) ∧
    ∀ more : TenantClaims, claims.companies ⊆ more.companies → claims.roles ⊆ more.roles →
      ∀ company, claims.toContext.canSee company → more.toContext.canSee company := by
  refine ⟨?states, ?reads, ?ascii, ?together, ?mono⟩
  case states =>
    exact fun company => canSee_toContext_iff
  case reads =>
    exact readRole?_eq
  case ascii =>
    exact fun role h => h.ascii
  case together =>
    intro before mark between name after hbefore hmark hbetween hname hafter
    exact not_namesSuperAdmin_of_between hbefore hmark hbetween hname hafter
  case mono =>
    intro more hcompanies hroles company h
    exact canSee_toContext_mono hcompanies hroles h

/-- A company that is listed twice, further claims with a role in mixed case and a blank after it,
and a mark that stands twice. -/
theorem claims_grant_what_they_state_to_padded_role :
    let id : CompanyId := ⟨"A", by decide, by decide⟩
    let other : CompanyId := ⟨"B", by decide, by decide⟩
    let claims : TenantClaims := ⟨[id, id], ["ROLE_USER"]⟩
    let more : TenantClaims := ⟨[id], ["role_Super_Admin\u3000", "ROLE_USER"]⟩
    claims.companies ⊆ more.companies ∧ claims.roles ⊆ more.roles ∧
      claims.toContext.canSee (some id) ∧ more.toContext.canSee (some id) ∧
      more.toContext.canSee (some other) ∧
      ¬ NamesSuperAdmin (String.ofList ([] ++ ("ROLE_".toList ++ "ROLE_".toList ++
        "SUPER_ADMIN".toList) ++ [])) := by
  intro id other claims more
  have hcompanies : claims.companies ⊆ more.companies := by simp [claims, more]
  have hroles : claims.roles ⊆ more.roles := by simp [claims, more]
  obtain ⟨hsee, -, -, htogether, hmono⟩ := claims_grant_what_they_state claims
  have hlisted : claims.toContext.canSee (some id) :=
    (hsee _).mpr (.inr (.inl ⟨id, List.mem_cons_self, rfl⟩))
  have hnamed : NamesSuperAdmin "role_Super_Admin\u3000" :=
    ⟨[], "role_Super_Admin".toList, ['\u3000'], by decide, by simp, by simp [isBlank],
      .inr (by decide)⟩
  have hother : more.toContext.canSee (some other) :=
    ((claims_grant_what_they_state more).1 _).mpr (.inr (.inr ⟨_, List.mem_cons_self, hnamed⟩))
  exact ⟨hcompanies, hroles, hlisted, hmono more hcompanies hroles _ hlisted, hother,
    htogether [] _ _ _ [] (by simp) (by decide) (by decide) (by decide) (by simp)⟩

end RentalGuard
