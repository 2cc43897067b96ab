import RentalGuard.Problem
import RentalGuard.Proofs.Json.Forms
import RentalGuard.Proofs.Tenancy.SessionPolicy

/-! # The JSON forms of identifiers, owners, owned values, claims and problems

Whatever is written is read back as it is, and whatever is read has identifiers that passed the
check. The one exception are owned values that cannot be read again, or not from their text.
-/

namespace RentalGuard

open Json

/-! ## Identifiers and owners -/

namespace CompanyId

def jsonForm : JsonForm CompanyId := ⟨toJson, ofJson?, fun id => [id]⟩

theorem ofJson?_toJson (id : CompanyId) : ofJson? id.toJson = some id :=
  ofJson?_eq_some_iff.mpr ⟨id.text, rfl, parse_eq_ok_iff.mp id.parse_text⟩

/-- An identifier is read from a text that passes the check. -/
theorem exists_of_ofJson? {v : Json} {id : CompanyId} (h : ofJson? v = some id) :
    ∃ raw, v = string raw ∧ parse raw = .ok id := by
  obtain ⟨raw, hraw, htext⟩ := ofJson?_eq_some_iff.mp h
  exact ⟨raw, hraw, parse_eq_ok_iff.mpr htext⟩

end CompanyId

namespace Ownership

def jsonForm : JsonForm Ownership := ⟨toJson, ofJson?, fun owner => owner.companyId?.toList⟩

theorem ofJson?_toJson (owner : Ownership) : ofJson? owner.toJson = some owner := by
  cases owner with
  | company id =>
    have hfields : record? ["kind", "company_id"] (company id).toJson =
        some [.present (string "company"), .present id.toJson] :=
      record?_object_all (show ["kind", "company_id"].Nodup by decide)
    have hkind : (Field.present (string "company")).required (kindName? (company id).toJson) =
        some "company" := rfl
    have howner : ofKind? "company" (.present id.toJson) = some (company id) := by
      simp [ofKind?, Field.required, id.ofJson?_toJson]
    unfold ofJson?
    rw [hfields]
    simp only [Option.bind_eq_bind, Option.bind_some, hkind, howner]
  | shared =>
    have hfields : record? ["kind", "company_id"] shared.toJson =
        some [.present (string "shared"), .absent] :=
      record?_object (show ["kind", "company_id"].Nodup by decide)
    unfold ofJson?
    rw [hfields]
    rfl

/-- The identifier of an owner is read from a text right inside the record. -/
theorem exists_of_ofJson? {v : Json} {owner : Ownership} (h : ofJson? v = some owner)
    {id : CompanyId} (hid : id ∈ owner.companyId?.toList) :
    ∃ raw, (string raw).Within v ∧ CompanyId.parse raw = .ok id := by
  rw [Option.mem_toList] at hid
  obtain ⟨fields, hfields, h⟩ := Option.bind_eq_some_iff.mp h
  split at h
  · rename_i kind company
    obtain ⟨name, -, h⟩ := Option.bind_eq_some_iff.mp h
    unfold ofKind? at h
    split at h
    · obtain ⟨other, hother, h⟩ := Option.bind_eq_some_iff.mp h
      cases h
      cases hid
      obtain ⟨w, rfl, hw⟩ := exists_of_required hother
      obtain ⟨raw, rfl, hparse⟩ := CompanyId.exists_of_ofJson? hw
      exact ⟨raw, .child (mem_children_of_record? hfields (by simp)) .self, hparse⟩
    · split at h
      · cases h
        cases hid
      · cases h
        cases hid
      · cases h
    · cases h
  · cases h

theorem legible_toJson (owner : Ownership) : owner.toJson.Every Legible := by
  cases owner <;> simp [toJson, CompanyId.toJson, Every, EveryField, Legible]

end Ownership

theorem CompanyId.jsonForm_faithful :
    CompanyId.jsonForm.Faithful (fun _ => True) (fun _ => True) := by
  refine JsonForm.faithful_of_lossless (fun id => id.ofJson?_toJson) (fun _ => trivial)
    fun v id h other hother => ?_
  obtain ⟨raw, rfl, hparse⟩ := CompanyId.exists_of_ofJson? h
  cases List.mem_singleton.mp hother
  exact ⟨raw, .self, hparse⟩

theorem Ownership.jsonForm_faithful :
    Ownership.jsonForm.Faithful (fun _ => True) (fun _ => True) :=
  JsonForm.faithful_of_lossless Ownership.ofJson?_toJson Ownership.legible_toJson
    fun _ _ h _ hid => Ownership.exists_of_ofJson? h hid

/-! ## Claims -/

namespace TenantClaims

def jsonForm : JsonForm TenantClaims := ⟨toJson, ofJson?, companies⟩

theorem ofJson?_toJson (claims : TenantClaims) : ofJson? claims.toJson = some claims := by
  have hfields : record? ["companies", "roles"] claims.toJson =
      some [.present (array (claims.companies.map CompanyId.toJson)),
        .present (array (claims.roles.map string))] :=
    record?_object_all (show ["companies", "roles"].Nodup by decide)
  have hroles : list? text? (array (claims.roles.map string)) = some claims.roles :=
    list?_map (fun role => (rfl : text? (string role) = some role)) claims.roles
  unfold ofJson?
  rw [hfields]
  simp only [Option.bind_eq_bind, Option.bind_some, Field.required,
    list?_map CompanyId.ofJson?_toJson, hroles]
  rfl

/-- The identifiers of claims are read from the texts of a list inside the record. -/
theorem exists_of_ofJson? {v : Json} {claims : TenantClaims} (h : ofJson? v = some claims)
    {id : CompanyId} (hid : id ∈ claims.companies) :
    ∃ raw, (string raw).Within v ∧ CompanyId.parse raw = .ok id := by
  obtain ⟨raws, roles, hfields, htexts⟩ := ofJson?_companies h
  have htext : id.text ∈ raws.map Text.trimmed := htexts ▸ List.mem_map_of_mem hid
  obtain ⟨raw, hraw, htrimmed⟩ := List.mem_map.mp htext
  have hlist : (string raw).Within (array (raws.map string)) :=
    .child (List.mem_map_of_mem hraw) .self
  exact ⟨raw, .child (mem_children_of_record? hfields (by simp)) hlist,
    CompanyId.parse_eq_ok_iff.mpr htrimmed.symm⟩

end TenantClaims

theorem TenantClaims.jsonForm_faithful :
    TenantClaims.jsonForm.Faithful (fun _ => True) (fun _ => True) := by
  refine JsonForm.faithful_of_lossless TenantClaims.ofJson?_toJson (fun claims => ?_)
    fun v claims h id hid => TenantClaims.exists_of_ofJson? h hid
  have hcompanies := everyItem_map (p := Legible) CompanyId.toJson (fun _ => trivial)
    claims.companies
  have hroles := everyItem_map (p := Legible) string (fun _ => trivial) claims.roles
  exact ⟨hcompanies, hroles, trivial⟩

/-! ## Problems -/

namespace InvalidParam

theorem ofJson?_toJson (param : InvalidParam) : ofJson? param.toJson = some param := by
  have hfields : record? ["name", "reason"] param.toJson =
      some [.present (string param.name), .present (string param.reason)] :=
    record?_object_all (show ["name", "reason"].Nodup by decide)
  unfold ofJson?
  rw [hfields]
  rfl

end InvalidParam

namespace Problem

/-- A problem has no identifiers. -/
def jsonForm : JsonForm Problem := ⟨toJson, ofJson?, fun _ => []⟩

/-- The parameters are read back also if they have been left out. -/
theorem record?_toJson (problem : Problem) :
    ∃ params : Field,
      record? ["type", "title", "status", "detail", "invalid-params"] problem.toJson =
        some [.present (string problem.typeUri), .present (string problem.title),
          .present (integer problem.status.toNat), .present (string problem.detail), params] ∧
      params.orElse [] (list? InvalidParam.ofJson?) = some problem.invalidParams := by
  have hnames : ["type", "title", "status", "detail", "invalid-params"].Nodup := by decide
  unfold toJson
  cases hparams : problem.invalidParams with
  | nil => exact ⟨.absent, record?_object hnames, rfl⟩
  | cons first rest =>
    exact ⟨_, record?_object_all hnames, list?_map InvalidParam.ofJson?_toJson (first :: rest)⟩

theorem required_status (status : UInt16) :
    (Field.present (integer status.toNat)).required (natural? 0x10000) = some status.toNat := by
  have hlt : status.toNat < 0x10000 := status.toNat_lt
  rw [Field.required, natural?, if_pos ⟨Int.natCast_nonneg _, by omega⟩, Int.toNat_natCast]

theorem ofJson?_toJson (problem : Problem) : ofJson? problem.toJson = some problem := by
  obtain ⟨params, hfields, hparams⟩ := record?_toJson problem
  refine Option.bind_eq_some_iff.mpr ⟨_, hfields, ?_⟩
  refine Option.bind_eq_some_iff.mpr ⟨problem.typeUri, rfl, ?_⟩
  refine Option.bind_eq_some_iff.mpr ⟨problem.title, rfl, ?_⟩
  refine Option.bind_eq_some_iff.mpr ⟨_, required_status problem.status, ?_⟩
  refine Option.bind_eq_some_iff.mpr ⟨problem.detail, rfl, ?_⟩
  refine Option.bind_eq_some_iff.mpr ⟨_, hparams, ?_⟩
  rw [UInt16.ofNat_toNat]
  rfl

theorem legible_toJson (problem : Problem) : problem.toJson.Every Legible := by
  have hstatus : FitsInteger problem.status.toNat := by
    have hlt := problem.status.toNat_lt
    unfold FitsInteger
    omega
  have hparams := everyItem_map (p := Legible) InvalidParam.toJson
    (fun _ => ⟨trivial, trivial, trivial⟩) problem.invalidParams
  unfold toJson
  split
  · exact ⟨trivial, trivial, hstatus, trivial, trivial⟩
  · exact ⟨trivial, trivial, hstatus, trivial, hparams, trivial⟩

end Problem

theorem Problem.jsonForm_faithful :
    Problem.jsonForm.Faithful (fun _ => True) (fun _ => True) :=
  JsonForm.faithful_of_lossless Problem.ofJson?_toJson Problem.legible_toJson
    fun _ _ _ _ hid => absurd hid List.not_mem_nil

/-! ## Owned values -/

namespace CompanyOwned

def jsonForm : JsonForm (CompanyOwned Document) :=
  ⟨toJson, ofJson?, fun record => record.ownership.companyId?.toList⟩

theorem ofJson?_eq_some_iff {v : Json} {record : CompanyOwned Document} :
    ofJson? v = some record ↔ ∃ owner value,
      record? ["ownership", "value"] v = some [.present owner, .present value] ∧
      Ownership.ofJson? owner = some record.ownership ∧ document? value = some record.value := by
  constructor
  · intro h
    obtain ⟨fields, hfields, h⟩ := Option.bind_eq_some_iff.mp h
    split at h
    · obtain ⟨ownership, hownership, h⟩ := Option.bind_eq_some_iff.mp h
      obtain ⟨document, hdocument, h⟩ := Option.bind_eq_some_iff.mp h
      cases h
      obtain ⟨owner, rfl, howner⟩ := exists_of_required hownership
      obtain ⟨value, rfl, hvalue⟩ := exists_of_required hdocument
      exact ⟨owner, value, hfields, howner, hvalue⟩
    · cases h
  · rintro ⟨owner, value, hfields, howner, hvalue⟩
    refine Option.bind_eq_some_iff.mpr ⟨_, hfields, ?_⟩
    refine Option.bind_eq_some_iff.mpr ⟨record.ownership, howner, ?_⟩
    exact Option.bind_eq_some_iff.mpr ⟨record.value, hvalue, rfl⟩

/-- A record that has been written is read with its owner and with what its value is read as. -/
theorem ofJson?_toJson (record : CompanyOwned Document) :
    ofJson? record.toJson = (document? record.value.tree).map fun value =>
      { record with value := value } := by
  have hfields : record? ["ownership", "value"] record.toJson =
      some [.present record.ownership.toJson, .present record.value.tree] :=
    record?_object_all (show ["ownership", "value"].Nodup by decide)
  unfold ofJson?
  rw [hfields]
  simp only [Option.bind_eq_bind, Option.bind_some, Field.required,
    record.ownership.ofJson?_toJson]
  exact (Option.map_eq_bind ..).symm

theorem ofJson?_toJson_eq_iff (record : CompanyOwned Document) :
    ofJson? record.toJson = some record ↔ record.value.Restorable := by
  rw [ofJson?_toJson, ← document?_tree_eq_iff, Option.map_eq_some_iff]
  constructor
  · rintro ⟨value, hvalue, hrecord⟩
    rw [hvalue]
    exact congrArg some (congrArg CompanyOwned.value hrecord)
  · intro hvalue
    exact ⟨record.value, hvalue, rfl⟩

/-- The same for a record that is read from its text. -/
theorem ofJson?_reread_toJson_eq_iff (record : CompanyOwned Document) :
    ofJson? record.toJson.reread = some record ↔
      record.value.Restorable ∧ record.value.tree.Every Legible := by
  have howner : record.ownership.toJson.reread = record.ownership.toJson :=
    reread_eq_self_iff.mpr record.ownership.legible_toJson
  have hfields : record? ["ownership", "value"] record.toJson.reread =
      some [.present record.ownership.toJson.reread, .present record.value.tree.reread] :=
    record?_object_all (show ["ownership", "value"].Nodup by decide)
  rw [← document?_reread_eq_iff, ofJson?_eq_some_iff, hfields, howner]
  constructor
  · rintro ⟨owner, value, hparts, -, hvalue⟩
    simp only [Option.some.injEq, List.cons.injEq, Field.present.injEq] at hparts
    rw [← hparts.2.1] at hvalue
    exact hvalue
  · exact fun hvalue => ⟨_, _, rfl, record.ownership.ofJson?_toJson, hvalue⟩

/-- An owned value that has been read from a text can be read again, if the input did not have the
name for embedded texts, and also from its own text, if every double of the input can. -/
theorem restorable_of_notMem_names {text : List Char} {v : Json} {record : CompanyOwned Document}
    (htext : read? text = some v) (h : ofJson? v = some record) (hname : embeddedKey ∉ v.names) :
    record.value.Restorable ∧
      (v.Every DoubleReadsBack → record.value.tree.Every Legible) := by
  obtain ⟨owner, value, hfields, -, hvalue⟩ := ofJson?_eq_some_iff.mp h
  have hchild : value ∈ v.children := mem_children_of_record? hfields (by simp)
  obtain ⟨htree, hrestorable⟩ :=
    document?_of_notMem_names (fun hin => hname (names_of_mem_children hchild hin)) hvalue
  refine ⟨hrestorable, fun hdoubles => ?_⟩
  have hwhole : record.value.tree.Every WholeFits := by
    rw [htree]
    exact every_ordered (every_of_mem_children (wholeFits_of_read? htext) hchild)
  have hdouble : record.value.tree.Every DoubleReadsBack := by
    rw [htree]
    exact every_ordered (every_of_mem_children hdoubles hchild)
  exact legible_of_parts record.value.readable hwhole hdouble

end CompanyOwned

theorem CompanyOwned.jsonForm_faithful :
    CompanyOwned.jsonForm.Faithful (fun record => record.value.Restorable)
      (fun record => record.value.tree.Every Legible) := by
  refine JsonForm.faithful_of CompanyOwned.ofJson?_toJson_eq_iff
    CompanyOwned.ofJson?_reread_toJson_eq_iff fun v record h id hid => ?_
  obtain ⟨owner, value, hfields, howner, -⟩ := CompanyOwned.ofJson?_eq_some_iff.mp h
  obtain ⟨raw, hwithin, hparse⟩ := Ownership.exists_of_ofJson? howner hid
  exact ⟨raw, .child (mem_children_of_record? hfields (by simp)) hwithin, hparse⟩

/-- A record whose value has the name for embedded texts in front, and one more field. -/
def nameInFront : CompanyOwned Document where
  ownership := .shared
  value :=
    { tree := object [(embeddedKey, string "[1]"), ("a", integer 2)]
      ordered := ⟨List.pairwise_pair.mpr (by decide), trivial, trivial, trivial⟩
      readable := rfl }

end RentalGuard
