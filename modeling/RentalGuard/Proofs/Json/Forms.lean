import RentalGuard.Company
import RentalGuard.Proofs.Json.ReadNumbers
import RentalGuard.Proofs.Json.Records
import RentalGuard.Proofs.Json.Texts

/-! # Forms of values in JSON

A form says how the values of a type are written and read. It is faithful if they are read back as
they have been written, as a tree and as a text, and no identifier of a company is read that has not
been checked.
-/

namespace RentalGuard

open Json

/-! ## Parts of a value -/

namespace Json

theorem every_of_mem_children {p : Json → Prop} {v w : Json} (h : v.Every p)
    (hw : w ∈ v.children) : w.Every p := by
  cases v with
  | array items => exact everyItem_iff.mp h w hw
  | object fields =>
    obtain ⟨f, hf, rfl⟩ := List.mem_map.mp hw
    exact everyField_iff.mp h f hf
  | _ => cases hw

theorem names_of_mem_children {v w : Json} (hw : w ∈ v.children) {name : String}
    (h : name ∈ w.names) : name ∈ v.names := by
  cases v with
  | array items =>
    induction items with
    | nil => cases hw
    | cons u rest ih =>
      rcases List.mem_cons.mp hw with rfl | hrest
      · exact List.mem_append_left _ h
      · exact List.mem_append_right _ (ih hrest)
  | object fields =>
    induction fields with
    | nil => cases hw
    | cons f rest ih =>
      rcases List.mem_cons.mp hw with rfl | hrest
      · exact List.mem_append_left _ (List.mem_cons_of_mem f.1 h)
      · exact List.mem_append_right _ (ih hrest)
  | _ => cases hw

end Json

/-! ## Forms -/

/-- How values of a type are written in JSON and read, and which identifiers they have. -/
structure JsonForm (α : Type) where
  encode : α → Json
  decode? : Json → Option α
  companies : α → List CompanyId

/-- A form that keeps what it can, and does not let an identifier in that has not been checked. -/
structure JsonForm.Faithful {α : Type} (form : JsonForm α) (restorable legible : α → Prop) :
    Prop where
  /-- A value is read back as it is exactly if it is restorable. -/
  lossless : ∀ a, form.decode? (form.encode a) = some a ↔ restorable a
  /-- From its text it is read back exactly if it is legible as well. -/
  throughText : ∀ a, (read? (form.encode a).chars).bind form.decode? = some a ↔
    restorable a ∧ legible a
  /-- Every identifier is a text of the input that has passed the check. -/
  checked : ∀ v a, form.decode? v = some a → ∀ id ∈ form.companies a,
    id.text.toList ≠ [] ∧ (∀ c ∈ id.text.toList, isCompanyChar c = true) ∧
      ∃ raw, (string raw).Within v ∧ CompanyId.parse raw = .ok id

section

variable {α : Type} {form : JsonForm α} {restorable legible : α → Prop}

/-- The laws that have to be shown of a form. -/
theorem JsonForm.faithful_of
    (hlossless : ∀ a, form.decode? (form.encode a) = some a ↔ restorable a)
    (hreread : ∀ a, form.decode? (form.encode a).reread = some a ↔ restorable a ∧ legible a)
    (hfrom : ∀ v a, form.decode? v = some a → ∀ id ∈ form.companies a,
      ∃ raw, (string raw).Within v ∧ CompanyId.parse raw = .ok id) :
    form.Faithful restorable legible where
  lossless := hlossless
  throughText a := by
    rw [read?_chars, Option.bind_some]
    exact hreread a
  checked v a h id hid :=
    ⟨id.nonempty, List.all_eq_true.mp id.chars, hfrom v a h id hid⟩

/-- The same for a form that loses nothing. -/
theorem JsonForm.faithful_of_lossless (hlossless : ∀ a, form.decode? (form.encode a) = some a)
    (hlegible : ∀ a, (form.encode a).Every Legible)
    (hfrom : ∀ v a, form.decode? v = some a → ∀ id ∈ form.companies a,
      ∃ raw, (string raw).Within v ∧ CompanyId.parse raw = .ok id) :
    form.Faithful (fun _ => True) (fun _ => True) := by
  refine JsonForm.faithful_of (fun a => iff_true_intro (hlossless a)) (fun a => ?_) hfrom
  rw [reread_eq_self_iff.mpr (hlegible a)]
  exact iff_of_true (hlossless a) ⟨trivial, trivial⟩

end

end RentalGuard
