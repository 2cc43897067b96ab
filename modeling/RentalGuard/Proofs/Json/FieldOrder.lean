import RentalGuard.Proofs.Json.Documents

/-! # Values up to the order of fields

Two objects are the same value if they have the same fields, in whatever order these stand. A value
that is stored has its fields in the order of their names, so stored values are compared tree by
tree. How doubles are compared is left open, since zeros with different signs are equal numbers.
-/

namespace RentalGuard.Json

mutual

/-- The same value: doubles as given, other numbers and texts as they are, arrays item by item, and
objects field by field after the fields of one of them have been rearranged. -/
def Rearranged (alike : Double → Double → Prop) : Json → Json → Prop
  | double d, double e => alike d e
  | array items, array others => RearrangedItems alike items others
  | object fields, object others => ∃ arranged, others.Perm arranged ∧
    RearrangedFields alike fields arranged
  | v, w => v = w

def RearrangedItems (alike : Double → Double → Prop) : List Json → List Json → Prop
  | [], [] => True
  | v :: rest, w :: more => v.Rearranged alike w ∧ RearrangedItems alike rest more
  | _, _ => False

/-- Field by field, in the order in which they stand. -/
def RearrangedFields (alike : Double → Double → Prop) :
    List (String × Json) → List (String × Json) → Prop
  | [], [] => True
  | (k, v) :: rest, (l, w) :: more =>
    k = l ∧ v.Rearranged alike w ∧ RearrangedFields alike rest more
  | _, _ => False

end

section

variable {alike alike' : Double → Double → Prop}

mutual

theorem rearranged_refl (h : ∀ d, alike d d) : ∀ v : Json, v.Rearranged alike v
  | null | bool _ | integer _ | string _ | unreadable => by
    all_goals simp [Rearranged]
  | double d => h d
  | array items => by
    rw [Rearranged]
    exact rearrangedItems_refl h items
  | object fields => by
    rw [Rearranged]
    exact ⟨fields, List.Perm.refl fields, rearrangedFields_refl h fields⟩

theorem rearrangedItems_refl (h : ∀ d, alike d d) : ∀ items : List Json,
    RearrangedItems alike items items
  | [] => trivial
  | v :: rest => ⟨rearranged_refl h v, rearrangedItems_refl h rest⟩

theorem rearrangedFields_refl (h : ∀ d, alike d d) : ∀ fields : List (String × Json),
    RearrangedFields alike fields fields
  | [] => trivial
  | (_, v) :: rest => ⟨rfl, rearranged_refl h v, rearrangedFields_refl h rest⟩

end

/-- On doubles of a certain kind, those that are alike in one way are so in the other. -/
def Refines (p : Json → Prop) (alike alike' : Double → Double → Prop) : Prop :=
  ∀ d e, p (double d) → p (double e) → alike d e → alike' d e

mutual

theorem Rearranged.refine {p : Json → Prop} (h : Refines p alike alike') : ∀ {v w : Json},
    v.Every p → w.Every p → v.Rearranged alike w → v.Rearranged alike' w
  | double d, w, hv, hw, hsame => by
    cases w with
    | double e => exact h d e hv hw hsame
    | _ => cases hsame
  | null, _, _, _, hsame | bool _, _, _, _, hsame | integer _, _, _, _, hsame
  | string _, _, _, _, hsame | unreadable, _, _, _, hsame => by
    all_goals simpa only [Rearranged] using hsame
  | array items, w, hv, hw, hsame => by
    cases w with
    | array others => exact RearrangedItems.refine h hv hw hsame
    | _ => cases hsame
  | object fields, w, hv, hw, hsame => by
    cases w with
    | object others =>
      obtain ⟨arranged, hperm, harranged⟩ := hsame
      have hall : EveryField p arranged :=
        everyField_iff.mpr fun f hf => everyField_iff.mp hw f (hperm.mem_iff.mpr hf)
      exact ⟨arranged, hperm, RearrangedFields.refine h hv hall harranged⟩
    | _ => cases hsame

theorem RearrangedItems.refine {p : Json → Prop} (h : Refines p alike alike') :
    ∀ {items others : List Json}, EveryItem p items → EveryItem p others →
      RearrangedItems alike items others → RearrangedItems alike' items others
  | [], [], _, _, _ => trivial
  | _ :: _, _ :: _, hitems, hothers, hsame =>
    ⟨Rearranged.refine h hitems.1 hothers.1 hsame.1,
      RearrangedItems.refine h hitems.2 hothers.2 hsame.2⟩

theorem RearrangedFields.refine {p : Json → Prop} (h : Refines p alike alike') :
    ∀ {fields others : List (String × Json)}, EveryField p fields → EveryField p others →
      RearrangedFields alike fields others → RearrangedFields alike' fields others
  | [], [], _, _, _ => trivial
  | (_, _) :: _, (_, _) :: _, hfields, hothers, hsame =>
    ⟨hsame.1, Rearranged.refine h hfields.1 hothers.1 hsame.2.1,
      RearrangedFields.refine h hfields.2 hothers.2 hsame.2.2⟩

end

theorem names_of_rearrangedFields : ∀ {fields others : List (String × Json)},
    RearrangedFields alike fields others → fields.map (·.1) = others.map (·.1)
  | [], [], _ => rfl
  | (_, _) :: _, (_, _) :: _, h => List.cons_eq_cons.mpr ⟨h.1, names_of_rearrangedFields h.2.2⟩

end

/-- Fields whose names rise stand in the only order in which they can. -/
theorem eq_of_perm_of_rising {fields others : List (String × Json)} (hfields : RisingKeys fields)
    (hothers : RisingKeys others) (hperm : fields.Perm others) : fields = others :=
  hperm.eq_of_pairwise (fun _ _ _ _ h h' => absurd h' h.asymm) hfields hothers

mutual

/-- Of values in order, only the value itself is the same. -/
theorem eq_of_rearranged : ∀ {v w : Json}, v.Ordered → w.Ordered → v.Rearranged Eq w → v = w
  | null, _, _, _, h | bool _, _, _, _, h | integer _, _, _, _, h | string _, _, _, _, h
  | unreadable, _, _, _, h => by
    all_goals simpa only [Rearranged] using h
  | double d, w, _, _, h => by
    cases w with
    | double e => exact congrArg double h
    | _ => cases h
  | array items, w, hv, hw, h => by
    cases w with
    | array others => exact congrArg array (eq_of_rearrangedItems hv hw h)
    | _ => cases h
  | object fields, w, hv, hw, h => by
    cases w with
    | object others =>
      obtain ⟨arranged, hperm, harranged⟩ := h
      have hrising : RisingKeys arranged := by
        rw [risingKeys_iff, ← names_of_rearrangedFields harranged]
        exact risingKeys_iff.mp hv.1
      have hsame : others = arranged := eq_of_perm_of_rising hw.1 hrising hperm
      rw [← hsame] at harranged
      rw [eq_of_rearrangedFields hv.2 hw.2 harranged]
    | _ => cases h

theorem eq_of_rearrangedItems : ∀ {items others : List Json}, OrderedItems items →
    OrderedItems others → RearrangedItems Eq items others → items = others
  | [], [], _, _, _ => rfl
  | v :: rest, w :: more, hitems, hothers, h => by
    rw [eq_of_rearranged hitems.1 hothers.1 h.1, eq_of_rearrangedItems hitems.2 hothers.2 h.2]

theorem eq_of_rearrangedFields : ∀ {fields others : List (String × Json)}, OrderedFields fields →
    OrderedFields others → RearrangedFields Eq fields others → fields = others
  | [], [], _, _, _ => rfl
  | (k, v) :: rest, (l, w) :: more, hfields, hothers, h => by
    rw [h.1, eq_of_rearranged hfields.1 hothers.1 h.2.1,
      eq_of_rearrangedFields hfields.2 hothers.2 h.2.2]

end

/-- The order in which the fields of a stored value were given does not matter. -/
theorem Document.rearranged_iff {d e : Document} : d.tree.Rearranged Eq e.tree ↔ d = e := by
  refine ⟨fun h => eq_of_tree (eq_of_rearranged d.ordered e.ordered h), fun h => ?_⟩
  rw [h]
  exact rearranged_refl (fun _ => rfl) e.tree

end RentalGuard.Json
