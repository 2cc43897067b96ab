import RentalGuard.Json.Document

/-! # The leaves of a value

A leaf is a part of a value that has no parts itself. A condition on leaves holds of a value if it
holds of all its leaves, and a function on leaves changes a value leaf by leaf.
-/

namespace RentalGuard.Json

variable {p q : Json → Prop} {f : Json → Json}

/-! ## Conditions -/

mutual

/-- Every leaf meets the condition. -/
def Every (p : Json → Prop) : Json → Prop
  | array items => EveryItem p items
  | object fields => EveryField p fields
  | v => p v

def EveryItem (p : Json → Prop) : List Json → Prop
  | [] => True
  | v :: rest => v.Every p ∧ EveryItem p rest

def EveryField (p : Json → Prop) : List (String × Json) → Prop
  | [] => True
  | (_, v) :: rest => v.Every p ∧ EveryField p rest

end

theorem everyItem_iff {items : List Json} : EveryItem p items ↔ ∀ v ∈ items, v.Every p := by
  induction items with
  | nil => exact ⟨fun _ _ hv => (List.not_mem_nil hv).elim, fun _ => trivial⟩
  | cons v rest ih => rw [EveryItem, ih, List.forall_mem_cons]

theorem everyField_iff {fields : List (String × Json)} :
    EveryField p fields ↔ ∀ f ∈ fields, f.2.Every p := by
  induction fields with
  | nil => exact ⟨fun _ _ hf => (List.not_mem_nil hf).elim, fun _ => trivial⟩
  | cons f rest ih => rw [EveryField, ih, List.forall_mem_cons]

theorem everyItem_map {α : Type} (write : α → Json) (h : ∀ a, (write a).Every p)
    (items : List α) : EveryItem p (items.map write) := by
  refine everyItem_iff.mpr fun v hv => ?_
  obtain ⟨a, -, rfl⟩ := List.mem_map.mp hv
  exact h a

mutual

theorem Every.imp (h : ∀ v, p v → q v) : ∀ {v : Json}, v.Every p → v.Every q
  | null, hv | bool _, hv | integer _, hv | double _, hv | string _, hv | unreadable, hv => h _ hv
  | array _, hv => EveryItem.imp h hv
  | object _, hv => EveryField.imp h hv

theorem EveryItem.imp (h : ∀ v, p v → q v) : ∀ {items : List Json},
    EveryItem p items → EveryItem q items
  | [], _ => trivial
  | _ :: _, hitems => ⟨Every.imp h hitems.1, EveryItem.imp h hitems.2⟩

theorem EveryField.imp (h : ∀ v, p v → q v) : ∀ {fields : List (String × Json)},
    EveryField p fields → EveryField q fields
  | [], _ => trivial
  | (_, _) :: _, hfields => ⟨Every.imp h hfields.1, EveryField.imp h hfields.2⟩

end

mutual

/-- Two conditions that hold of all leaves hold together. -/
theorem Every.and : ∀ {v : Json}, v.Every p → v.Every q → v.Every fun w => p w ∧ q w
  | null, hp, hq | bool _, hp, hq | integer _, hp, hq | double _, hp, hq | string _, hp, hq
  | unreadable, hp, hq => ⟨hp, hq⟩
  | array _, hp, hq => EveryItem.and hp hq
  | object _, hp, hq => EveryField.and hp hq

theorem EveryItem.and : ∀ {items : List Json}, EveryItem p items → EveryItem q items →
    EveryItem (fun w => p w ∧ q w) items
  | [], _, _ => trivial
  | _ :: _, hp, hq => ⟨Every.and hp.1 hq.1, EveryItem.and hp.2 hq.2⟩

theorem EveryField.and : ∀ {fields : List (String × Json)}, EveryField p fields →
    EveryField q fields → EveryField (fun w => p w ∧ q w) fields
  | [], _, _ => trivial
  | (_, _) :: _, hp, hq => ⟨Every.and hp.1 hq.1, EveryField.and hp.2 hq.2⟩

end

mutual

/-- Putting a value in order does not bring new leaves in. -/
theorem every_ordered : ∀ {v : Json}, v.Every p → v.ordered.Every p
  | null, h | bool _, h | integer _, h | double _, h | string _, h | unreadable, h => h
  | array _, h => by
    rw [Every] at h
    exact everyItem_orderedItems h
  | object _, h => by
    rw [Every] at h
    exact everyField_orderedFields h trivial

theorem everyItem_orderedItems : ∀ {items : List Json}, EveryItem p items →
    EveryItem p (orderedItems items)
  | [], _ => trivial
  | _ :: _, h => ⟨every_ordered h.1, everyItem_orderedItems h.2⟩

theorem everyField_orderedFields : ∀ {fields acc : List (String × Json)}, EveryField p fields →
    EveryField p acc → EveryField p (orderedFields fields acc)
  | [], _, _, hacc => hacc
  | (k, v) :: rest, acc, hfields, hacc => by
    rw [orderedFields]
    refine everyField_orderedFields hfields.2 (everyField_iff.mpr fun f hf => ?_)
    rcases mem_putField hf with rfl | hold
    · exact every_ordered hfields.1
    · exact everyField_iff.mp hacc f hold

end

mutual

theorem every_readable : ∀ {v : Json}, v.readable = true → v.Every (· ≠ unreadable)
  | null, _ | bool _, _ | integer _, _ | double _, _ | string _, _ => by
    all_goals exact fun h => nomatch h
  | array _, h => everyItem_readable h
  | object _, h => everyField_readable h

theorem everyItem_readable : ∀ {items : List Json}, readableItems items = true →
    EveryItem (· ≠ unreadable) items
  | [], _ => trivial
  | _ :: _, h => by
    obtain ⟨hv, hrest⟩ := Bool.and_eq_true_iff.mp h
    exact ⟨every_readable hv, everyItem_readable hrest⟩

theorem everyField_readable : ∀ {fields : List (String × Json)}, readableFields fields = true →
    EveryField (· ≠ unreadable) fields
  | [], _ => trivial
  | (_, _) :: _, h => by
    obtain ⟨hv, hrest⟩ := Bool.and_eq_true_iff.mp h
    exact ⟨every_readable hv, everyField_readable hrest⟩

end

/-! ## Changes -/

mutual

/-- The tree with every leaf changed. -/
def mapLeaves (f : Json → Json) : Json → Json
  | array items => array (mapItems f items)
  | object fields => object (mapFields f fields)
  | v => f v

def mapItems (f : Json → Json) : List Json → List Json
  | [] => []
  | v :: rest => v.mapLeaves f :: mapItems f rest

def mapFields (f : Json → Json) : List (String × Json) → List (String × Json)
  | [] => []
  | (k, v) :: rest => (k, v.mapLeaves f) :: mapFields f rest

end

mutual

/-- A value stays as it is if all its leaves do. -/
theorem mapLeaves_eq_self_iff : ∀ {v : Json}, v.mapLeaves f = v ↔ v.Every fun w => f w = w
  | null | bool _ | integer _ | double _ | string _ | unreadable => by
    all_goals exact Iff.rfl
  | array items => by
    rw [mapLeaves, Every, array.injEq]
    exact mapItems_eq_self_iff
  | object fields => by
    rw [mapLeaves, Every, object.injEq]
    exact mapFields_eq_self_iff

theorem mapItems_eq_self_iff : ∀ {items : List Json},
    mapItems f items = items ↔ EveryItem (fun w => f w = w) items
  | [] => iff_of_true rfl trivial
  | v :: rest => by
    rw [mapItems, EveryItem, List.cons.injEq]
    exact and_congr mapLeaves_eq_self_iff mapItems_eq_self_iff

theorem mapFields_eq_self_iff : ∀ {fields : List (String × Json)},
    mapFields f fields = fields ↔ EveryField (fun w => f w = w) fields
  | [] => iff_of_true rfl trivial
  | (k, v) :: rest => by
    rw [mapFields, EveryField, List.cons.injEq, Prod.mk.injEq, eq_self_iff_true, true_and]
    exact and_congr mapLeaves_eq_self_iff mapFields_eq_self_iff

end

mutual

theorem mapLeaves_id : ∀ v : Json, v.mapLeaves id = v
  | null | bool _ | integer _ | double _ | string _ | unreadable => by
    all_goals rfl
  | array items => congrArg array (mapItems_id items)
  | object fields => congrArg object (mapFields_id fields)

theorem mapItems_id : ∀ items : List Json, mapItems id items = items
  | [] => rfl
  | v :: rest => by rw [mapItems, mapLeaves_id v, mapItems_id rest]

theorem mapFields_id : ∀ fields : List (String × Json), mapFields id fields = fields
  | [] => rfl
  | (k, v) :: rest => by rw [mapFields, mapLeaves_id v, mapFields_id rest]

end

theorem names_mapFields : ∀ fields : List (String × Json),
    (mapFields f fields).map (·.1) = fields.map (·.1)
  | [] => rfl
  | (k, _) :: rest => congrArg (k :: ·) (names_mapFields rest)

/-- The value has no parts. -/
def IsLeaf : Json → Prop
  | array _ | object _ => False
  | _ => True

/-- The change makes leaves of leaves, and a string only of that string. -/
structure KeepsLeaves (f : Json → Json) : Prop where
  isLeaf : ∀ {v : Json}, v.IsLeaf → (f v).IsLeaf
  string : ∀ {v : Json} {s : String}, v.IsLeaf → f v = string s → v = string s

theorem keepsLeaves_id : KeepsLeaves id := ⟨id, fun _ h => h⟩

theorem KeepsLeaves.eq_string (hf : KeepsLeaves f) {v : Json} {s : String}
    (h : v.mapLeaves f = Json.string s) : v = Json.string s := by
  cases v with
  | array _ | object _ => cases h
  | _ => exact hf.string trivial h

theorem IsLeaf.depth {v : Json} (h : v.IsLeaf) : v.depth = 0 := by
  cases v with
  | array _ | object _ => exact h.elim
  | _ => rfl

mutual

/-- Such a change does not nest a value deeper. -/
theorem depth_mapLeaves (hf : KeepsLeaves f) : ∀ v : Json, (v.mapLeaves f).depth = v.depth
  | null | bool _ | integer _ | double _ | string _ | unreadable => by
    all_goals exact (hf.isLeaf (by exact trivial)).depth
  | array items => congrArg (· + 1) (depthItems_mapItems hf items)
  | object fields => congrArg (· + 1) (depthFields_mapFields hf fields)

theorem depthItems_mapItems (hf : KeepsLeaves f) : ∀ items : List Json,
    depthItems (mapItems f items) = depthItems items
  | [] => rfl
  | v :: rest => by
    rw [mapItems, depthItems, depthItems, depth_mapLeaves hf v, depthItems_mapItems hf rest]

theorem depthFields_mapFields (hf : KeepsLeaves f) : ∀ fields : List (String × Json),
    depthFields (mapFields f fields) = depthFields fields
  | [] => rfl
  | (k, v) :: rest => by
    rw [mapFields, depthFields, depthFields, depth_mapLeaves hf v, depthFields_mapFields hf rest]

end

end RentalGuard.Json
