import RentalGuard.Json.Record

/-! # Records are read as they are written

A record that is written with different names is read field by field, and the names that it leaves
out are missing. A list is read if all its items are.
-/

namespace RentalGuard.Json

theorem mapM_eq_some_map {α β : Type} {read : α → Option β} {f : α → β} {items : List α}
    (h : ∀ a ∈ items, read a = some (f a)) : items.mapM read = some (items.map f) := by
  induction items with
  | nil => rfl
  | cons a rest ih =>
    rw [List.mapM_cons, h a List.mem_cons_self, ih fun b hb => h b (List.mem_cons_of_mem a hb)]
    rfl

/-- A list of written values is read value by value. -/
theorem list?_map {α : Type} {write : α → Json} {read : Json → Option α}
    (h : ∀ a, read (write a) = some a) (items : List α) :
    list? read (array (items.map write)) = some items := by
  have hitems : items.mapM (read ∘ write) = some (items.map id) :=
    mapM_eq_some_map fun a _ => h a
  rw [list?, List.mapM_map, hitems, List.map_id]

/-! ## Fields -/

theorem valuesOf_cons (name : String) (f : String × Json) (fields : List (String × Json)) :
    valuesOf name (f :: fields) =
      if f.1 = name then f.2 :: valuesOf name fields else valuesOf name fields := by
  unfold valuesOf
  rw [List.filter_cons]
  simp only [beq_iff_eq]
  split <;> rfl

theorem valuesOf_eq_nil {name : String} {fields : List (String × Json)}
    (h : name ∉ fields.map (·.1)) : valuesOf name fields = [] := by
  induction fields with
  | nil => rfl
  | cons f rest ih =>
    rw [List.map_cons, List.mem_cons, not_or] at h
    rw [valuesOf_cons, if_neg (Ne.symm h.1), ih h.2]

theorem valuesOf_eq_singleton {fields : List (String × Json)}
    (hnames : (fields.map (·.1)).Nodup) {f : String × Json} (hf : f ∈ fields) :
    valuesOf f.1 fields = [f.2] := by
  induction fields with
  | nil => cases hf
  | cons g rest ih =>
    rw [List.map_cons, List.nodup_cons] at hnames
    rw [valuesOf_cons]
    rcases List.mem_cons.mp hf with rfl | hrest
    · rw [if_pos rfl, valuesOf_eq_nil hnames.1]
    · have hne : g.1 ≠ f.1 := fun he => hnames.1 (he ▸ List.mem_map_of_mem hrest)
      rw [if_neg hne, ih hnames.2 hrest]

theorem field?_of_mem {fields : List (String × Json)} (hnames : (fields.map (·.1)).Nodup)
    {f : String × Json} (hf : f ∈ fields) : field? fields f.1 = some (.present f.2) := by
  rw [field?, valuesOf_eq_singleton hnames hf]

theorem field?_of_notMem {fields : List (String × Json)} {name : String}
    (h : name ∉ fields.map (·.1)) : field? fields name = some .absent := by
  rw [field?, valuesOf_eq_nil h]

/-- The fields of an object that gives the first fields of a record and none of the others. -/
theorem record?_object {fields : List (String × Json)} {missing : List String}
    (hnames : (fields.map (·.1) ++ missing).Nodup) :
    record? (fields.map (·.1) ++ missing) (object fields) =
      some (fields.map (fun f => Field.present f.2) ++ missing.map fun _ => Field.absent) := by
  obtain ⟨hgiven, -, hother⟩ := List.nodup_append.mp hnames
  have hpresent : fields.mapM (field? fields ∘ (·.1)) = some (fields.map (.present ·.2)) :=
    mapM_eq_some_map fun f hf => field?_of_mem hgiven hf
  have habsent : missing.mapM (field? fields) = some (missing.map fun _ => .absent) :=
    mapM_eq_some_map fun name hname =>
      field?_of_notMem fun hgiven => hother name hgiven name hname rfl
  rw [record?, List.mapM_append, List.mapM_map, hpresent, habsent]
  rfl

/-- The fields of an object that gives all fields of a record. -/
theorem record?_object_all {fields : List (String × Json)} (hnames : (fields.map (·.1)).Nodup) :
    record? (fields.map (·.1)) (object fields) = some (fields.map fun f => .present f.2) := by
  have hall : record? (fields.map (·.1) ++ []) (object fields) =
      some (fields.map (fun f => .present f.2) ++ [].map fun _ => .absent) :=
    record?_object (by rwa [List.append_nil])
  rwa [List.append_nil, List.map_nil, List.append_nil] at hall

/-- Whether the value is null. -/
def isNull : Json → Bool
  | null => true
  | _ => false

theorem isNull_iff {v : Json} : v.isNull = true ↔ v = null := by
  cases v <;> simp [isNull]

theorem optional_of_ne_null {α : Type} {read : Json → Option α} {v : Json} (h : v ≠ null) :
    (Field.present v).optional read = (read v).map some := by
  cases v with
  | null => exact absurd rfl h
  | _ => rfl

theorem optional_ofText? (text : Option String) :
    (Field.present (ofText? text)).optional text? = some text := by
  cases text <;> rfl

/-! ## Where a value that is read comes from -/

/-- The values right inside a value. -/
def children : Json → List Json
  | array items => items
  | object fields => fields.map (·.2)
  | _ => []

/-- The first value stands somewhere in the second one. -/
inductive Within (u : Json) : Json → Prop
  | self : Within u u
  | child {v w : Json} (hw : w ∈ v.children) (hu : Within u w) : Within u v

theorem exists_of_mem_mapM {α β : Type} {read : α → Option β} : ∀ {items : List α}
    {results : List β}, items.mapM read = some results →
      ∀ b ∈ results, ∃ a ∈ items, read a = some b
  | [], _, h, _, hb => by
    cases h
    cases hb
  | a :: rest, results, h, b, hb => by
    rw [List.mapM_cons] at h
    obtain ⟨first, hfirst, h⟩ := Option.bind_eq_some_iff.mp h
    obtain ⟨others, hothers, h⟩ := Option.bind_eq_some_iff.mp h
    cases h
    rcases List.mem_cons.mp hb with rfl | hb
    · exact ⟨a, List.mem_cons_self, hfirst⟩
    · obtain ⟨c, hc, hread⟩ := exists_of_mem_mapM hothers b hb
      exact ⟨c, List.mem_cons_of_mem a hc, hread⟩

theorem mem_valuesOf {name : String} {fields : List (String × Json)} {w : Json}
    (h : w ∈ valuesOf name fields) : w ∈ (object fields).children := by
  obtain ⟨f, hf, rfl⟩ := List.mem_map.mp h
  exact List.mem_map_of_mem (List.mem_filter.mp hf).1

/-- What a record has in its fields stands right inside the value. -/
theorem mem_children_of_record? {names : List String} {v w : Json} {fields : List Field}
    (h : record? names v = some fields) (hw : .present w ∈ fields) : w ∈ v.children := by
  cases v with
  | object given =>
    obtain ⟨name, -, hname⟩ := exists_of_mem_mapM h _ hw
    have hvalue : w ∈ valuesOf name given := by
      unfold field? at hname
      split at hname
      · cases hname
      · rename_i value hvalues
        cases hname
        rw [hvalues]
        exact List.mem_singleton_self _
      · cases hname
    exact mem_valuesOf hvalue
  | array items =>
    rw [record?] at h
    split at h
    · cases h
      rcases List.mem_append.mp hw with hitem | hbeyond
      · obtain ⟨value, hvalue, heq⟩ := List.mem_map.mp hitem
        cases heq
        exact hvalue
      · cases List.eq_of_mem_replicate hbeyond
    · cases h
  | _ => cases h

theorem exists_of_required {α : Type} {read : Json → Option α} {field : Field} {a : α}
    (h : field.required read = some a) : ∃ w, field = .present w ∧ read w = some a := by
  cases field with
  | present w => exact ⟨w, rfl, h⟩
  | _ => cases h

end RentalGuard.Json
