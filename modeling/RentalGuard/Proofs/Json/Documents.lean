import RentalGuard.Proofs.Json.EmbeddedTexts
import RentalGuard.Proofs.Json.Leaves

/-! # Which stored values are read back

A value that is stored is written as it is. When it is read again, an object whose first field has
the name for embedded texts stands for another value. So a stored value comes back as it is exactly
if it is not nested too deep and has no such object.
-/

namespace RentalGuard.Json

/-! ## Fields in order -/

theorem risingKeys_iff {fields : List (String × Json)} :
    RisingKeys fields ↔ (fields.map (·.1)).Pairwise Text.Precedes :=
  List.pairwise_map.symm

theorem putField_of_last {name : String} {value : Json} :
    ∀ {fields : List (String × Json)}, (∀ f ∈ fields, Text.Precedes f.1 name) →
      putField name value fields = fields ++ [(name, value)]
  | [], _ => rfl
  | (k, v) :: rest, h => by
    have hk : Text.Precedes k name := h (k, v) List.mem_cons_self
    rw [putField, if_neg hk.asymm, if_neg hk.ne.symm,
      putField_of_last fun f hf => h f (List.mem_cons_of_mem _ hf)]
    rfl

/-- The value of every field is put in order, and the field stays in its place. -/
def orderedValues (fields : List (String × Json)) : List (String × Json) :=
  fields.map fun f => (f.1, f.2.ordered)

theorem orderedFields_of_rising {fields : List (String × Json)} :
    ∀ {acc : List (String × Json)}, RisingKeys (acc ++ fields) →
      orderedFields fields acc = acc ++ orderedValues fields := by
  induction fields with
  | nil =>
    intro acc _
    exact (List.append_nil acc).symm
  | cons f rest ih =>
    intro acc h
    obtain ⟨-, -, hbefore⟩ := List.pairwise_append.mp h
    have hput : putField f.1 f.2.ordered acc = acc ++ [(f.1, f.2.ordered)] :=
      putField_of_last fun g hg => hbefore g hg f List.mem_cons_self
    have hrest : RisingKeys ((acc ++ [(f.1, f.2.ordered)]) ++ rest) := by
      rw [risingKeys_iff] at h ⊢
      simpa using h
    rw [orderedFields, hput, ih hrest, List.append_assoc]
    rfl

mutual

theorem ordered_eq_self : ∀ {v : Json}, v.Ordered → v.ordered = v
  | null, _ | bool _, _ | integer _, _ | double _, _ | string _, _ | unreadable, _ => by
    all_goals rfl
  | array items, h => by rw [ordered, orderedItems_eq_self h]
  | object fields, h => by
    rw [ordered, orderedFields_of_rising (by exact h.1), List.nil_append,
      orderedValues_eq_self h.2]

theorem orderedItems_eq_self : ∀ {items : List Json}, OrderedItems items →
    orderedItems items = items
  | [], _ => rfl
  | v :: rest, h => by rw [orderedItems, ordered_eq_self h.1, orderedItems_eq_self h.2]

theorem orderedValues_eq_self : ∀ {fields : List (String × Json)}, OrderedFields fields →
    orderedValues fields = fields
  | [], _ => rfl
  | (k, v) :: rest, h => by
    show (k, v.ordered) :: orderedValues rest = (k, v) :: rest
    rw [ordered_eq_self h.1, orderedValues_eq_self h.2]

end

/-! ## Values that are read back -/

theorem mem_names_putField {name : String} {value : Json} (fields : List (String × Json)) :
    name ∈ (putField name value fields).map (·.1) := by
  induction fields with
  | nil => exact List.mem_cons_self
  | cons f rest ih =>
    rw [putField]
    split
    · exact List.mem_cons_self
    · split
      · exact List.mem_cons_self
      · exact List.mem_cons_of_mem f.1 ih

theorem mem_names_putField_of_mem {name other : String} {value : Json} :
    ∀ {fields : List (String × Json)}, other ∈ fields.map (·.1) →
      other ∈ (putField name value fields).map (·.1)
  | (k, v) :: rest, h => by
    rw [putField]
    split
    · exact List.mem_cons_of_mem name h
    · split
      · rename_i heq
        rw [heq]
        exact h
      · rcases List.mem_cons.mp h with rfl | hrest
        · exact List.mem_cons_self
        · exact List.mem_cons_of_mem k (mem_names_putField_of_mem hrest)

/-- No name is lost when fields are put in order. -/
theorem mem_names_orderedFields {name : String} : ∀ {fields acc : List (String × Json)},
    name ∈ fields.map (·.1) ∨ name ∈ acc.map (·.1) → name ∈ (orderedFields fields acc).map (·.1)
  | [], _, h => by
    rcases h with h | h
    · cases h
    · exact h
  | (k, v) :: rest, acc, h => by
    rw [orderedFields]
    refine mem_names_orderedFields ?_
    rcases h with h | h
    · rcases List.mem_cons.mp h with rfl | hrest
      · exact .inr (mem_names_putField acc)
      · exact .inl hrest
    · exact .inr (mem_names_putField_of_mem h)

/-- There is one way to write an object that stands for a text. -/
theorem eq_of_embeddedText? {fields : List (String × Json)} (hembeds : embedsText fields = true)
    {text : String} (htext : embeddedText? fields = some text) :
    fields = [(embeddedKey, string text)] := by
  unfold embeddedText? at htext
  split at htext
  · cases htext
    rw [eq_of_beq hembeds]
  · cases htext

/-- A value without objects that stand for a text does not become one when it is put in order. -/
theorem ordered_ne_embedding {w : Json} (hw : w.literal = true) (text : String) :
    w.ordered ≠ object [(embeddedKey, string text)] := by
  intro hordered
  cases w with
  | object fields =>
    have hfields : orderedFields fields [] = [(embeddedKey, string text)] := by
      injection hordered
    cases fields with
    | nil => cases hfields
    | cons f rest =>
      have hname : f.1 ∈ (orderedFields (f :: rest) []).map (·.1) :=
        mem_names_orderedFields (.inl List.mem_cons_self)
      rw [hfields] at hname
      have hembeds : embedsText (f :: rest) = true := beq_iff_eq.mpr (List.mem_singleton.mp hname)
      rw [literal, hembeds] at hw
      cases hw
  | _ => cases hordered

/-- An object that stands for a text after its leaves have been changed did so before. -/
theorem eq_of_mapFields_eq_text {f : Json → Json} (hf : KeepsLeaves f)
    {fields : List (String × Json)} {text : String}
    (h : mapFields f fields = [(embeddedKey, string text)]) :
    fields = [(embeddedKey, string text)] := by
  rcases fields with _ | ⟨⟨k, v⟩, _ | ⟨⟨l, w⟩, more⟩⟩
  · cases h
  · simp only [mapFields, List.cons.injEq, Prod.mk.injEq, and_true] at h
    rw [h.1, hf.eq_string h.2]
  · exact absurd (List.cons.inj h).2 (List.cons_ne_nil _ _)

section

variable {valueOf : String → Option Json} {f : Json → Json}

/-- A leaf comes back only as it is. -/
theorem IsLeaf.eq_of_restored {u v w : Json} (hu : u.IsLeaf)
    (h : replaceEmbedded? valueOf u = some w) (hw : w.ordered = v) : u = v := by
  cases u with
  | array _ | object _ => exact hu.elim
  | _ =>
    cases h
    exact hw

mutual

/-- If a value comes back in spite of changed leaves and of the replacements, there was nothing to
change and nothing to replace. -/
theorem literal_of_restored (hvalue : ReadsLiteral valueOf) (hf : KeepsLeaves f) :
    ∀ {v w : Json}, v.Ordered → replaceEmbedded? valueOf (v.mapLeaves f) = some w →
      w.ordered = v → v.literal = true ∧ v.mapLeaves f = v
  | null, _, _, h, hw | bool _, _, _, h, hw | integer _, _, _, h, hw | double _, _, _, h, hw
  | string _, _, _, h, hw | unreadable, _, _, h, hw =>
    ⟨rfl, (hf.isLeaf (by exact trivial)).eq_of_restored h hw⟩
  | array items, w, hv, h, hw => by
    obtain ⟨others, hothers, rfl⟩ := Option.map_eq_some_iff.mp h
    have hitems := literalItems_of_restored hvalue hf hv hothers (by injection hw)
    exact ⟨hitems.1, congrArg array hitems.2⟩
  | object fields, w, hv, h, hw => by
    rw [mapLeaves, replaceEmbedded?] at h
    split at h
    · rename_i hembeds
      obtain ⟨text, htext, hvalueOf⟩ := Option.bind_eq_some_iff.mp h
      rw [eq_of_mapFields_eq_text hf (eq_of_embeddedText? hembeds htext)] at hw
      exact absurd hw (ordered_ne_embedding (hvalue text w hvalueOf) text)
    · rename_i hembeds
      obtain ⟨others, hothers, rfl⟩ := Option.map_eq_some_iff.mp h
      have hrising : RisingKeys ([] ++ others) := by
        rw [List.nil_append, risingKeys_iff, names_replaceInFields? hothers, names_mapFields]
        exact risingKeys_iff.mp hv.1
      rw [ordered, orderedFields_of_rising hrising] at hw
      have hfields := literalFields_of_restored hvalue hf hv.2 hothers (by injection hw)
      rw [embedsText_eq, names_mapFields, ← embedsText_eq] at hembeds
      refine ⟨?_, congrArg object hfields.2⟩
      rw [literal, hfields.1]
      simpa using hembeds

theorem literalItems_of_restored (hvalue : ReadsLiteral valueOf) (hf : KeepsLeaves f) :
    ∀ {items others : List Json}, OrderedItems items →
      replaceInItems? valueOf (mapItems f items) = some others → orderedItems others = items →
        literalItems items = true ∧ mapItems f items = items
  | [], _, _, _, _ => ⟨rfl, rfl⟩
  | v :: rest, others, hitems, h, hothers => by
    obtain ⟨w, more, hw, hmore, rfl⟩ := replaceInItems?_cons h
    obtain ⟨hfirst, hrest⟩ := List.cons.inj hothers
    have hv := literal_of_restored hvalue hf hitems.1 hw hfirst
    have hitems := literalItems_of_restored hvalue hf hitems.2 hmore hrest
    rw [literalItems, hv.1, hitems.1, mapItems, hv.2, hitems.2]
    exact ⟨rfl, rfl⟩

theorem literalFields_of_restored (hvalue : ReadsLiteral valueOf) (hf : KeepsLeaves f) :
    ∀ {fields others : List (String × Json)}, OrderedFields fields →
      replaceInFields? valueOf (mapFields f fields) = some others → orderedValues others = fields →
        literalFields fields = true ∧ mapFields f fields = fields
  | [], _, _, _, _ => ⟨rfl, rfl⟩
  | (k, v) :: rest, others, hfields, h, hothers => by
    obtain ⟨w, more, hw, hmore, rfl⟩ := replaceInFields?_cons h
    obtain ⟨hfirst, hrest⟩ := List.cons.inj hothers
    have hv := literal_of_restored hvalue hf hfields.1 hw (Prod.ext_iff.mp hfirst).2
    have hfields := literalFields_of_restored hvalue hf hfields.2 hmore hrest
    rw [literalFields, hv.1, hfields.1, mapFields, hv.2, hfields.2]
    exact ⟨rfl, rfl⟩

end

end

/-- The value is not nested too deep to be read again, and none of its objects stands for a
text. -/
def Document.Restorable (d : Document) : Prop :=
  d.tree.depth < maxDepth ∧ d.tree.literal = true

instance (d : Document) : Decidable d.Restorable := inferInstanceAs (Decidable (_ ∧ _))

theorem Document.eq_of_tree {d e : Document} (h : d.tree = e.tree) : d = e := by
  cases d
  cases e
  cases h
  rfl

/-- What is stored of a value: its ordered form, after the texts in it have been replaced. -/
theorem document?_eq_some_iff {v : Json} {d : Document} : document? v = some d ↔
    v.depth < maxDepth ∧
      ∃ tree, withoutEmbedded? v = some tree ∧ tree.readable = true ∧ d.tree = tree.ordered := by
  unfold document?
  constructor
  · intro h
    split at h
    · cases h
    · rename_i hdepth
      obtain ⟨tree, htree, h⟩ := Option.bind_eq_some_iff.mp h
      split at h
      · rename_i hreadable
        cases h
        exact ⟨Nat.lt_of_not_le hdepth, tree, htree, hreadable, rfl⟩
      · cases h
  · rintro ⟨hdepth, tree, htree, hreadable, hd⟩
    rw [if_neg (Nat.not_le_of_lt hdepth), htree]
    refine (dif_pos hreadable).trans (congrArg some ?_)
    exact Document.eq_of_tree hd.symm

/-- With its leaves changed, a stored value is read back exactly if it is restorable and has no leaf
that is changed. -/
theorem document?_mapLeaves_eq_iff {f : Json → Json} (hf : KeepsLeaves f) {d : Document} :
    document? (d.tree.mapLeaves f) = some d ↔ d.Restorable ∧ d.tree.mapLeaves f = d.tree := by
  rw [document?_eq_some_iff, depth_mapLeaves hf, Document.Restorable, and_assoc]
  refine and_congr_right fun _ => ⟨?_, ?_⟩
  · rintro ⟨tree, htree, -, hd⟩
    exact literal_of_restored (readsLiteral_readEmbedded? _) hf d.ordered htree hd.symm
  · rintro ⟨hliteral, hsame⟩
    rw [hsame]
    exact ⟨d.tree, replaceEmbedded?_of_literal hliteral, d.readable,
      (ordered_eq_self d.ordered).symm⟩

/-- A stored value is read back as it is exactly if it is restorable. -/
theorem document?_tree_eq_iff {d : Document} : document? d.tree = some d ↔ d.Restorable := by
  have hsame := document?_mapLeaves_eq_iff keepsLeaves_id (d := d)
  rwa [mapLeaves_id, eq_self_iff_true, and_true] at hsame

/-- An object that stands for a text, as a stored value. -/
def Document.ofText (text : String) : Document :=
  ⟨object [(embeddedKey, string text)],
    ⟨List.pairwise_singleton _ _, trivial, trivial⟩, rfl⟩

/-- It is read as the value of the text. -/
theorem document?_ofText {text : String} {v : Json} (hread : read? text.toList = some v)
    (hdepth : v.depth ≤ maxDepth) (hliteral : v.literal = true) (hreadable : v.readable = true) :
    (document? (Document.ofText text).tree).map (·.tree) = some v.ordered := by
  have htree : document? (Document.ofText text).tree =
      some ⟨v.ordered, ordered_ordered v, readable_ordered v hreadable⟩ :=
    document?_eq_some_iff.mpr
      ⟨show 1 < maxDepth by decide, v, withoutEmbedded?_text hread hdepth hliteral, hreadable, rfl⟩
  rw [htree]
  rfl

/-- A double as a stored value. -/
def Document.ofDouble (d : Double) : Document := ⟨double d, trivial, rfl⟩

/-- An empty list inside of `n` other lists. -/
def nested : Nat → Json
  | 0 => array []
  | n + 1 => array [nested n]

theorem ordered_nested : ∀ n : Nat, (nested n).Ordered
  | 0 => trivial
  | n + 1 => ⟨ordered_nested n, trivial⟩

theorem readable_nested : ∀ n : Nat, (nested n).readable = true
  | 0 => rfl
  | n + 1 => by
    rw [nested, readable, readableItems, readable_nested n, readableItems, Bool.and_self]

theorem depth_nested : ∀ n : Nat, (nested n).depth = n + 1
  | 0 => rfl
  | n + 1 => by rw [nested, depth, depthItems, depth_nested n, depthItems, Nat.max_zero]

/-- The same as a stored value. -/
def Document.nested (n : Nat) : Document := ⟨_, ordered_nested n, readable_nested n⟩

theorem document?_nested {n : Nat} (h : maxDepth ≤ n + 1) :
    document? (Document.nested n).tree = none :=
  if_pos (by rwa [Document.nested, depth_nested])

/-! ## Values that do not have the name for embedded texts -/

mutual

/-- The names of all fields in the tree. -/
def names : Json → List String
  | array items => namesInItems items
  | object fields => namesInFields fields
  | _ => []

def namesInItems : List Json → List String
  | [] => []
  | v :: rest => v.names ++ namesInItems rest

def namesInFields : List (String × Json) → List String
  | [] => []
  | (k, v) :: rest => k :: v.names ++ namesInFields rest

end

mutual

theorem literal_of_notMem_names : ∀ {v : Json}, embeddedKey ∉ v.names → v.literal = true
  | null, _ | bool _, _ | integer _, _ | double _, _ | string _, _ | unreadable, _ => by
    all_goals rfl
  | array items, h => literalItems_of_notMem_names h
  | object fields, h => by
    rw [literal, literalFields_of_notMem_names h, Bool.and_true, Bool.not_eq_true']
    cases fields with
    | nil => rfl
    | cons f rest => exact beq_false_of_ne fun hkey => h (hkey ▸ List.mem_cons_self)

theorem literalItems_of_notMem_names : ∀ {items : List Json},
    embeddedKey ∉ namesInItems items → literalItems items = true
  | [], _ => rfl
  | v :: rest, h => by
    rw [namesInItems, List.mem_append, not_or] at h
    rw [literalItems, literal_of_notMem_names h.1, literalItems_of_notMem_names h.2, Bool.and_self]

theorem literalFields_of_notMem_names : ∀ {fields : List (String × Json)},
    embeddedKey ∉ namesInFields fields → literalFields fields = true
  | [], _ => rfl
  | (k, v) :: rest, h => by
    rw [namesInFields, List.cons_append, List.mem_cons, List.mem_append, not_or, not_or] at h
    rw [literalFields, literal_of_notMem_names h.2.1, literalFields_of_notMem_names h.2.2,
      Bool.and_self]

end

theorem mem_namesInFields_putField {name key : String} {value : Json} :
    ∀ {fields : List (String × Json)}, name ∈ namesInFields (putField key value fields) →
      name ∈ key :: value.names ∨ name ∈ namesInFields fields
  | [], h => by
    rw [putField, namesInFields, namesInFields, List.append_nil] at h
    exact .inl h
  | (k, v) :: rest, h => by
    rw [putField] at h
    split at h
    · exact List.mem_append.mp h
    · split at h
      · exact (List.mem_append.mp h).imp_right fun hrest => List.mem_append_right _ hrest
      · rcases List.mem_append.mp h with hfirst | hrest
        · exact .inr (List.mem_append_left _ hfirst)
        · exact (mem_namesInFields_putField hrest).imp_right (List.mem_append_right _)

mutual

/-- Putting a value in order adds no names. -/
theorem mem_names_of_ordered {name : String} : ∀ {v : Json}, name ∈ v.ordered.names →
    name ∈ v.names
  | null, h | bool _, h | integer _, h | double _, h | string _, h | unreadable, h => h
  | array items, h => by
    rw [names]
    exact mem_namesInItems_of_ordered h
  | object fields, h => by
    rw [names]
    exact (mem_namesInFields_of_ordered h).resolve_right List.not_mem_nil

theorem mem_namesInItems_of_ordered {name : String} : ∀ {items : List Json},
    name ∈ namesInItems (orderedItems items) → name ∈ namesInItems items
  | [], h => h
  | v :: rest, h => by
    rw [namesInItems, List.mem_append]
    exact (List.mem_append.mp h).imp mem_names_of_ordered mem_namesInItems_of_ordered

theorem mem_namesInFields_of_ordered {name : String} : ∀ {fields acc : List (String × Json)},
    name ∈ namesInFields (orderedFields fields acc) →
      name ∈ namesInFields fields ∨ name ∈ namesInFields acc
  | [], _, h => .inr h
  | (k, v) :: rest, acc, h => by
    rw [orderedFields] at h
    rw [namesInFields, List.mem_append, List.mem_cons]
    rcases mem_namesInFields_of_ordered h with hrest | hacc
    · exact .inl (.inr hrest)
    · rcases mem_namesInFields_putField hacc with hput | hold
      · exact .inl (.inl ((List.mem_cons.mp hput).imp_right mem_names_of_ordered))
      · exact .inr hold

end

theorem depthFields_putField_le {key : String} {value : Json} (fields : List (String × Json)) :
    depthFields (putField key value fields) ≤ max value.depth (depthFields fields) := by
  induction fields with
  | nil => exact Nat.le_refl _
  | cons f rest ih =>
    rw [putField]
    split
    · exact Nat.le_refl _
    · split
      · simp only [depthFields]
        omega
      · simp only [depthFields]
        omega

mutual

/-- Putting a value in order does not nest it deeper. -/
theorem depth_ordered_le : ∀ v : Json, v.ordered.depth ≤ v.depth
  | null | bool _ | integer _ | double _ | string _ | unreadable => by
    all_goals exact Nat.le_refl 0
  | array items => Nat.succ_le_succ (depthItems_ordered_le items)
  | object fields => by
    have hfields := depthFields_ordered_le fields []
    simp only [depthFields, Nat.max_zero] at hfields
    exact Nat.succ_le_succ hfields

theorem depthItems_ordered_le : ∀ items : List Json,
    depthItems (orderedItems items) ≤ depthItems items
  | [] => Nat.le_refl 0
  | v :: rest => by
    have hv := depth_ordered_le v
    have hrest := depthItems_ordered_le rest
    simp only [orderedItems, depthItems]
    omega

theorem depthFields_ordered_le : ∀ fields acc : List (String × Json),
    depthFields (orderedFields fields acc) ≤ max (depthFields fields) (depthFields acc)
  | [], acc => Nat.le_max_right 0 _
  | (k, v) :: rest, acc => by
    have hv := depth_ordered_le v
    have hput : depthFields (putField k v.ordered acc) ≤ max v.ordered.depth (depthFields acc) :=
      depthFields_putField_le acc
    have hrest := depthFields_ordered_le rest (putField k v.ordered acc)
    simp only [orderedFields, depthFields]
    omega

end

/-- What is stored of a value without the name is the value in order, and it is read back. -/
theorem document?_of_notMem_names {v : Json} {d : Document} (hname : embeddedKey ∉ v.names)
    (h : document? v = some d) : d.tree = v.ordered ∧ d.Restorable := by
  obtain ⟨hdepth, tree, htree, -, hd⟩ := document?_eq_some_iff.mp h
  rw [withoutEmbedded?, replaceEmbedded?_of_literal (literal_of_notMem_names hname)] at htree
  cases htree
  refine ⟨hd, ?_, ?_⟩
  · rw [hd]
    exact Nat.lt_of_le_of_lt (depth_ordered_le v) hdepth
  · rw [hd]
    exact literal_of_notMem_names fun hordered => hname (mem_names_of_ordered hordered)

end RentalGuard.Json
