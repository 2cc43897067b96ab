import RentalGuard.Json.Embedded
import RentalGuard.Text.Order

/-! JSON values that are stored. The fields of every object stand in the order of their names and
no name comes twice, so a value has one form. Of repeated fields the last one is kept. -/

namespace RentalGuard.Json

/-- The names of the fields rise strictly. -/
def RisingKeys (fields : List (String × Json)) : Prop :=
  fields.Pairwise fun f g => Text.Precedes f.1 g.1

mutual

/-- The fields of every object in the tree rise strictly. -/
def Ordered : Json → Prop
  | array items => OrderedItems items
  | object fields => RisingKeys fields ∧ OrderedFields fields
  | _ => True

def OrderedItems : List Json → Prop
  | [] => True
  | v :: rest => v.Ordered ∧ OrderedItems rest

def OrderedFields : List (String × Json) → Prop
  | [] => True
  | (_, v) :: rest => v.Ordered ∧ OrderedFields rest

end

/-- Puts a field in its place among rising fields, instead of one with the same name. -/
def putField (name : String) (value : Json) : List (String × Json) → List (String × Json)
  | [] => [(name, value)]
  | (k, v) :: rest =>
    if Text.Precedes name k then (name, value) :: (k, v) :: rest
    else if name = k then (name, value) :: rest
    else (k, v) :: putField name value rest

mutual

/-- The tree with the fields of every object in order. -/
def ordered : Json → Json
  | array items => array (orderedItems items)
  | object fields => object (orderedFields fields [])
  | v => v

def orderedItems : List Json → List Json
  | [] => []
  | v :: rest => v.ordered :: orderedItems rest

/-- Puts the fields one after the other among those in `acc`. -/
def orderedFields : List (String × Json) → List (String × Json) → List (String × Json)
  | [], acc => acc
  | (k, v) :: rest, acc => orderedFields rest (putField k v.ordered acc)

end

theorem mem_putField {name : String} {value : Json} : ∀ {fields : List (String × Json)}
    {f : String × Json}, f ∈ putField name value fields → f = (name, value) ∨ f ∈ fields
  | [], f, h => by simpa [putField] using h
  | (k, v) :: rest, f, h => by
    simp only [putField] at h
    split at h
    · simpa using h
    · split at h
      · simp only [List.mem_cons] at h ⊢
        exact h.imp_right Or.inr
      · simp only [List.mem_cons] at h ⊢
        rcases h with h | h
        · exact Or.inr (Or.inl h)
        · exact (mem_putField h).imp_right Or.inr

theorem risingKeys_putField {name : String} {value : Json} :
    ∀ {fields : List (String × Json)}, RisingKeys fields → RisingKeys (putField name value fields)
  | [], _ => by simp [putField, RisingKeys]
  | (k, v) :: rest, h => by
    obtain ⟨hk, hr⟩ := List.pairwise_cons.mp h
    simp only [putField]
    split
    · next hlt =>
      refine List.pairwise_cons.mpr ⟨?_, h⟩
      intro f hf
      rcases List.mem_cons.mp hf with rfl | hf
      · exact hlt
      · exact hlt.trans (hk f hf)
    · split
      · next heq => exact List.pairwise_cons.mpr ⟨fun f hf => heq ▸ hk f hf, hr⟩
      · next hlt hne =>
        refine List.pairwise_cons.mpr ⟨?_, risingKeys_putField hr⟩
        intro f hf
        rcases mem_putField hf with rfl | hf
        · exact Text.Precedes.total hlt hne
        · exact hk f hf

theorem orderedFields_putField {name : String} {value : Json} (hv : value.Ordered) :
    ∀ {fields : List (String × Json)}, OrderedFields fields →
      OrderedFields (putField name value fields)
  | [], _ => by simp [putField, OrderedFields, hv]
  | (k, v) :: rest, h => by
    simp only [OrderedFields] at h
    simp only [putField]
    split
    · simp [OrderedFields, hv, h]
    · split
      · simp [OrderedFields, hv, h]
      · simp [OrderedFields, h, orderedFields_putField hv h.2]

mutual

theorem ordered_ordered : ∀ v : Json, v.ordered.Ordered
  | null | bool _ | integer _ | double _ | string _ | unreadable => by
    all_goals simp [ordered, Ordered]
  | array items => by simpa [ordered, Ordered] using orderedItems_ordered items
  | object fields => by
    simpa [ordered, Ordered] using
      orderedFields_ordered fields [] ⟨by simp [RisingKeys], by simp [OrderedFields]⟩

theorem orderedItems_ordered : ∀ items : List Json, OrderedItems (orderedItems items)
  | [] => by simp [orderedItems, OrderedItems]
  | v :: rest => by
    simpa [orderedItems, OrderedItems] using ⟨ordered_ordered v, orderedItems_ordered rest⟩

theorem orderedFields_ordered : ∀ (fields acc : List (String × Json)),
    RisingKeys acc ∧ OrderedFields acc →
      RisingKeys (orderedFields fields acc) ∧ OrderedFields (orderedFields fields acc)
  | [], _, h => by simpa [orderedFields] using h
  | (k, v) :: rest, acc, h => by
    simp only [orderedFields]
    exact orderedFields_ordered rest _
      ⟨risingKeys_putField h.1, orderedFields_putField (ordered_ordered v) h.2⟩

end

/-- A JSON value that is stored. -/
structure Document where
  tree : Json
  ordered : tree.Ordered
  readable : tree.readable = true

mutual

theorem readable_ordered : ∀ v : Json, v.readable = true → v.ordered.readable = true
  | null, h | bool _, h | integer _, h | double _, h | string _, h | unreadable, h => by
    all_goals simpa [Json.ordered] using h
  | array items, h => by
    simpa [Json.ordered, Json.readable] using readableItems_ordered items (by simpa [Json.readable] using h)
  | object fields, h => by
    simpa [Json.ordered, Json.readable] using
      readableFields_ordered fields [] (by simpa [Json.readable] using h) (by simp [readableFields])

theorem readableItems_ordered : ∀ items : List Json, readableItems items = true →
    readableItems (orderedItems items) = true
  | [], _ => by simp [orderedItems, readableItems]
  | v :: rest, h => by
    simp only [readableItems, Bool.and_eq_true] at h
    simp [orderedItems, readableItems, readable_ordered v h.1, readableItems_ordered rest h.2]

theorem readableFields_ordered : ∀ fields acc : List (String × Json),
    readableFields fields = true → readableFields acc = true →
      readableFields (orderedFields fields acc) = true
  | [], _, _, ha => by simpa [orderedFields] using ha
  | (k, v) :: rest, acc, h, ha => by
    simp only [readableFields, Bool.and_eq_true] at h
    simp only [orderedFields]
    exact readableFields_ordered rest _ h.2 (readableFields_putField (readable_ordered v h.1) ha)

theorem readableFields_putField {name : String} {value : Json} (hv : value.readable = true) :
    ∀ {fields : List (String × Json)}, readableFields fields = true →
      readableFields (putField name value fields) = true
  | [], _ => by simp [putField, readableFields, hv]
  | (k, v) :: rest, h => by
    simp only [readableFields, Bool.and_eq_true] at h
    simp only [putField]
    split
    · simp [readableFields, hv, h]
    · split
      · simp [readableFields, hv, h]
      · simp [readableFields, h, readableFields_putField hv h.2]

end

/-- The stored form of a value, unless it has a token without a value, is nested too deep or embeds
a text that is not in order. -/
def document? (v : Json) : Option Document := do
  if maxDepth ≤ v.depth then none
  let tree ← withoutEmbedded? v
  if h : tree.readable = true then
    return ⟨tree.ordered, ordered_ordered tree, readable_ordered tree h⟩
  else none

end RentalGuard.Json
