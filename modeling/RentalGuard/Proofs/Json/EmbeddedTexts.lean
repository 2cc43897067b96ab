import RentalGuard.Json.Embedded

/-! # Texts inside values

An object whose first field has a certain name stands for the value of a text. A value without such
objects stays as it is when texts are replaced, and what is left after all texts have been replaced
is such a value.
-/

namespace RentalGuard.Json

mutual

/-- No object in the tree stands for a text. -/
def literal : Json → Bool
  | array items => literalItems items
  | object fields => !embedsText fields && literalFields fields
  | _ => true

def literalItems : List Json → Bool
  | [] => true
  | v :: rest => v.literal && literalItems rest

def literalFields : List (String × Json) → Bool
  | [] => true
  | (_, v) :: rest => v.literal && literalFields rest

end

/-- The names alone say whether an object stands for a text. -/
theorem embedsText_eq (fields : List (String × Json)) :
    embedsText fields = ((fields.map (·.1)).head? == some embeddedKey) := by
  cases fields <;> rfl

/-- No text is read as a value in which an object stands for a text. -/
def ReadsLiteral (valueOf : String → Option Json) : Prop :=
  ∀ text w, valueOf text = some w → w.literal = true

section

variable {valueOf : String → Option Json}

mutual

theorem replaceEmbedded?_of_literal : ∀ {v : Json}, v.literal = true →
    replaceEmbedded? valueOf v = some v
  | null, _ | bool _, _ | integer _, _ | double _, _ | string _, _ | unreadable, _ => by
    all_goals rfl
  | array items, h => by
    rw [replaceEmbedded?, replaceInItems?_of_literal h]
    rfl
  | object fields, h => by
    obtain ⟨hembeds, hfields⟩ := Bool.and_eq_true_iff.mp h
    rw [replaceEmbedded?, if_neg (by simpa using hembeds), replaceInFields?_of_literal hfields]
    rfl

theorem replaceInItems?_of_literal : ∀ {items : List Json}, literalItems items = true →
    replaceInItems? valueOf items = some items
  | [], _ => rfl
  | v :: rest, h => by
    obtain ⟨hv, hrest⟩ := Bool.and_eq_true_iff.mp h
    rw [replaceInItems?, replaceEmbedded?_of_literal hv, replaceInItems?_of_literal hrest]
    rfl

theorem replaceInFields?_of_literal : ∀ {fields : List (String × Json)},
    literalFields fields = true → replaceInFields? valueOf fields = some fields
  | [], _ => rfl
  | (k, v) :: rest, h => by
    obtain ⟨hv, hrest⟩ := Bool.and_eq_true_iff.mp h
    rw [replaceInFields?, replaceEmbedded?_of_literal hv, replaceInFields?_of_literal hrest]
    rfl

end

theorem replaceInItems?_cons {v : Json} {rest others : List Json}
    (h : replaceInItems? valueOf (v :: rest) = some others) :
    ∃ w more, replaceEmbedded? valueOf v = some w ∧ replaceInItems? valueOf rest = some more ∧
      others = w :: more := by
  rw [replaceInItems?] at h
  obtain ⟨w, hw, h⟩ := Option.bind_eq_some_iff.mp h
  obtain ⟨more, hmore, h⟩ := Option.bind_eq_some_iff.mp h
  cases h
  exact ⟨w, more, hw, hmore, rfl⟩

theorem replaceInFields?_cons {k : String} {v : Json} {rest others : List (String × Json)}
    (h : replaceInFields? valueOf ((k, v) :: rest) = some others) :
    ∃ w more, replaceEmbedded? valueOf v = some w ∧ replaceInFields? valueOf rest = some more ∧
      others = (k, w) :: more := by
  rw [replaceInFields?] at h
  obtain ⟨w, hw, h⟩ := Option.bind_eq_some_iff.mp h
  obtain ⟨more, hmore, h⟩ := Option.bind_eq_some_iff.mp h
  cases h
  exact ⟨w, more, hw, hmore, rfl⟩

/-- The fields keep their names. -/
theorem names_replaceInFields? : ∀ {fields others : List (String × Json)},
    replaceInFields? valueOf fields = some others → others.map (·.1) = fields.map (·.1)
  | [], _, h => by
    cases h
    rfl
  | (k, v) :: rest, others, h => by
    obtain ⟨w, more, -, hmore, rfl⟩ := replaceInFields?_cons h
    rw [List.map_cons, List.map_cons, names_replaceInFields? hmore]

theorem embedsText_replaceInFields? {fields others : List (String × Json)}
    (h : replaceInFields? valueOf fields = some others) :
    embedsText others = embedsText fields := by
  rw [embedsText_eq, embedsText_eq, names_replaceInFields? h]

mutual

theorem literal_replaceEmbedded? (hvalue : ReadsLiteral valueOf) : ∀ {v w : Json},
    replaceEmbedded? valueOf v = some w → w.literal = true
  | null, _, h | bool _, _, h | integer _, _, h | double _, _, h | string _, _, h
  | unreadable, _, h => by
    all_goals
      cases h
      rfl
  | array items, w, h => by
    obtain ⟨others, hothers, rfl⟩ := Option.map_eq_some_iff.mp h
    exact literal_replaceInItems? hvalue hothers
  | object fields, w, h => by
    rw [replaceEmbedded?] at h
    split at h
    · obtain ⟨text, -, htext⟩ := Option.bind_eq_some_iff.mp h
      exact hvalue text w htext
    · rename_i hembeds
      obtain ⟨others, hothers, rfl⟩ := Option.map_eq_some_iff.mp h
      rw [literal, embedsText_replaceInFields? hothers, literal_replaceInFields? hvalue hothers]
      simpa using hembeds

theorem literal_replaceInItems? (hvalue : ReadsLiteral valueOf) : ∀ {items others : List Json},
    replaceInItems? valueOf items = some others → literalItems others = true
  | [], _, h => by
    cases h
    rfl
  | v :: rest, others, h => by
    obtain ⟨w, more, hw, hmore, rfl⟩ := replaceInItems?_cons h
    rw [literalItems, literal_replaceEmbedded? hvalue hw, literal_replaceInItems? hvalue hmore,
      Bool.and_self]

theorem literal_replaceInFields? (hvalue : ReadsLiteral valueOf) :
    ∀ {fields others : List (String × Json)},
      replaceInFields? valueOf fields = some others → literalFields others = true
  | [], _, h => by
    cases h
    rfl
  | (k, v) :: rest, others, h => by
    obtain ⟨w, more, hw, hmore, rfl⟩ := replaceInFields?_cons h
    rw [literalFields, literal_replaceEmbedded? hvalue hw, literal_replaceInFields? hvalue hmore,
      Bool.and_self]

end

end

/-- Texts inside texts are replaced as well. -/
theorem readsLiteral_readEmbedded? : ∀ levels : Nat, ReadsLiteral (readEmbedded? levels)
  | 0, _, _, h => by cases h
  | levels + 1, text, w, h => by
    rw [readEmbedded?] at h
    obtain ⟨v, -, h⟩ := Option.bind_eq_some_iff.mp h
    split at h
    · cases h
    · exact literal_replaceEmbedded? (readsLiteral_readEmbedded? levels) h

/-- A text without texts in it stands for its value. -/
theorem withoutEmbedded?_text {text : String} {v : Json} (hread : read? text.toList = some v)
    (hdepth : v.depth ≤ maxDepth) (hliteral : v.literal = true) :
    withoutEmbedded? (object [(embeddedKey, string text)]) = some v := by
  have hlevel : ∀ levels : Nat, readEmbedded? (levels + 1) text = some v := by
    intro levels
    rw [readEmbedded?, hread]
    show (if maxDepth < v.depth then none else replaceEmbedded? (readEmbedded? levels) v) = _
    rw [if_neg (Nat.not_lt_of_le hdepth), replaceEmbedded?_of_literal hliteral]
  have hembeds : embedsText [(embeddedKey, string text)] = true := beq_self_eq_true embeddedKey
  rw [withoutEmbedded?, replaceEmbedded?, if_pos hembeds]
  -- the text of an object is not empty, so there is a level to read the text at
  exact hlevel _

end RentalGuard.Json
