import RentalGuard.Proofs.Json.Documents
import RentalGuard.Proofs.Json.Tokens

/-! # Values are read from their text

The text of a value is read as the value, but for the numbers that are read as other numbers.
-/

namespace RentalGuard.Json

/-! ## From tokens to the value -/

/-- After the start of an array a value is read like anywhere else, because it does not begin with
the end of the array. -/
theorem foldlM_firstItem (v : Json) (stack : List Frame) :
    v.tokens.foldlM Reading.next (.firstItem stack) =
      v.tokens.foldlM Reading.next (.value (.items [] :: stack)) := by
  cases v with
  | array items => cases items <;> rfl
  | object fields => rcases fields with _ | ⟨⟨k, v⟩, more⟩ <;> rfl
  | _ => rfl

theorem ofReadFields_map (fields : List (String × Json)) :
    ofReadFields (fields.map fun f => (some f.1, f.2)) = object fields := by
  have hnames : (fields.map fun f => (some f.1, f.2)).mapM
      (fun f : ReadField => f.1.map fun k => (k, f.2)) = some fields := by
    rw [List.mapM_map]
    exact List.mapM_pure.trans (congrArg some (List.map_id' _))
  unfold ofReadFields
  rw [hnames]

mutual

/-- The tokens of a value bring the reader from the place before it to the place after it. -/
theorem foldlM_tokens : ∀ (v : Json) (stack : List Frame),
    v.tokens.foldlM Reading.next (.value stack) = some (.ended v stack)
  | null, _ | bool _, _ | integer _, _ | double _, _ | string _, _ | unreadable, _ => by
    all_goals rfl
  | array [], _ => rfl
  | array (v :: rest), stack => by
    show (v.tokens ++ restTokens rest).foldlM Reading.next (.firstItem stack) = _
    rw [List.foldlM_append, foldlM_firstItem, foldlM_tokens v]
    exact foldlM_restTokens rest v [] stack
  | object [], _ => rfl
  | object ((k, v) :: rest), stack => by
    show (v.tokens ++ restFieldTokens rest).foldlM Reading.next
      (.value (.fields [] (some k) :: stack)) = _
    rw [List.foldlM_append, foldlM_tokens v]
    refine (foldlM_restFieldTokens rest k v [] stack).trans ?_
    exact congrArg (fun w => some (Reading.ended w stack)) (ofReadFields_map ((k, v) :: rest))

theorem foldlM_restTokens : ∀ (items : List Json) (v : Json) (done : List Json)
    (stack : List Frame), (restTokens items).foldlM Reading.next (.ended v (.items done :: stack)) =
      some (.ended (array ((v :: done).reverse ++ items)) stack)
  | [], v, done, stack => by
    rw [List.append_nil]
    rfl
  | w :: rest, v, done, stack => by
    show (w.tokens ++ restTokens rest).foldlM Reading.next
      (.value (.items (v :: done) :: stack)) = _
    rw [List.foldlM_append, foldlM_tokens w]
    refine (foldlM_restTokens rest w (v :: done) stack).trans ?_
    rw [List.reverse_cons, List.append_assoc]
    rfl

theorem foldlM_restFieldTokens : ∀ (fields : List (String × Json)) (k : String) (v : Json)
    (done : List ReadField) (stack : List Frame),
    (restFieldTokens fields).foldlM Reading.next (.ended v (.fields done (some k) :: stack)) =
      some (.ended (ofReadFields (((some k, v) :: done).reverse ++
        fields.map fun f => (some f.1, f.2))) stack)
  | [], k, v, done, stack => by
    rw [List.map_nil, List.append_nil]
    rfl
  | (k', w) :: rest, k, v, done, stack => by
    show (w.tokens ++ restFieldTokens rest).foldlM Reading.next
      (.value (.fields ((some k, v) :: done) (some k') :: stack)) = _
    rw [List.foldlM_append, foldlM_tokens w]
    refine (foldlM_restFieldTokens rest k' w ((some k, v) :: done) stack).trans ?_
    rw [List.reverse_cons, List.append_assoc]
    rfl

end

/-- Whatever is written is read, leaf by leaf. -/
theorem read?_chars (v : Json) : read? v.chars = some v.reread := by
  have htokens : tokens? v.chars = some v.reread.tokens := by
    have hread := readAs_chars v [] Text.endsRun_nil
    rw [List.append_nil, tokens?, Option.map_some, List.append_nil] at hread
    exact hread
  unfold read?
  rw [htokens, Option.bind_eq_bind, Option.bind_some, foldlM_tokens]
  rfl

/-- A value is read from its text exactly if all its leaves are. -/
theorem read?_chars_eq_self_iff {v : Json} : read? v.chars = some v ↔ v.Every Legible := by
  rw [read?_chars, Option.some.injEq, reread_eq_self_iff]

/-- A stored value is read back from its text exactly if it is restorable and all its leaves are. -/
theorem document?_reread_eq_iff {d : Document} :
    document? d.tree.reread = some d ↔ d.Restorable ∧ d.tree.Every Legible := by
  rw [← reread_eq_self_iff]
  exact document?_mapLeaves_eq_iff keepsLeaves_rereadLeaf

end RentalGuard.Json
