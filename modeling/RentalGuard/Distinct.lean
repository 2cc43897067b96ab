/-! Lists without repetitions. Of equal items the first one stays. -/

namespace RentalGuard

variable {α : Type} [DecidableEq α]

/-- The items in the order in which each comes first. -/
def distinct : List α → List α
  | [] => []
  | a :: rest => a :: (distinct rest).filter (· ≠ a)

@[simp] theorem mem_distinct {a : α} : ∀ {items : List α}, a ∈ distinct items ↔ a ∈ items
  | [] => by simp [distinct]
  | b :: rest => by
    have ih : a ∈ distinct rest ↔ a ∈ rest := mem_distinct
    by_cases h : a = b <;> simp [distinct, h, ih]

theorem nodup_distinct : ∀ items : List α, (distinct items).Nodup
  | [] => by simp [distinct]
  | b :: rest => by
    rw [distinct, List.nodup_cons]
    exact ⟨by simp, (nodup_distinct rest).filter _⟩

/-- A list without repetitions stays as it is. -/
theorem distinct_of_nodup : ∀ {items : List α}, items.Nodup → distinct items = items
  | [], _ => rfl
  | b :: rest, h => by
    obtain ⟨hb, hr⟩ := List.nodup_cons.mp h
    simp only [distinct, distinct_of_nodup hr]
    congr 1
    exact List.filter_eq_self.mpr fun a ha => by
      simpa using fun e : a = b => hb (e ▸ ha)

theorem filter_distinct (keep : α → Bool) : ∀ items : List α,
    (distinct items).filter keep = distinct (items.filter keep)
  | [] => rfl
  | a :: rest => by
    have ih := filter_distinct keep rest
    by_cases h : keep a = true
    · simp [distinct, h, ← ih, List.filter_filter, Bool.and_comm]
    · have hne : ∀ b, (keep b && decide (b ≠ a)) = keep b := by
        intro b
        by_cases hb : b = a <;> simp [hb, h]
      simp only [distinct, List.filter_cons_of_neg h, List.filter_filter, hne, ih]

/-- An item is left out if it is equal to one before it. -/
theorem distinct_eq_eraseDups : ∀ items : List α, distinct items = items.eraseDups
  | [] => rfl
  | a :: rest => by
    have ih := distinct_eq_eraseDups (rest.filter fun b => !b == a)
    rw [List.eraseDups_cons, ← ih, ← filter_distinct, distinct]
    simp only [ne_eq, decide_not]
    rfl
termination_by items => items.length
decreasing_by exact Nat.lt_succ_of_le (List.length_filter_le _ _)

theorem distinct_map {β : Type} [DecidableEq β] {f : α → β} (hf : ∀ a b, f a = f b → a = b) :
    ∀ items : List α, distinct (items.map f) = (distinct items).map f
  | [] => rfl
  | b :: rest => by
    have he : ∀ a, f a = f b ↔ a = b := fun a => ⟨hf a b, congrArg f⟩
    simp [distinct, distinct_map hf rest, List.filter_map, Function.comp_def, he]

end RentalGuard
