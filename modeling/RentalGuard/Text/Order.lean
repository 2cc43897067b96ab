/-! The order of texts by the numbers of their characters, from the first character on. A text
comes before every longer one that begins with it. -/

namespace RentalGuard.Text

def charsPrecede : List Char → List Char → Bool
  | _, [] => false
  | [], _ :: _ => true
  | a :: as, b :: bs => a.toNat.blt b.toNat || (a == b && charsPrecede as bs)

/-- Whether `s` comes before `t`. -/
def Precedes (s t : String) : Prop := charsPrecede s.toList t.toList = true

instance (s t : String) : Decidable (Precedes s t) := inferInstanceAs (Decidable (_ = true))

theorem charsPrecede_trans : ∀ {as bs cs : List Char}, charsPrecede as bs = true →
    charsPrecede bs cs = true → charsPrecede as cs = true
  | [], _ :: _, [], _, h => by simp [charsPrecede] at h
  | [], _ :: _, _ :: _, _, _ => by simp [charsPrecede]
  | _ :: _, _ :: _, [], _, h => by simp [charsPrecede] at h
  | a :: as, b :: bs, c :: cs, h, h' => by
    simp only [charsPrecede, Bool.or_eq_true, Bool.and_eq_true, Nat.blt_eq, beq_iff_eq] at h h' ⊢
    rcases h with h | ⟨rfl, h⟩
    · rcases h' with h' | ⟨rfl, -⟩
      · exact Or.inl (Nat.lt_trans h h')
      · exact Or.inl h
    · rcases h' with h' | ⟨rfl, h'⟩
      · exact Or.inl h'
      · exact Or.inr ⟨rfl, charsPrecede_trans h h'⟩

theorem charsPrecede_total : ∀ {as bs : List Char}, charsPrecede as bs = false → as ≠ bs →
    charsPrecede bs as = true
  | [], [], _, h => absurd rfl h
  | [], _ :: _, h, _ => by simp [charsPrecede] at h
  | _ :: _, [], _, _ => by simp [charsPrecede]
  | a :: as, b :: bs, h, hn => by
    simp only [charsPrecede, Bool.or_eq_false_iff, Bool.and_eq_false_iff] at h
    simp only [charsPrecede, Bool.or_eq_true, Bool.and_eq_true, Nat.blt_eq, beq_iff_eq]
    have hab : ¬a.toNat < b.toNat := by
      intro hl
      have := Nat.blt_eq.mpr hl
      simp [this] at h
    by_cases he : a = b
    · subst he
      refine Or.inr ⟨rfl, charsPrecede_total ?_ fun e => hn (by rw [e])⟩
      simpa using h.2
    · refine Or.inl (Nat.lt_of_le_of_ne (Nat.not_lt.mp hab) fun e => he ?_)
      exact (Char.toNat_inj.mp e).symm

theorem charsPrecede_irrefl : ∀ cs : List Char, charsPrecede cs cs = false
  | [] => rfl
  | c :: cs => by
    have hc : c.toNat.blt c.toNat = false :=
      Bool.eq_false_iff.mpr fun h => Nat.lt_irrefl _ (Nat.blt_eq.mp h)
    rw [charsPrecede, hc, charsPrecede_irrefl cs, Bool.and_false, Bool.or_false]

theorem Precedes.trans {s t u : String} (h : Precedes s t) (h' : Precedes t u) : Precedes s u :=
  charsPrecede_trans h h'

theorem Precedes.irrefl (s : String) : ¬Precedes s s := by
  rw [Precedes, charsPrecede_irrefl]
  exact Bool.false_ne_true

theorem Precedes.ne {s t : String} (h : Precedes s t) : s ≠ t := by
  rintro rfl
  exact irrefl s h

theorem Precedes.asymm {s t : String} (h : Precedes s t) : ¬Precedes t s :=
  fun h' => irrefl s (h.trans h')

/-- Of two texts that differ, one comes before the other. -/
theorem Precedes.total {s t : String} (h : ¬Precedes s t) (hn : s ≠ t) : Precedes t s :=
  charsPrecede_total (by simpa [Precedes] using h) fun e => hn (String.toList_inj.mp e)

end RentalGuard.Text
