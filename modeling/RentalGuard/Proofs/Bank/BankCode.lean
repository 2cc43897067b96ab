import RentalGuard.Bank.Bic

/-! # Which texts are bank codes

A bank code has the form of one and names a country that is known. The reader takes exactly these
texts, in any spelling that has them as its compact form.
-/

namespace RentalGuard.Bic

/-- Each character of a bank code is an upper-case letter or a digit. -/
theorem chars_of_isWellFormed {cs : List Char} (h : isWellFormed cs = true) :
    ∀ c ∈ cs, (c.isUpper || c.isDigit) = true := by
  simp only [isWellFormed, isLocationStart, isLocationEnd, isCodeChar, Bool.and_eq_true,
    List.all_eq_true] at h
  obtain ⟨⟨⟨⟨-, hletters⟩, hstart⟩, hend⟩, hbranch⟩ := h
  have hlocation : cs.drop 6 = (cs.drop 6).take 1 ++ ((cs.drop 7).take 1 ++ cs.drop 8) := by
    rw [← List.drop_drop (i := 1) (j := 7), List.take_append_drop,
      ← List.drop_drop (i := 1) (j := 6), List.take_append_drop]
  intro c hc
  rw [← List.take_append_drop 6 cs, hlocation] at hc
  simp only [List.mem_append] at hc
  rcases hc with hc | hc | hc | hc
  · rw [hletters c hc, Bool.true_or]
  · exact (hstart c hc).1.1
  · exact (hend c hc).1
  · exact hbranch c hc

theorem compactForm_text (bic : Bic) : compactForm bic.text = bic.text :=
  compactForm_eq_self (chars_of_isWellFormed bic.wellFormed)

variable {raw : String} {bic : Bic}

theorem isEmpty_of_isWellFormed {cs : List Char} (h : isWellFormed cs = true) :
    cs.isEmpty = false := by
  cases cs with
  | nil => cases h
  | cons c rest => rfl

/-- The reader takes a text just if its compact form is a bank code, and gives that form. -/
theorem parse_eq_ok_iff : parse raw = .ok bic ↔ bic.text = compactForm raw ∧
    isWellFormed (compactForm raw).toList = true ∧
    isBicCountry (countryOf (compactForm raw)) = true := by
  constructor
  · intro h
    unfold parse at h
    simp only at h
    split at h
    · cases h
    · split at h
      · cases h
      · split at h
        · rename_i hshape
          split at h
          · rename_i hcountry
            rw [← Except.ok.inj h]
            exact ⟨rfl, hshape, hcountry⟩
          · cases h
        · cases h
  · rintro ⟨htext, hshape, hcountry⟩
    have hlength : ¬((compactForm raw).toList.length != 8 &&
        (compactForm raw).toList.length != 11) = true := by
      simp only [isWellFormed, Bool.and_eq_true, Bool.or_eq_true] at hshape
      rcases hshape.1.1.1.1 with height | heleven
      · rw [beq_iff_eq.mp height]
        exact Bool.false_ne_true
      · rw [beq_iff_eq.mp heleven]
        exact Bool.false_ne_true
    unfold parse
    rw [if_neg (by rw [isEmpty_of_isWellFormed hshape]; exact Bool.false_ne_true), if_neg hlength,
      dif_pos hshape, if_pos hcountry, Except.ok.injEq, Bic.mk.injEq, htext]

end RentalGuard.Bic
