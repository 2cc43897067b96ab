import RentalGuard.Text.Blank

/-! The case of ASCII letters. Other letters have no case here, so what merely looks like an ASCII
letter is not one. -/

namespace RentalGuard.Text

/-- Whether the texts are the same but for the case of ASCII letters. -/
def sameLetters (a b : List Char) : Bool := a.map Char.toLower == b.map Char.toLower

theorem isUpper_iff_toNat {c : Char} : c.isUpper = true ↔ 65 ≤ c.toNat ∧ c.toNat ≤ 90 := by
  show decide ('A'.val ≤ c.val ∧ c.val ≤ 'Z'.val) = true ↔ _
  rw [decide_eq_true_iff]
  exact Iff.rfl

theorem isLower_iff_toNat {c : Char} : c.isLower = true ↔ 97 ≤ c.toNat ∧ c.toNat ≤ 122 := by
  show (decide ('a'.val ≤ c.val) && decide (c.val ≤ 'z'.val)) = true ↔ _
  rw [Bool.and_eq_true, decide_eq_true_iff, decide_eq_true_iff]
  exact Iff.rfl

theorem isDigit_iff_toNat {c : Char} : c.isDigit = true ↔ 48 ≤ c.toNat ∧ c.toNat ≤ 57 :=
  Char.isDigit_iff_toNat

theorem isAlphanum_iff {c : Char} :
    c.isAlphanum = true ↔ c.isUpper = true ∨ c.isLower = true ∨ c.isDigit = true := by
  show (c.isUpper || c.isLower || c.isDigit) = true ↔ _
  rw [Bool.or_eq_true, Bool.or_eq_true, or_assoc]

theorem isAscii_of_isUpper_or_isDigit {c : Char} (h : (c.isUpper || c.isDigit) = true) :
    c.toNat < 128 := by
  rw [Bool.or_eq_true, isUpper_iff_toNat, isDigit_iff_toNat] at h
  omega

theorem toNat_toUpper (c : Char) :
    c.toUpper.toNat = if 97 ≤ c.toNat ∧ c.toNat ≤ 122 then c.toNat - 32 else c.toNat := by
  have hlower : ('a'.val ≤ c.val ∧ c.val ≤ 'z'.val) = (97 ≤ c.toNat ∧ c.toNat ≤ 122) := rfl
  unfold Char.toUpper
  by_cases h : 97 ≤ c.toNat ∧ c.toNat ≤ 122
  · rw [dif_pos (hlower ▸ h), if_pos h]
    have hadd : (c.val + ('A'.val - 'a'.val)).toNat = (c.toNat + 4294967264) % 4294967296 :=
      UInt32.toNat_add _ _
    exact hadd.trans (by omega)
  · rw [dif_neg (hlower ▸ h), if_neg h]

theorem toNat_toLower (c : Char) :
    c.toLower.toNat = if 65 ≤ c.toNat ∧ c.toNat ≤ 90 then c.toNat + 32 else c.toNat := by
  have hupper : (c.val ≥ 'A'.val ∧ c.val ≤ 'Z'.val) = (65 ≤ c.toNat ∧ c.toNat ≤ 90) := rfl
  unfold Char.toLower
  by_cases h : 65 ≤ c.toNat ∧ c.toNat ≤ 90
  · rw [dif_pos (hupper ▸ h), if_pos h]
    have hadd : (c.val + ('a'.val - 'A'.val)).toNat = (c.toNat + 32) % 4294967296 :=
      UInt32.toNat_add _ _
    exact hadd.trans (by omega)
  · rw [dif_neg (hupper ▸ h), if_neg h]

/-- Two characters have one upper case if they have one lower case. -/
theorem toUpper_eq_toUpper_iff {c d : Char} : c.toUpper = d.toUpper ↔ c.toLower = d.toLower := by
  simp only [← Char.toNat_inj, toNat_toUpper, toNat_toLower]
  constructor <;> intro h <;> split at h <;> split at h <;> split <;> split <;> omega

theorem toLower_toUpper (c : Char) : c.toUpper.toLower = c.toLower := by
  rw [← toUpper_eq_toUpper_iff, ← Char.toNat_inj, toNat_toUpper, toNat_toUpper]
  split
  · exact if_neg (by omega)
  · rfl

/-- Whether the character is in ASCII and shows. -/
def isVisible (c : Char) : Bool := 0x21 ≤ c.toNat && c.toNat ≤ 0x7E

theorem isVisible_iff {c : Char} : isVisible c ↔ 0x21 ≤ c.toNat ∧ c.toNat ≤ 0x7E := by
  rw [isVisible, Bool.and_eq_true, decide_eq_true_iff, decide_eq_true_iff]

theorem isBlank_of_isVisible {c : Char} (h : isVisible c) : isBlank c = false :=
  isBlank_of_visible (isVisible_iff.mp h).1 (isVisible_iff.mp h).2

theorem isAscii_of_isVisible {c : Char} (h : isVisible c) : c.toNat < 128 := by
  have hc := (isVisible_iff.mp h).2
  omega

theorem isVisible_toLower {c : Char} : isVisible c.toLower ↔ isVisible c := by
  rw [isVisible_iff, isVisible_iff, toNat_toLower]
  split <;> omega

namespace sameLetters

variable {a b : List Char}

theorem length_eq (h : sameLetters a b) : a.length = b.length := by
  simpa using congrArg List.length (beq_iff_eq.mp h)

theorem append_iff {c d : List Char} (h : sameLetters a b) :
    sameLetters (a ++ c) (b ++ d) ↔ sameLetters c d := by
  simp only [sameLetters, beq_iff_eq, List.map_append, beq_iff_eq.mp h, List.append_cancel_left_eq]

theorem forall_isVisible (h : sameLetters a b) (hb : b.all isVisible) : ∀ c ∈ a, isVisible c := by
  intro c hc
  have hlower : c.toLower ∈ b.map Char.toLower := beq_iff_eq.mp h ▸ List.mem_map_of_mem hc
  obtain ⟨d, hd, he⟩ := List.mem_map.mp hlower
  rw [← isVisible_toLower, ← he, isVisible_toLower]
  exact List.all_eq_true.mp hb d hd

end sameLetters

end RentalGuard.Text
