import RentalGuard.Text.Letters

/-! Hexadecimal digits. Letters are written in lower case and read in either case. -/

namespace RentalGuard.Text

/-- The lowest four bits of a number. -/
def nibble (n : Nat) : Fin 16 := ⟨n % 16, Nat.mod_lt n (by decide)⟩

/-- The written form of a digit. -/
def hexChar (d : Fin 16) : Char := Char.ofNat (if d.val < 10 then 48 + d.val else 87 + d.val)

/-- The digit that a character stands for. -/
def hexValue? (c : Char) : Option (Fin 16) :=
  if c.isDigit then some (nibble (c.toNat - 48))
  else if 'a' ≤ c ∧ c ≤ 'f' then some (nibble (c.toNat - 87))
  else if 'A' ≤ c ∧ c ≤ 'F' then some (nibble (c.toNat - 55))
  else none

theorem hexValue?_hexChar (d : Fin 16) : hexValue? (hexChar d) = some d := by
  revert d
  decide

theorem toNat_hexChar (d : Fin 16) :
    (hexChar d).toNat = if d.val < 10 then 48 + d.val else 87 + d.val := by
  revert d
  decide

/-- A character is read as the digit that is written like it, but for its case. -/
theorem hexValue?_eq_some_iff {c : Char} {d : Fin 16} :
    hexValue? c = some d ↔ c.toLower = hexChar d := by
  have hdigit : c.isDigit = true ↔ 48 ≤ c.toNat ∧ c.toNat ≤ 57 := Char.isDigit_iff_toNat
  have hlower : ('a' ≤ c ∧ c ≤ 'f') ↔ 97 ≤ c.toNat ∧ c.toNat ≤ 102 := Iff.rfl
  have hupper : ('A' ≤ c ∧ c ≤ 'F') ↔ 65 ≤ c.toNat ∧ c.toNat ≤ 70 := Iff.rfl
  have hd := d.isLt
  rw [← Char.toNat_inj, toNat_toLower, toNat_hexChar]
  simp only [hexValue?, nibble, hdigit, hlower, hupper]
  -- each class of characters is an interval of code points
  split
  · simp only [Option.some.injEq, Fin.ext_iff]
    split <;> split <;> omega
  · split
    · simp only [Option.some.injEq, Fin.ext_iff]
      split <;> split <;> omega
    · split
      · simp only [Option.some.injEq, Fin.ext_iff]
        split <;> split <;> omega
      · simp only [reduceCtorEq, false_iff]
        split <;> split <;> omega

theorem isSome_hexValue? (c : Char) : (hexValue? c).isSome = c.isHexDigit := by
  have hlower : decide ('a' ≤ c ∧ c ≤ 'f') = (c.val ≥ 'a'.val && c.val ≤ 'f'.val) :=
    Bool.decide_and ..
  have hupper : decide ('A' ≤ c ∧ c ≤ 'F') = (c.val ≥ 'A'.val && c.val ≤ 'F'.val) :=
    Bool.decide_and ..
  unfold hexValue? Char.isHexDigit
  rw [← hlower, ← hupper]
  split
  · simp [*]
  · split
    · simp [*]
    · split <;> simp [*]

theorem isAscii_of_isHexDigit {c : Char} (h : c.isHexDigit = true) : c.toNat < 128 := by
  simp only [Char.isHexDigit, Bool.or_eq_true, Bool.and_eq_true, decide_eq_true_eq, ge_iff_le,
    UInt32.le_iff_toNat_le] at h
  rcases h with (hdigit | hlower) | hupper
  · exact Nat.lt_of_le_of_lt (Char.isDigit_iff_toNat.mp hdigit).2 (by decide)
  · exact Nat.lt_of_le_of_lt hlower.2 (by decide)
  · exact Nat.lt_of_le_of_lt hupper.2 (by decide)

end RentalGuard.Text
