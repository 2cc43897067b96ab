import RentalGuard.Bank.Checksum
import RentalGuard.Text.Letters

/-! # The check number is a remainder

The characters of an account number write one number, which may have more than sixty digits. The
remainder that is carried along from character to character is that of this number, and it keeps
every step small.
-/

namespace RentalGuard.Checksum

/-! ## The number that is written -/

/-- The letters in the order of their numbers, which start at ten. -/
def letters : List Char := "ABCDEFGHIJKLMNOPQRSTUVWXYZ".toList

/-- The decimal digits that stand for a character: a digit stands for itself, a letter of either
case is replaced by its number. -/
def spelled (c : Char) : List Char :=
  if c.isDigit then [c] else (toString (10 + letters.idxOf c.toUpper)).toList

/-- The whole number, with the first four characters at the end. -/
def number (cs : List Char) : Nat := Nat.ofDigitChars 10 ((rotated cs).flatMap spelled) 0

/-- Whether a character of ASCII has a value below 36, with the digits of which it is spelled, just
if it is a letter or a digit. -/
def spelledByValue (c : Char) : Bool :=
  match Text.digit36? c with
  | some value => c.isAlphanum && value < 36 && spelled c == Nat.toDigits 10 value
  | none => !c.isAlphanum

theorem spelledByValue_of_isAlphanum {c : Char} (h : c.isAlphanum = true) :
    spelledByValue c = true := by
  have hall : (List.range 128).all (fun n => spelledByValue (Char.ofNat n)) = true := by decide
  have hlt : c.toNat < 128 := by
    rw [Text.isAlphanum_iff, Text.isUpper_iff_toNat, Text.isLower_iff_toNat,
      Text.isDigit_iff_toNat] at h
    omega
  have hc := List.all_eq_true.mp hall c.toNat (List.mem_range.mpr hlt)
  rwa [Char.ofNat_toNat] at hc

theorem exists_value {c : Char} (h : c.isAlphanum = true) :
    ∃ value < 36, Text.digit36? c = some value ∧ spelled c = Nat.toDigits 10 value := by
  have hc := spelledByValue_of_isAlphanum h
  unfold spelledByValue at hc
  split at hc
  · rename_i value hvalue
    simp only [Bool.and_eq_true, decide_eq_true_iff, beq_iff_eq] at hc
    exact ⟨value, hc.1.2, hvalue, hc.2⟩
  · rw [h] at hc
    cases hc

theorem digit36?_eq_none {c : Char} (h : ¬c.isAlphanum = true) : Text.digit36? c = none := by
  rw [Text.isAlphanum_iff] at h
  obtain ⟨hupper, hlower, hdigit⟩ := by simpa only [not_or] using h
  rw [Text.digit36?, if_neg hdigit, if_neg hupper, if_neg hlower]

/-- One or two digits after a number make the number that `append` computes. -/
theorem ofDigitChars_toDigits_eq_append (n : Nat) {value : Nat} (h : value < 36) :
    Nat.ofDigitChars 10 (Nat.toDigits 10 value) n = append n value := by
  rw [Nat.ofDigitChars_eq_ofDigitChars_zero, Nat.ofDigitChars_ten_toDigits]
  unfold append
  split
  · rename_i hsmall
    rw [Nat.toDigits_of_lt_base hsmall]
    show 10 * n + value = n * 10 + value
    omega
  · rename_i hlarge
    rw [Nat.toDigits_of_base_le (by decide) (by omega), Nat.toDigits_of_lt_base (by omega)]
    show 100 * n + value = n * 100 + value
    omega

/-! ## The remainder that is carried along -/

theorem append_mod (n value : Nat) : append (n % 97) value % 97 = append n value % 97 := by
  unfold append
  split <;> omega

/-- What is left of the number read so far decides what is left of it with one more character. -/
theorem step?_mod (n : Nat) {c : Char} (h : c.isAlphanum = true) :
    step? (n % 97) c = some (Nat.ofDigitChars 10 (spelled c) n % 97) := by
  obtain ⟨value, hlt, hvalue, hspelled⟩ := exists_value h
  rw [step?, hvalue, hspelled, ofDigitChars_toDigits_eq_append n hlt, Option.map_some, append_mod]

theorem foldlM_step?_mod {cs : List Char} (h : ∀ c ∈ cs, c.isAlphanum = true) (n : Nat) :
    cs.foldlM step? (n % 97) = some (Nat.ofDigitChars 10 (cs.flatMap spelled) n % 97) := by
  induction cs generalizing n with
  | nil => rfl
  | cons c rest ih =>
    obtain ⟨hc, hrest⟩ := List.forall_mem_cons.mp h
    rw [List.foldlM_cons, step?_mod n hc, List.flatMap_cons, Nat.ofDigitChars_append]
    exact ih hrest _

theorem foldlM_step?_eq_none {cs : List Char} (h : ∃ c ∈ cs, ¬c.isAlphanum = true) (n : Nat) :
    cs.foldlM step? n = none := by
  obtain ⟨c, hc, hkind⟩ := h
  induction cs generalizing n with
  | nil => cases hc
  | cons d rest ih =>
    rw [List.foldlM_cons]
    rcases List.mem_cons.mp hc with rfl | hrest
    · rw [step?, digit36?_eq_none hkind]
      rfl
    · cases step? n d with
      | none => rfl
      | some m => exact ih m hrest

theorem mem_rotated {c : Char} {cs : List Char} : c ∈ rotated cs ↔ c ∈ cs := by
  rw [rotated, List.mem_append, or_comm, ← List.mem_append, List.take_append_drop]

theorem remainder?_eq_some {cs : List Char} (hlength : 4 ≤ cs.length)
    (h : ∀ c ∈ cs, c.isAlphanum = true) : remainder? cs = some (number cs % 97) := by
  rw [remainder?, if_neg (by omega)]
  exact foldlM_step?_mod (fun c hc => h c (mem_rotated.mp hc)) 0

theorem remainder?_eq_none {cs : List Char}
    (h : ¬(4 ≤ cs.length ∧ ∀ c ∈ cs, c.isAlphanum = true)) : remainder? cs = none := by
  unfold remainder?
  split
  · rfl
  · rename_i hlength
    have hother : ∃ c ∈ cs, ¬c.isAlphanum = true := by
      refine Classical.byContradiction fun hnone => h ⟨by omega, fun c hc => ?_⟩
      exact Classical.byContradiction fun hkind => hnone ⟨c, hc, hkind⟩
    obtain ⟨c, hc, hkind⟩ := hother
    exact foldlM_step?_eq_none ⟨c, mem_rotated.mpr hc, hkind⟩ 0

/-! ## The size of a step -/

theorem lt_of_foldlM_step? {cs : List Char} {start remainder : Nat} (hstart : start < 97)
    (h : cs.foldlM step? start = some remainder) : remainder < 97 := by
  induction cs generalizing start with
  | nil => exact Option.some.inj h ▸ hstart
  | cons c rest ih =>
    rw [List.foldlM_cons] at h
    obtain ⟨next, hnext, hrest⟩ := Option.bind_eq_some_iff.mp h
    obtain ⟨value, -, rfl⟩ := Option.map_eq_some_iff.mp hnext
    exact ih (Nat.mod_lt _ (by decide)) hrest

theorem digit36?_lt {c : Char} {value : Nat} (h : Text.digit36? c = some value) : value < 36 := by
  by_cases hkind : c.isAlphanum = true
  · obtain ⟨other, hlt, hother, -⟩ := exists_value hkind
    rwa [Option.some.inj (h.symm.trans hother)]
  · rw [digit36?_eq_none hkind] at h
    cases h

/-- Before its remainder is taken, a number has four digits at most. -/
theorem append_lt {read : List Char} {c : Char} {remainder value : Nat}
    (hread : read.foldlM step? 0 = some remainder) (hvalue : Text.digit36? c = some value) :
    append remainder value < 10000 := by
  have hremainder := lt_of_foldlM_step? (by decide) hread
  have hlt := digit36?_lt hvalue
  unfold append
  split <;> omega

end RentalGuard.Checksum
