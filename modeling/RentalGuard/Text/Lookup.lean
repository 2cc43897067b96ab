import RentalGuard.Text.Order

/-! Looking up a text in a table by halving. The table has to be in rising order. -/

namespace RentalGuard.Text

/-- Whether the text is one of the `size` entries from the one at `base` on. The half in which it
cannot be is left out until one entry is left. -/
@[semireducible]
def isAmong {n : Nat} (entries : Vector String n) (text : String) (base size : Nat)
    (nonempty : 0 < size) (inside : base + size ≤ n) : Bool :=
  if h : 2 ≤ size then
    if Precedes text entries[base + size / 2] then
      isAmong entries text base (size - size / 2) (by omega) (by omega)
    else isAmong entries text (base + size / 2) (size - size / 2) (by omega) (by omega)
  else entries[base] == text
termination_by size

/-- Whether the text is in the table. -/
def isListed {n : Nat} (entries : Vector String n) (text : String) : Bool :=
  if h : 0 < n then isAmong entries text 0 n h (by omega) else false

variable {n base size : Nat} {entries : Vector String n} {text : String}

section Rising

variable (hrising : entries.toList.Pairwise Precedes)

include hrising

theorem precedes_of_lt {i j : Nat} (hij : i < j) (hj : j < n) :
    Precedes entries[i] entries[j] := by
  have hlength : entries.toList.length = n := Vector.length_toList
  have hpair := List.pairwise_iff_getElem.mp hrising i j (by omega) (by omega) hij
  rwa [Vector.getElem_toList, Vector.getElem_toList] at hpair

theorem not_precedes_of_le {i j : Nat} (hij : i ≤ j) (hj : j < n) :
    ¬Precedes entries[j] entries[i] := by
  rcases Nat.lt_or_eq_of_le hij with hlt | rfl
  · exact (precedes_of_lt hrising hlt hj).asymm
  · exact Precedes.irrefl _

theorem isAmong_iff (nonempty : 0 < size) (inside : base + size ≤ n) :
    isAmong entries text base size nonempty inside = true ↔
      ∃ (i : Nat) (hi : i < n), base ≤ i ∧ i < base + size ∧ entries[i] = text := by
  fun_induction isAmong entries text base size nonempty inside with
  | case1 base size nonempty inside htwo hbefore ih =>
    -- the text comes before the entry in the middle, so it is none from there on
    rw [ih]
    constructor
    · rintro ⟨i, hi, hbase, hend, hentry⟩
      exact ⟨i, hi, hbase, by omega, hentry⟩
    · rintro ⟨i, hi, hbase, hend, rfl⟩
      have hfront : i < base + size / 2 := by
        rw [← Nat.not_le]
        exact fun hmiddle => not_precedes_of_le hrising hmiddle hi hbefore
      exact ⟨i, hi, hbase, by omega, rfl⟩
  | case2 base size nonempty inside htwo hbefore ih =>
    rw [ih]
    constructor
    · rintro ⟨i, hi, hmiddle, hend, hentry⟩
      exact ⟨i, hi, by omega, by omega, hentry⟩
    · rintro ⟨i, hi, hbase, hend, rfl⟩
      have hback : base + size / 2 ≤ i := by
        rw [← Nat.not_lt]
        exact fun hfront => hbefore (precedes_of_lt hrising hfront (by omega))
      exact ⟨i, hi, hback, by omega, rfl⟩
  | case3 base size nonempty inside hone =>
    rw [beq_iff_eq]
    constructor
    · intro hentry
      exact ⟨base, by omega, Nat.le_refl base, by omega, hentry⟩
    · rintro ⟨i, hi, hbase, hend, hentry⟩
      obtain rfl : i = base := by omega
      exact hentry

/-- In a table in rising order halving finds what is there and nothing else. -/
theorem isListed_iff : isListed entries text = true ↔ text ∈ entries := by
  rw [Vector.mem_iff_getElem, isListed]
  split
  · rw [isAmong_iff hrising]
    exact exists_congr fun i => exists_congr fun hi => by simp [hi]
  · simp only [Bool.false_eq_true, false_iff, not_exists]
    intro i hi
    omega

end Rising

end RentalGuard.Text
