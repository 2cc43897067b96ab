import RentalGuard.Proofs.Json.Numbers
import RentalGuard.Proofs.Json.Rounding

/-! # The text of a double

The decimal for which a double is written is found again in its text, so no two doubles are written
alike. That does not mean that the double itself is read from the text, because it is read in more
steps than one, each with its own rounding.
-/

namespace RentalGuard

open Text

/-- The decimal for which the parts stand, without the sign. -/
def Json.Numeral.decimal (n : Json.Numeral) : Decimal :=
  ⟨Nat.ofDigitChars 10 (n.whole ++ n.fraction) 0, n.exponent.getD 0 - n.fraction.length⟩

namespace Decimal

variable {d : Decimal}

/-! ## Parts of a written decimal -/

theorem negative_numeral (negative : Bool) : (d.numeral negative).negative = negative := by
  unfold numeral
  dsimp only
  split
  · rfl
  split
  · rfl
  split <;> rfl

/-- The double next to what is written is the one next to the decimal. -/
theorem units_numeral (negative : Bool) : (d.numeral negative).decimal.units = d.units := by
  have hone : 0 < (toString d.coefficient).toList.length :=
    List.length_pos_iff.mpr (isUnsigned_toString d.coefficient).ne_nil
  unfold numeral
  dsimp only
  split
  · -- all digits are before the point, and a zero stands after it
    rename_i hwhole
    refine Eq.trans (congrArg units (congrArg₂ mk ?_ ?_))
      (units_mul_pow d.coefficient (d.exponent.toNat + 1) d.exponent)
    · rw [List.append_assoc, ← List.replicate_succ', Nat.ofDigitChars_append,
        ofDigitChars_toString, Nat.ofDigitChars_replicate_zero, Nat.mul_comm]
      rfl
    · simp only [Option.getD_none, List.length_singleton]
      omega
  refine congrArg units ?_
  split
  · refine congrArg₂ mk ?_ ?_
    · rw [List.take_append_drop, ofDigitChars_toString]
    · simp only [Option.getD_none, List.length_drop]
      omega
  split
  · refine congrArg₂ mk ?_ ?_
    · rw [List.singleton_append, ← List.cons_append, ← List.replicate_succ,
        Nat.ofDigitChars_append, Nat.ofDigitChars_replicate_zero, Nat.mul_zero, ofDigitChars_toString]
    · simp only [Option.getD_none, List.length_append, List.length_replicate]
      omega
  · refine congrArg₂ mk ?_ ?_
    · rw [List.take_append_drop, ofDigitChars_toString]
    · simp only [Option.getD_some, List.length_drop]
      omega

/-- What is written has a point or an exponent. -/
theorem fraction_or_exponent (negative : Bool) :
    (d.numeral negative).fraction ≠ [] ∨ (d.numeral negative).exponent ≠ none := by
  unfold numeral
  dsimp only
  split
  · exact .inl (List.cons_ne_nil _ _)
  split
  · refine .inl (List.ne_nil_of_length_pos ?_)
    rw [List.length_drop]
    omega
  split
  · have hdigits := (isUnsigned_toString d.coefficient).ne_nil
    exact .inl (List.append_ne_nil_of_right_ne_nil _ hdigits)
  · exact .inr (Option.some_ne_none _)

theorem integer?_numeral (negative : Bool) : (d.numeral negative).integer? = none := by
  refine if_neg ?_
  rw [Bool.and_eq_true, List.isEmpty_iff, Option.isNone_iff_eq_none, not_and_or]
  exact fraction_or_exponent negative

theorem isDigit_zeros (places : Nat) : ∀ c ∈ List.replicate places '0', c.isDigit = true :=
  fun _ hc => List.eq_of_mem_replicate hc ▸ rfl

/-- Zero can be written with this exponent, and any other number with all. -/
theorem isWritten_numeral (negative : Bool) (h : d.coefficient ≠ 0 ∨ d = ⟨0, 0⟩) :
    (d.numeral negative).IsWritten := by
  rcases h with hne | rfl
  · obtain ⟨first, rest, hdigits, hfirst⟩ := Json.exists_first_digit hne
    have hall : ∀ c ∈ first :: rest, c.isDigit = true := fun c hc =>
      isDigit_of_mem_toString (hdigits ▸ hc)
    have hwhole : ∀ ds : List Char, (∀ c ∈ first :: ds, c.isDigit = true) →
        Json.wholeDigits? (first :: ds) = some (first :: ds) := fun ds =>
      Json.wholeDigits?_of_first hfirst
    unfold numeral
    dsimp only
    rw [hdigits]
    split
    · have hdigit : ∀ c ∈ first :: rest ++ List.replicate d.exponent.toNat '0', c.isDigit = true :=
        List.forall_mem_append.mpr ⟨hall, isDigit_zeros _⟩
      exact ⟨hwhole _ hdigit, hdigit, by simp⟩
    split
    · rename_i hpoint
      obtain ⟨k, hk⟩ : ∃ k, ((first :: rest).length + d.exponent).toNat = k + 1 :=
        ⟨_, (Nat.succ_pred_eq_of_pos (by omega)).symm⟩
      have hdigit : ∀ c ∈ first :: rest.take k, c.isDigit = true := fun c hc =>
        hall c (List.mem_of_mem_take (i := k + 1) hc)
      rw [hk, List.take_succ_cons]
      exact ⟨hwhole _ hdigit, hdigit, fun c hc => hall c (List.mem_of_mem_drop hc)⟩
    split
    · exact ⟨rfl, by simp, List.forall_mem_append.mpr ⟨isDigit_zeros _, hall⟩⟩
    · have hdigit : ∀ c ∈ [first], c.isDigit = true := fun c hc =>
        hall c (List.mem_singleton.mp hc ▸ List.mem_cons_self)
      exact ⟨hwhole _ hdigit, hdigit, fun c hc => hall c (List.mem_of_mem_drop hc)⟩
  · exact ⟨rfl, isDigit_zeros 1, isDigit_zeros 1⟩

end Decimal

namespace Double

variable {d e : Double}

/-! ## The decimal of a double -/

theorem units_zero (exponent : Int) : Decimal.units ⟨0, exponent⟩ = 0 := by
  unfold Decimal.units nearest roundedQuotient
  simp

theorem units_decimal : d.decimal.units = d.units := by
  unfold decimal
  split
  · rename_i hzero
    rw [hzero, units_zero]
  · exact Decimal.units_shortest d.exact _

theorem coefficient_ne_zero {c : Decimal} (hzero : d.units ≠ 0) (h : c.units = d.units) :
    c.coefficient ≠ 0 := by
  intro hnone
  have hdecimal : c = ⟨0, c.exponent⟩ := congrArg (Decimal.mk · c.exponent) hnone
  rw [← h, hdecimal, units_zero] at hzero
  exact hzero rfl

/-- A decimal with the double next to it does not have more zeros at the end than the double has
binary places before the point. -/
theorem exponent_le_log2 {c : Decimal} (hzero : d.units ≠ 0) (h : c.units = d.units) :
    c.exponent ≤ (d.units / unitsOfOne).log2 := by
  by_contra hlarge
  have hle := Decimal.pow_two_le_units (n := (d.units / unitsOfOne).log2 + 1)
    (coefficient_ne_zero hzero h) (by omega)
  have hless : d.units < Nat.pow 2 ((d.units / unitsOfOne).log2 + 1) * unitsOfOne :=
    Nat.lt_mul_of_div_lt Nat.lt_log2_self (Nat.pow_pos (by decide))
  omega

/-- No decimal with fewer digits has the double next to it. -/
theorem exponent_le_decimal {c : Decimal} (hzero : d.units ≠ 0) (h : c.units = d.units) :
    c.exponent ≤ d.decimal.exponent := by
  have hlarge := exponent_le_log2 hzero h
  unfold decimal
  rw [if_neg hzero]
  refine Decimal.exponent_le_shortest d.exact h ?_
  unfold Decimal.finest
  omega

theorem isWritten_numeral : d.numeral.IsWritten := by
  refine Decimal.isWritten_numeral d.negative ?_
  by_cases hzero : d.units = 0
  · exact .inr (if_pos hzero)
  · exact .inl (coefficient_ne_zero hzero units_decimal)

/-! ## The text of a double -/

/-- No two doubles are written alike. -/
theorem chars_inj : d.chars = e.chars ↔ d = e := by
  refine ⟨fun h => ?_, congrArg chars⟩
  have hparts : d.numeral = e.numeral :=
    (Json.Numeral.chars_inj isWritten_numeral isWritten_numeral).mp h
  have hunits := congrArg (fun n => n.decimal.units) hparts
  simp only [numeral, Decimal.units_numeral, units_decimal] at hunits
  have hsign := congrArg Json.Numeral.negative hparts
  simp only [numeral, Decimal.negative_numeral] at hsign
  exact Double.ext hsign hunits

/-- The double is read from its text. -/
def ReadsBack (d : Double) : Prop := d.numeral.double? = some d

instance : Decidable d.ReadsBack := inferInstanceAs (Decidable (_ = _))

theorem value_numeral_eq_iff : d.numeral.value = .double d ↔ d.ReadsBack := by
  have hinteger : d.numeral.integer? = none := Decimal.integer?_numeral d.negative
  unfold Json.Numeral.value ReadsBack
  rw [hinteger]
  cases d.numeral.double? <;> simp

/-- The double next to 94.52706955539223. -/
def misread : Double where
  negative := false
  units := nearest (9452706955539223 * unitsOfOne) (Nat.pow 10 14)
  exact := nearest_exact
  finite := by decide +kernel

/-- It is written as that number and read as another one. The quotient of a rounded number by a
power of ten has been rounded once more. -/
theorem not_readsBack_misread :
    misread.chars = "94.52706955539223".toList ∧
      misread.numeral.double?.map chars = some "94.52706955539225".toList ∧
      ¬misread.ReadsBack := by
  decide +kernel

end Double

end RentalGuard
