import RentalGuard.Json.Shortest
import RentalGuard.Json.Token
import RentalGuard.Text.Numeral
import RentalGuard.Text.Parts

/-! # Numbers are read as they are written

The parts of a written number are found again in its text. A whole number is written without zeros
in front, and is read exactly if it fits in 64 bits.
-/

namespace RentalGuard.Json

open Text

/-! ## Digits -/

/-- A number but zero is written without a zero in front. -/
theorem exists_first_digit {n : Nat} (h : n ≠ 0) :
    ∃ first rest, (toString n).toList = first :: rest ∧ first ≠ '0' := by
  obtain ⟨first, rest, hdigits⟩ := List.exists_cons_of_ne_nil (isUnsigned_toString n).ne_nil
  refine ⟨first, rest, hdigits, ?_⟩
  rintro rfl
  have hvalue := ofDigitChars_toString n
  rw [hdigits, Nat.ofDigitChars_cons] at hvalue
  -- without the zero there would be a shorter way to write the number
  have hrest : rest ≠ [] := by
    rintro rfl
    exact h hvalue.symm
  obtain ⟨zeros, hzeros⟩ := isUnsigned_ofDigitChars hrest fun c hc =>
    isDigit_of_mem_toString (n := n) (hdigits ▸ List.mem_cons_of_mem '0' hc)
  have hlength := congrArg List.length hzeros
  rw [show Nat.ofDigitChars 10 rest 0 = n from hvalue, hdigits, List.length_append,
    List.length_cons] at hlength
  omega

theorem wholeDigits?_of_first {first : Char} {rest : List Char} (hfirst : first ≠ '0')
    (hdigits : ∀ c ∈ first :: rest, c.isDigit = true) :
    wholeDigits? (first :: rest) = some (first :: rest) := by
  unfold wholeDigits?
  split
  · rename_i hzero
    rw [hzero]
  · rename_i hzero
    exact absurd (List.cons.inj hzero).1 hfirst
  · rename_i hnil
    cases hnil
  · exact if_pos (List.all_eq_true.mpr hdigits)

theorem wholeDigits?_toString (n : Nat) :
    wholeDigits? (toString n).toList = some (toString n).toList := by
  rcases Nat.eq_zero_or_pos n with rfl | hpos
  · rfl
  · obtain ⟨first, rest, hdigits, hfirst⟩ := exists_first_digit (Nat.ne_of_gt hpos)
    rw [hdigits]
    exact wholeDigits?_of_first hfirst fun c hc => isDigit_of_mem_toString (hdigits ▸ hc)

theorem exponent?_sign (negative : Bool) {cs : List Char} {n : Nat} (h : IsUnsigned cs n) :
    exponent? ((if negative then '-' else '+') :: cs) =
      some (if negative then -(n : Int) else n) := by
  have hcheck : (cs.isEmpty || !cs.all Char.isDigit) = false := by
    rw [List.isEmpty_eq_false_iff.mpr h.ne_nil, List.all_eq_true.mpr h.isDigit]
    rfl
  cases negative <;> simp [exponent?, hcheck, h.value]

/-! ## Parts -/

namespace Numeral

/-- The parts stand as a number is written: all digits, and no zero in front of others. -/
structure IsWritten (n : Numeral) : Prop where
  whole : wholeDigits? n.whole = some n.whole
  wholeDigits : ∀ c ∈ n.whole, c.isDigit = true
  fractionDigits : ∀ c ∈ n.fraction, c.isDigit = true

theorem IsWritten.whole_ne_nil {n : Numeral} (h : n.IsWritten) : n.whole ≠ [] := by
  intro hnil
  have hwhole := h.whole
  rw [hnil] at hwhole
  cases hwhole

theorem endsRun_exponentChars (exponent : Option Int) :
    EndsRun Char.isDigit (exponentChars exponent) := by
  cases exponent with
  | none => exact endsRun_nil
  | some n => exact endsRun_cons rfl

theorem endsRun_fractionChars (fraction : List Char) (exponent : Option Int) :
    EndsRun Char.isDigit (fractionChars fraction ++ exponentChars exponent) := by
  cases fraction with
  | nil => exact endsRun_exponentChars exponent
  | cons c rest => exact endsRun_cons rfl

theorem splitMinus_append {negative : Bool} {cs : List Char} (hcs : ∀ c ∈ cs.head?, c ≠ '-') :
    splitMinus ((if negative then ['-'] else []) ++ cs) = (negative, cs) := by
  cases negative with
  | true => rfl
  | false =>
    show splitMinus cs = _
    unfold splitMinus
    split
    · exact absurd rfl (hcs '-' rfl)
    · rfl

theorem splitFraction?_append {fraction : List Char}
    (hfraction : ∀ c ∈ fraction, c.isDigit = true) (exponent : Option Int) :
    splitFraction? (fractionChars fraction ++ exponentChars exponent) =
      some (fraction, exponentChars exponent) := by
  cases fraction with
  | nil => cases exponent <;> rfl
  | cons c rest =>
    have hends := endsRun_exponentChars exponent
    show splitFraction? ('.' :: ((c :: rest) ++ exponentChars exponent)) = _
    unfold splitFraction?
    simp only [takeWhile_run hfraction hends, dropWhile_run hfraction hends]
    rfl

theorem exponentPart?_exponentChars (exponent : Option Int) :
    exponentPart? (exponentChars exponent) = some exponent := by
  cases exponent with
  | none => rfl
  | some n =>
    have hvalue := exponent?_sign (decide (n < 0)) (isUnsigned_toString n.natAbs)
    have hn : (if decide (n < 0) = true then -(n.natAbs : Int) else n.natAbs) = n := by
      by_cases hnegative : n < 0
      · rw [if_pos (decide_eq_true hnegative)]
        omega
      · rw [if_neg (by rw [decide_eq_true_eq]; exact hnegative)]
        omega
    rw [hn] at hvalue
    show (exponent? _).map some = _
    simpa using congrArg (Option.map some) hvalue

/-- The parts are found again in the text. -/
theorem numeral?_chars {n : Numeral} (h : n.IsWritten) : numeral? n.chars = some n := by
  obtain ⟨first, rest, hwhole⟩ := List.exists_cons_of_ne_nil h.whole_ne_nil
  have hends := endsRun_fractionChars n.fraction n.exponent
  have hsign : ∀ c ∈ (n.whole ++ (fractionChars n.fraction ++ exponentChars n.exponent)).head?,
      c ≠ '-' := by
    rw [hwhole]
    rintro c ⟨⟩ rfl
    exact absurd (h.wholeDigits '-' (by simp [hwhole])) (by decide)
  unfold numeral? chars
  rw [List.append_assoc, List.append_assoc, splitMinus_append hsign]
  simp only [takeWhile_run h.wholeDigits hends, dropWhile_run h.wholeDigits hends, h.whole,
    splitFraction?_append h.fractionDigits, exponentPart?_exponentChars, Option.bind_eq_bind,
    Option.bind_some, Option.pure_def]

theorem chars_inj {n m : Numeral} (hn : n.IsWritten) (hm : m.IsWritten) :
    n.chars = m.chars ↔ n = m := by
  refine ⟨fun h => ?_, congrArg chars⟩
  have hsame := congrArg numeral? h
  rw [numeral?_chars hn, numeral?_chars hm] at hsame
  exact Option.some.inj hsame

/-- All characters of a written number can stand in one. -/
theorem isNumberChar_of_mem_chars {n : Numeral} (h : n.IsWritten) {c : Char} (hc : c ∈ n.chars) :
    isNumberChar c = true := by
  have hdigit : ∀ {c : Char}, c.isDigit = true → isNumberChar c = true := fun hc => by
    simp [isNumberChar, hc]
  simp only [chars, List.mem_append] at hc
  rcases hc with ((hsign | hwhole) | hfraction) | hexponent
  · split at hsign
    · rw [List.mem_singleton.mp hsign]
      rfl
    · cases hsign
  · exact hdigit (h.wholeDigits c hwhole)
  · unfold fractionChars at hfraction
    split at hfraction
    · cases hfraction
    · rcases List.mem_cons.mp hfraction with rfl | hrest
      · rfl
      · exact hdigit (h.fractionDigits c hrest)
  · unfold exponentChars at hexponent
    split at hexponent
    · cases hexponent
    · rcases List.mem_cons.mp hexponent with rfl | hrest
      · rfl
      · rcases List.mem_cons.mp hrest with rfl | hrest
        · split <;> rfl
        · exact hdigit (isDigit_of_mem_toString hrest)

end Numeral

/-! ## Values -/

/-- A whole number of 64 bits, with or without sign. -/
def FitsInteger (n : Int) : Prop := -0x8000000000000000 ≤ n ∧ n < 0x10000000000000000

instance (n : Int) : Decidable (FitsInteger n) := inferInstanceAs (Decidable (_ ∧ _))

namespace Numeral

/-- The parts of a whole number. -/
def ofInt (n : Int) : Numeral := ⟨decide (n < 0), (toString n.natAbs).toList, [], none⟩

theorem isWritten_ofInt (n : Int) : (ofInt n).IsWritten where
  whole := wholeDigits?_toString n.natAbs
  wholeDigits _ hc := isDigit_of_mem_toString hc
  fractionDigits _ hc := absurd hc List.not_mem_nil

theorem chars_ofInt (n : Int) : (ofInt n).chars = (toString n).toList := by
  cases n with
  | ofNat n =>
    have hsign : decide (Int.ofNat n < 0) = false :=
      decide_eq_false (Int.not_lt.mpr (Int.natCast_nonneg n))
    simp only [chars, ofInt, hsign, fractionChars, exponentChars, List.append_nil]
    rfl
  | negSucc n =>
    have hsign : decide (Int.negSucc n < 0) = true := decide_eq_true (Int.negSucc_lt_zero n)
    simp only [chars, ofInt, hsign, fractionChars, exponentChars, List.append_nil]
    show '-' :: (toString (n + 1)).toList = ("-" ++ toString (n + 1)).toList
    rw [String.toList_append]
    rfl

theorem ofInt_inj {n m : Int} (h : ofInt n = ofInt m) : n = m := by
  simp only [ofInt, mk.injEq, decide_eq_decide, and_true] at h
  have habs := congrArg (Nat.ofDigitChars 10 · 0) h.2
  simp only [ofDigitChars_toString] at habs
  omega

theorem integer?_ofInt {n : Int} (h : FitsInteger n) : (ofInt n).integer? = some n := by
  unfold FitsInteger at h
  unfold integer? ofInt
  simp only [ofDigitChars_toString, List.isEmpty_nil, Option.isNone_none, Bool.and_self, if_true]
  split
  · rename_i hnegative
    have hn := of_decide_eq_true hnegative
    rw [if_pos (by omega)]
    exact congrArg some (by omega)
  · rename_i hpositive
    have hn := of_decide_eq_false (Bool.not_eq_true _ ▸ hpositive)
    rw [if_pos (by omega)]
    exact congrArg some (by omega)

theorem value_of_integer? {n : Numeral} {i : Int} (h : n.integer? = some i) :
    n.value = integer i := by
  rw [value, h]

/-- What a number can be read as. -/
inductive IsValue : Json → Prop
  | integer {n : Int} (h : FitsInteger n) : IsValue (integer n)
  | double (d : Double) : IsValue (double d)
  | unreadable : IsValue unreadable

theorem fits_of_integer? {n : Numeral} {i : Int} (h : n.integer? = some i) : FitsInteger i := by
  unfold integer? at h
  unfold FitsInteger
  dsimp only at h
  split at h
  · split at h
    · split at h
      · cases h
        omega
      · cases h
    · split at h
      · cases h
        omega
      · cases h
  · cases h

theorem isValue (n : Numeral) : IsValue n.value := by
  unfold value
  split
  · exact .integer (fits_of_integer? ‹_›)
  · exact .double _
  · exact .unreadable

end Numeral

end RentalGuard.Json
