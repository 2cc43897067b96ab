import RentalGuard.Proofs.Payment.Acceptance
import RentalGuard.Text.Letters

/-! # What the check digit of a card number detects

Doubling permutes the digits, so at every place of a number just one digit makes the sum come out,
whatever the other digits are. Of two neighbours one counts double; when they are exchanged the sum
changes, except that 0 and 9 count the same in both ways. Blanks and hyphens do not count at all,
so that the same holds of a number as it is typed.
-/

namespace RentalGuard

namespace Luhn

/-! ## What a digit counts -/

def counted (double : Bool) (d : Nat) : Nat := if double then doubled d else d

theorem sum_cons (double : Bool) (d : Nat) (rest : List Nat) :
    sum double (d :: rest) = counted double d + sum (!double) rest := rfl

theorem counted_lt {d : Nat} (double : Bool) (h : d < 10) : counted double d < 10 := by
  unfold counted doubled
  split
  · split <;> omega
  · exact h

/-- Every digit is what just one digit counts. -/
theorem exists_counted_eq (double : Bool) {n : Nat} (h : n < 10) :
    ∃ d < 10, ∀ e < 10, counted double e = n ↔ e = d := by
  have hall : ∀ double : Bool, ∀ n < 10, ∃ d < 10, ∀ e < 10, counted double e = n ↔ e = d := by
    decide
  exact hall double n h

/-- Two digits count the same in both orders only if they are the same, or are 0 and 9. -/
theorem counted_exchange (double : Bool) {d e : Nat} (hd : d < 10) (he : e < 10) :
    (counted (!double) d + counted double e) % 10 = (counted (!double) e + counted double d) % 10 ↔
      d = e ∨ (d = 0 ∧ e = 9) ∨ (d = 9 ∧ e = 0) := by
  have hall : ∀ double : Bool, ∀ d < 10, ∀ e < 10,
      (counted (!double) d + counted double e) % 10 =
        (counted (!double) e + counted double d) % 10 ↔
      d = e ∨ (d = 0 ∧ e = 9) ∨ (d = 9 ∧ e = 0) := by
    decide
  exact hall double d hd e he

/-! ## The sum of a text -/

/-- How many digits stand to the right settles whether the next one counts double; what they are
does not matter. -/
theorem exists_sum_append (double : Bool) (front : List Nat) :
    ∃ next, ∀ back, sum double (front ++ back) = sum double front + sum next back := by
  induction front generalizing double with
  | nil => exact ⟨double, fun back => (Nat.zero_add _).symm⟩
  | cons d rest ih =>
    obtain ⟨next, hnext⟩ := ih (!double)
    refine ⟨next, fun back => ?_⟩
    rw [List.cons_append, sum_cons, sum_cons, hnext, Nat.add_assoc]

/-- What the digits of a text count together. -/
def total (digits : List Char) : Nat := sum false (digits.reverse.map digitValue)

/-- The part of one digit in the sum does not depend on the others. -/
theorem exists_total_eq (before after : List Char) :
    ∃ double rest, ∀ c,
      total (before ++ c :: after) = rest + counted double (digitValue c) := by
  obtain ⟨double, hdouble⟩ := exists_sum_append false (after.reverse.map digitValue)
  refine ⟨double, sum false (after.reverse.map digitValue) +
    sum (!double) (before.reverse.map digitValue), fun c => ?_⟩
  have htotal : total (before ++ c :: after) = sum false (after.reverse.map digitValue ++
      digitValue c :: before.reverse.map digitValue) := by
    simp [total]
  rw [htotal, hdouble, sum_cons]
  omega

/-- Of two neighbours one counts double. -/
theorem exists_total_eq_pair (before after : List Char) :
    ∃ double rest, ∀ c d, total (before ++ c :: d :: after) =
      rest + (counted (!double) (digitValue c) + counted double (digitValue d)) := by
  obtain ⟨double, hdouble⟩ := exists_sum_append false (after.reverse.map digitValue)
  refine ⟨double, sum false (after.reverse.map digitValue) +
    sum double (before.reverse.map digitValue), fun c d => ?_⟩
  have htotal : total (before ++ c :: d :: after) = sum false (after.reverse.map digitValue ++
      digitValue d :: digitValue c :: before.reverse.map digitValue) := by
    simp [total]
  rw [htotal, hdouble, sum_cons, sum_cons, Bool.not_not]
  omega

/-! ## Digits -/

theorem digitValue_lt {c : Char} (h : c.isDigit = true) : digitValue c < 10 := by
  have hc := Text.isDigit_iff_toNat.mp h
  unfold digitValue
  omega

theorem digitValue_inj {c d : Char} (hc : c.isDigit = true) (hd : d.isDigit = true) :
    digitValue c = digitValue d ↔ c = d := by
  rw [← Char.toNat_inj]
  rw [Text.isDigit_iff_toNat] at hc hd
  unfold digitValue
  omega

theorem exists_digitValue_eq {n : Nat} (h : n < 10) : ∃ c, c.isDigit = true ∧ digitValue c = n := by
  have hvalue := Nat.toNat_digitChar_of_lt_ten h
  refine ⟨n.digitChar, Text.isDigit_iff_toNat.mpr (by omega), ?_⟩
  unfold digitValue
  omega

theorem isValid_iff_total {digits : List Char} : isValid digits = true ↔
    digits ≠ [] ∧ (∀ c ∈ digits, c.isDigit = true) ∧ total digits % 10 = 0 := isValid_iff

/-! ## One digit, and two neighbours -/

/-- At every place just one digit makes a text valid. -/
theorem exists_valid_digit {before after : List Char} (hbefore : ∀ c ∈ before, c.isDigit = true)
    (hafter : ∀ c ∈ after, c.isDigit = true) :
    ∃ c, c.isDigit = true ∧ ∀ d, isValid (before ++ d :: after) = true ↔ d = c := by
  obtain ⟨double, rest, htotal⟩ := exists_total_eq before after
  obtain ⟨n, hn, hcounted⟩ := exists_counted_eq double (n := (10 - rest % 10) % 10) (by omega)
  obtain ⟨c, hc, rfl⟩ := exists_digitValue_eq hn
  refine ⟨c, hc, fun d => ?_⟩
  have hsum : ∀ {m : Nat}, m < 10 → ((rest + m) % 10 = 0 ↔ m = (10 - rest % 10) % 10) := by
    intro m hm
    omega
  have hdigits : (∀ e ∈ before ++ d :: after, e.isDigit = true) ↔ d.isDigit = true := by
    constructor
    · exact fun h => h d (by simp)
    · intro hd e he
      rcases List.mem_append.mp he with he | he
      · exact hbefore e he
      · rcases List.mem_cons.mp he with rfl | he
        · exact hd
        · exact hafter e he
  rw [isValid_iff_total, hdigits, htotal, and_iff_right (by simp)]
  constructor
  · rintro ⟨hd, hzero⟩
    have hvalue := (hcounted _ (digitValue_lt hd)).mp
      ((hsum (counted_lt double (digitValue_lt hd))).mp hzero)
    exact (digitValue_inj hd hc).mp hvalue
  · rintro rfl
    exact ⟨hc, (hsum (counted_lt double hn)).mpr ((hcounted _ hn).mpr rfl)⟩

/-- Another digit in a valid text makes it invalid. -/
theorem isValid_of_replaced {before after : List Char} {c d : Char}
    (h : isValid (before ++ c :: after) = true) (hne : d ≠ c) :
    isValid (before ++ d :: after) = false := by
  have hdigits := (isValid_iff.mp h).2.1
  have hbefore : ∀ e ∈ before, e.isDigit = true := fun e he => hdigits e (by simp [he])
  have hafter : ∀ e ∈ after, e.isDigit = true := fun e he => hdigits e (by simp [he])
  obtain ⟨e, -, honly⟩ := exists_valid_digit hbefore hafter
  rw [← Bool.not_eq_true, honly]
  exact (honly c).mp h ▸ hne

/-- The two digits that count the same whether doubled or not. -/
def AreNoughtAndNine (c d : Char) : Prop := (c = '0' ∧ d = '9') ∨ (c = '9' ∧ d = '0')

instance (c d : Char) : Decidable (AreNoughtAndNine c d) :=
  inferInstanceAs (Decidable ((c = '0' ∧ d = '9') ∨ (c = '9' ∧ d = '0')))

theorem areNoughtAndNine_iff {c d : Char} (hc : c.isDigit = true) (hd : d.isDigit = true) :
    AreNoughtAndNine c d ↔ (digitValue c = 0 ∧ digitValue d = 9) ∨
      (digitValue c = 9 ∧ digitValue d = 0) := by
  have hzero : digitValue '0' = 0 := rfl
  have hnine : digitValue '9' = 9 := rfl
  rw [AreNoughtAndNine, ← digitValue_inj hc (d := '0') rfl, ← digitValue_inj hc (d := '9') rfl,
    ← digitValue_inj hd (d := '0') rfl, ← digitValue_inj hd (d := '9') rfl, hzero, hnine]

/-- Two different neighbours in a valid text cannot be exchanged, unless they are 0 and 9. -/
theorem isValid_of_exchanged {before after : List Char} {c d : Char}
    (h : isValid (before ++ c :: d :: after) = true) (hne : c ≠ d) :
    isValid (before ++ d :: c :: after) = true ↔ AreNoughtAndNine c d := by
  obtain ⟨-, hdigits, hzero⟩ := isValid_iff_total.mp h
  obtain ⟨double, rest, htotal⟩ := exists_total_eq_pair before after
  have hc : c.isDigit = true := hdigits c (by simp)
  have hd : d.isDigit = true := hdigits d (by simp)
  have hexchanged : ∀ e ∈ before ++ d :: c :: after, e.isDigit = true := by
    intro e he
    refine hdigits e ?_
    simp only [List.mem_append, List.mem_cons] at he ⊢
    exact he.imp_right or_left_comm.mp
  have hpair := counted_exchange double (digitValue_lt hc) (digitValue_lt hd)
  rw [digitValue_inj hc hd, or_iff_right hne, ← areNoughtAndNine_iff hc hd] at hpair
  rw [htotal] at hzero
  rw [← hpair, isValid_iff_total, htotal]
  constructor
  · rintro ⟨-, -, hother⟩
    omega
  · intro hsame
    exact ⟨by simp, hexchanged, by omega⟩

/-! ## The sum in words of 32 bits -/

/-- The sum as it is computed in words, which start again at zero when they are full. -/
def wordSum (double : Bool) (sofar : UInt32) : List Nat → UInt32
  | [] => sofar
  | d :: rest => wordSum (!double) (sofar + UInt32.ofNat (counted double d)) rest

/-- As long as nine for each digit fit in a word, no word is ever full. -/
theorem toNat_wordSum {values : List Nat} (hvalues : ∀ d ∈ values, d < 10) (double : Bool)
    {sofar : UInt32} (hfits : sofar.toNat + 9 * values.length < UInt32.size) :
    (wordSum double sofar values).toNat = sofar.toNat + sum double values := by
  induction values generalizing double sofar with
  | nil => rfl
  | cons d rest ih =>
    obtain ⟨hd, hrest⟩ := List.forall_mem_cons.mp hvalues
    have hlt := counted_lt double hd
    rw [List.length_cons] at hfits
    have hword : (UInt32.ofNat (counted double d)).toNat = counted double d :=
      UInt32.toNat_ofNat_of_lt' (by omega)
    have hnext : (sofar + UInt32.ofNat (counted double d)).toNat =
        sofar.toNat + counted double d := by
      rw [UInt32.toNat_add, hword]
      exact Nat.mod_eq_of_lt (Nat.lt_of_le_of_lt (by omega) hfits)
    rw [wordSum, ih hrest (!double) (by omega), hnext, sum_cons, Nat.add_assoc]

theorem toNat_wordSum_text {digits : List Char} (hdigits : ∀ c ∈ digits, c.isDigit = true)
    (hfits : 9 * digits.length < UInt32.size) :
    (wordSum false 0 (digits.reverse.map digitValue)).toNat = total digits := by
  have hvalues : ∀ n ∈ digits.reverse.map digitValue, n < 10 := by
    intro n hn
    obtain ⟨c, hc, rfl⟩ := List.mem_map.mp hn
    exact digitValue_lt (hdigits c (List.mem_reverse.mp hc))
  have hempty : (0 : UInt32).toNat + 9 * (digits.reverse.map digitValue).length <
      UInt32.size := by
    rw [List.length_map, List.length_reverse]
    exact (Nat.zero_add _).symm ▸ hfits
  exact (toNat_wordSum hvalues false hempty).trans (Nat.zero_add _)

end Luhn

/-! ## Numbers as they are typed -/

namespace CardNumber

open Luhn

/-- A character that is left out when a number is read. -/
def isSeparator (c : Char) : Bool := Text.isBlank c || c == '-'

theorem isSeparator_of_isDigit {c : Char} (h : c.isDigit = true) : isSeparator c = false := by
  have hblank : Text.isBlank c = false :=
    Text.isBlank_of_isUpper_or_isDigit (by rw [h, Bool.or_true])
  have hhyphen : c ≠ '-' := by
    rintro rfl
    cases h
  rw [isSeparator, hblank, Bool.false_or, beq_eq_false_iff_ne]
  exact hhyphen

/-- The digits of a number, if it is well formed. -/
def digitsOf (cs : List Char) : List Char := cs.filter fun c => !isSeparator c

theorem toList_cleaned (cs : List Char) : (cleaned (String.ofList cs)).toList = digitsOf cs := by
  simp only [cleaned, digitsOf, String.toList_ofList, isSeparator, Bool.not_or, bne]

theorem digitsOf_cons {c : Char} (h : c.isDigit = true) (rest : List Char) :
    digitsOf (c :: rest) = c :: digitsOf rest :=
  List.filter_cons_of_pos (by rw [isSeparator_of_isDigit h, Bool.not_false])

theorem digitsOf_append (front back : List Char) :
    digitsOf (front ++ back) = digitsOf front ++ digitsOf back :=
  List.filter_append front back

theorem digitsOf_separators {cs : List Char} (h : ∀ c ∈ cs, isSeparator c = true) :
    digitsOf cs = [] :=
  List.filter_eq_nil_iff.mpr fun c hc => by rw [h c hc, Bool.not_true]; exact Bool.false_ne_true

/-- What is asked of the digits besides the sum. -/
structure HasForm (digits : List Char) : Prop where
  digits_only : ∀ c ∈ digits, c.isDigit = true
  length_range : cardDigitRange.1 ≤ digits.length ∧ digits.length ≤ cardDigitRange.2

namespace HasForm

variable {before after : List Char} {c d : Char}

theorem replaced (h : HasForm (before ++ c :: after)) (hd : d.isDigit = true) :
    HasForm (before ++ d :: after) := by
  refine ⟨fun e he => ?_, ?_⟩
  · rcases List.mem_append.mp he with he | he
    · exact h.digits_only e (List.mem_append_left _ he)
    · rcases List.mem_cons.mp he with rfl | he
      · exact hd
      · exact h.digits_only e (List.mem_append_right _ (List.mem_cons_of_mem _ he))
  · have hlength := h.length_range
    simp only [List.length_append, List.length_cons] at hlength ⊢
    exact hlength

theorem exchanged (h : HasForm (before ++ c :: d :: after)) :
    HasForm (before ++ d :: c :: after) := by
  have hperm : (before ++ d :: c :: after).Perm (before ++ c :: d :: after) :=
    (List.Perm.swap c d after).append_left before
  exact ⟨fun e he => h.digits_only e (hperm.mem_iff.mp he), hperm.length_eq ▸ h.length_range⟩

end HasForm

variable {cs : List Char} {number : CardNumber}

theorem form_of_parse (h : parse (String.ofList cs) = .ok number) :
    HasForm (digitsOf cs) ∧ isValid (digitsOf cs) = true := by
  have hdigits := congrArg String.toList (parse_eq_ok_iff.mp h)
  rw [toList_cleaned] at hdigits
  rw [hdigits]
  exact ⟨⟨(isValid_iff.mp number.luhn).2.1, number.lengthInRange⟩, number.luhn⟩

theorem HasForm.exists_parse (h : HasForm (digitsOf cs)) (hvalid : isValid (digitsOf cs) = true) :
    ∃ number, parse (String.ofList cs) = .ok number ∧ number.digits.toList = digitsOf cs := by
  rw [← toList_cleaned] at h hvalid
  exact ⟨⟨cleaned (String.ofList cs), h.length_range, hvalid⟩, parse_eq_ok_iff.mpr rfl,
    toList_cleaned cs⟩

/-- If only the sum is wrong, the reader says so. -/
theorem HasForm.parse_of_not_valid (h : HasForm (digitsOf cs))
    (hvalid : isValid (digitsOf cs) = false) :
    parse (String.ofList cs) = .error .cardNumberChecksum := by
  rw [← toList_cleaned] at h hvalid
  have hne : (cleaned (String.ofList cs)).toList.isEmpty = false := by
    rw [List.isEmpty_eq_false_iff]
    intro hnil
    have hleast := h.length_range.1
    rw [hnil] at hleast
    exact absurd hleast (by decide)
  unfold parse
  simp only
  rw [hne, List.all_eq_true.mpr h.digits_only, dif_pos h.length_range, dif_neg (by
    rw [hvalid]; exact Bool.false_ne_true)]
  rfl

/-! ## Typing errors -/

section Typed

variable {before between after : List Char} {c d : Char}

theorem digitsOf_typed (hc : c.isDigit = true) :
    digitsOf (before ++ c :: after) = digitsOf before ++ c :: digitsOf after := by
  rw [digitsOf_append, digitsOf_cons hc]

theorem digitsOf_typed_pair (hbetween : ∀ e ∈ between, isSeparator e = true)
    (hc : c.isDigit = true) (hd : d.isDigit = true) :
    digitsOf (before ++ c :: (between ++ d :: after)) =
      digitsOf before ++ c :: d :: digitsOf after := by
  rw [digitsOf_typed hc, digitsOf_append, digitsOf_separators hbetween, digitsOf_cons hd,
    List.nil_append]

theorem parse_of_replaced (h : parse (String.ofList (before ++ c :: after)) = .ok number)
    (hc : c.isDigit = true) (hd : d.isDigit = true) (hne : d ≠ c) :
    parse (String.ofList (before ++ d :: after)) = .error .cardNumberChecksum := by
  obtain ⟨hform, hvalid⟩ := form_of_parse h
  rw [digitsOf_typed hc] at hform hvalid
  refine HasForm.parse_of_not_valid ?_ ?_
  · exact digitsOf_typed hd ▸ hform.replaced hd
  · exact digitsOf_typed hd ▸ isValid_of_replaced hvalid hne

/-- After an exchange of neighbours the sum decides. -/
theorem parse_of_exchanged (hbetween : ∀ e ∈ between, isSeparator e = true)
    (h : parse (String.ofList (before ++ c :: (between ++ d :: after))) = .ok number)
    (hc : c.isDigit = true) (hd : d.isDigit = true) (hne : c ≠ d) :
    (¬AreNoughtAndNine c d →
      parse (String.ofList (before ++ d :: (between ++ c :: after))) =
        .error .cardNumberChecksum) ∧
    (AreNoughtAndNine c d →
      ∃ other, parse (String.ofList (before ++ d :: (between ++ c :: after))) = .ok other) := by
  obtain ⟨hform, hvalid⟩ := form_of_parse h
  rw [digitsOf_typed_pair hbetween hc hd] at hform hvalid
  have hdigits : digitsOf (before ++ d :: (between ++ c :: after)) =
      digitsOf before ++ d :: c :: digitsOf after := digitsOf_typed_pair hbetween hd hc
  have hother : HasForm (digitsOf (before ++ d :: (between ++ c :: after))) :=
    hdigits ▸ hform.exchanged
  have hiff := isValid_of_exchanged hvalid hne
  rw [← hdigits] at hiff
  constructor
  · intro hpair
    exact hother.parse_of_not_valid (Bool.not_eq_true _ ▸ mt hiff.mp hpair)
  · intro hpair
    obtain ⟨other, hparse, -⟩ := hother.exists_parse (hiff.mpr hpair)
    exact ⟨other, hparse⟩

end Typed

/-- The check digit of a card number detects the usual typing errors. After every body just one
digit makes the sum come out. Any other character in the place of a digit makes a valid text
invalid, and so does the exchange of two different neighbours, unless they are 0 and 9. In a number
as it is typed, with blanks and hyphens anywhere, another digit in the place of one, or the exchange
of two different digits with nothing but blanks and hyphens between, is refused for the sum and for
nothing else; 0 and 9 may be exchanged. The sum can be computed in words of 32 bits as long as nine
for each digit fit in one. -/
theorem check_digit_detects_typing_errors :
    (∀ body : List Char, (∀ c ∈ body, c.isDigit = true) →
      ∃ c, c.isDigit = true ∧ ∀ d, isValid (body ++ [d]) = true ↔ d = c) ∧
    (∀ (before after : List Char) (c d : Char), isValid (before ++ c :: after) = true → d ≠ c →
      isValid (before ++ d :: after) = false) ∧
    (∀ (before after : List Char) (c d : Char), isValid (before ++ c :: d :: after) = true →
      c ≠ d → (isValid (before ++ d :: c :: after) = true ↔ AreNoughtAndNine c d)) ∧
    (∀ (before after : List Char) (c d : Char) (number : CardNumber),
      parse (String.ofList (before ++ c :: after)) = .ok number → c.isDigit = true →
      d.isDigit = true → d ≠ c →
      parse (String.ofList (before ++ d :: after)) = .error .cardNumberChecksum) ∧
    (∀ (before between after : List Char) (c d : Char) (number : CardNumber),
      parse (String.ofList (before ++ c :: (between ++ d :: after))) = .ok number →
      (∀ e ∈ between, isSeparator e = true) → c.isDigit = true → d.isDigit = true → c ≠ d →
      (¬AreNoughtAndNine c d →
        parse (String.ofList (before ++ d :: (between ++ c :: after))) =
          .error .cardNumberChecksum) ∧
      (AreNoughtAndNine c d →
        ∃ other, parse (String.ofList (before ++ d :: (between ++ c :: after))) = .ok other)) ∧
    ∀ digits : List Char, (∀ c ∈ digits, c.isDigit = true) →
      9 * digits.length < UInt32.size →
      (wordSum false 0 (digits.reverse.map digitValue)).toNat = total digits := by
  refine ⟨?appended, ?replaced, ?exchanged, ?typedReplaced, ?typedExchanged, ?words⟩
  case appended =>
    intro body hbody
    exact exists_valid_digit hbody (by simp)
  case replaced => exact fun before after c d => isValid_of_replaced
  case exchanged => exact fun before after c d => isValid_of_exchanged
  case typedReplaced => exact fun before after c d number => parse_of_replaced
  case typedExchanged =>
    intro before between after c d number h hbetween
    exact parse_of_exchanged hbetween h
  case words => exact fun digits => toNat_wordSum_text

/-- The body of a number has one check digit. A digit of the number is replaced, two neighbours are
exchanged, with a hyphen between them too, and 0 and 9 are exchanged in another number. -/
theorem check_digit_detects_typing_errors_in_groups :
    (∀ d, isValid ("411111111111111".toList ++ [d]) = true ↔ d = '1') ∧
      isValid "4111111111111171".toList = false ∧
      isValid "1411111111111111".toList = false ∧
      parse "4111 1111 1111 1171" = .error .cardNumberChecksum ∧
      parse "1-411 1111 1111 1111" = .error .cardNumberChecksum ∧
      (∃ other, parse "4000 9-000 0000 0003" = .ok other) ∧
      (wordSum false 0 ("4111111111111111".toList.reverse.map digitValue)).toNat = 30 := by
  obtain ⟨happended, hreplaced, hexchanged, htypedReplaced, htypedExchanged, hwords⟩ :=
    check_digit_detects_typing_errors
  have hvalid : isValid "4111111111111111".toList = true := by decide
  have hdigits := List.all_eq_true.mp
    (show "4111111111111111".toList.all Char.isDigit = true by decide)
  have hseparators := List.all_eq_true.mp (show ['-'].all isSeparator = true by decide)
  have hgroups : parse "4111 1111 1111 1111" = .ok ⟨"4111111111111111", by decide, hvalid⟩ := rfl
  have hhyphen : parse "4-111 1111 1111 1111" = .ok ⟨"4111111111111111", by decide, hvalid⟩ := rfl
  have hnine : parse "4000 0-900 0000 0003" =
      .ok ⟨"4000090000000003", by decide, by decide⟩ := rfl
  obtain ⟨c, -, honly⟩ := happended "411111111111111".toList
    fun c hc => hdigits c (List.dropLast_subset "4111111111111111".toList hc)
  have hcheck : '1' = c := (honly '1').mp hvalid
  refine ⟨fun d => hcheck ▸ honly d, ?_, ?_, ?_, ?_, ?_, ?_⟩
  · exact hreplaced "41111111111111".toList ['1'] '1' '7' hvalid (by decide)
  · have hpair := hexchanged [] "11111111111111".toList '4' '1' hvalid (by decide)
    exact Bool.not_eq_true _ ▸ mt hpair.mp (by decide)
  · exact htypedReplaced "4111 1111 1111 11".toList ['1'] '1' '7' _ hgroups rfl rfl (by decide)
  · exact (htypedExchanged [] ['-'] "11 1111 1111 1111".toList '4' '1' _ hhyphen hseparators
      rfl rfl (by decide)).1 (by decide)
  · exact (htypedExchanged "4000 ".toList ['-'] "00 0000 0003".toList '0' '9' _ hnine hseparators
      rfl rfl (by decide)).2 (by decide)
  · exact (hwords _ hdigits (by decide)).trans (by decide)

end CardNumber

end RentalGuard
