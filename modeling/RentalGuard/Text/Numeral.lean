/-! Decimal numerals in text. A numeral has at least one digit and may have leading zeros; a sign
is read where the function says so. -/

namespace RentalGuard.Text

/-- The value of a run of decimal digits. -/
def natural? (cs : List Char) : Option Nat :=
  if cs.isEmpty || !cs.all Char.isDigit then none else some (Nat.ofDigitChars 10 cs 0)

/-- A numeral below `limit`, with or without a plus sign. -/
def unsigned? (limit : Nat) (cs : List Char) : Option Nat :=
  let digits := match cs with
    | '+' :: rest => rest
    | _ => cs
  (natural? digits).filter (· < limit)

/-- A numeral with or without a sign. -/
def integer? : List Char → Option Int
  | '-' :: rest => (natural? rest).map fun n => -(n : Int)
  | '+' :: rest => (natural? rest).map Int.ofNat
  | cs => (natural? cs).map Int.ofNat

/-- A numeral that fits in 64 bits with sign. -/
def int64? (cs : List Char) : Option Int64 :=
  match integer? cs with
  | some n => if -0x8000000000000000 ≤ n ∧ n < 0x8000000000000000 then some (Int64.ofInt n) else none
  | none => none

/-- The digits of `n`, filled up with zeros to at least `width` places. -/
def padded (width n : Nat) : List Char :=
  let digits := (toString n).toList
  List.replicate (width - digits.length) '0' ++ digits

/-- The value of a digit in base 36: a decimal digit or a letter of either case. -/
def digit36? (c : Char) : Option Nat :=
  if c.isDigit then some (c.toNat - 48)
  else if c.isUpper then some (c.toNat - 55)
  else if c.isLower then some (c.toNat - 87)
  else none

/-! ## What is read -/

theorem isDigit_of_mem_toString {n : Nat} {c : Char} (h : c ∈ (toString n).toList) :
    c.isDigit = true := by
  rw [Nat.toString_eq_ofList_toDigits, String.toList_ofList] at h
  exact Nat.isDigit_of_mem_toDigits (by decide) (by decide) h

/-- A decimal digit is written for the number that it stands for. -/
theorem digitChar_of_isDigit {c : Char} (h : c.isDigit = true) :
    c.toNat - 48 < 10 ∧ Nat.digitChar (c.toNat - 48) = c := by
  have hc : 48 ≤ c.toNat ∧ c.toNat ≤ 57 := Char.isDigit_iff_toNat.mp h
  refine ⟨by omega, ?_⟩
  rw [← Char.toNat_inj, Nat.toNat_digitChar_of_lt_ten (by omega)]
  omega

/-- A run of digits that does not start at zero only grows. -/
theorem toDigits_append_digits {n : Nat} {cs : List Char} (hn : 0 < n)
    (hcs : ∀ c ∈ cs, c.isDigit = true) :
    Nat.toDigits 10 n ++ cs = Nat.toDigits 10 (Nat.ofDigitChars 10 cs n) := by
  induction cs generalizing n with
  | nil => simp
  | cons c rest ih =>
    obtain ⟨hc, hrest⟩ := List.forall_mem_cons.mp hcs
    obtain ⟨hlt, hdigit⟩ := digitChar_of_isDigit hc
    have hlast : Nat.toDigits 10 n ++ [c] = Nat.toDigits 10 (10 * n + (c.toNat - 48)) := by
      rw [← Nat.toDigits_append_toDigits (by decide) hn hlt, Nat.toDigits_of_lt_base hlt, hdigit]
    rw [List.append_cons, hlast, ih (by omega) hrest, Nat.ofDigitChars_cons]
    rfl

/-- A power of ten takes off what is written behind a number. -/
theorem ofDigitChars_div_pow {cs : List Char} (hcs : ∀ c ∈ cs, c.isDigit = true) (n : Nat) :
    Nat.ofDigitChars 10 cs n / Nat.pow 10 cs.length = n := by
  induction cs generalizing n with
  | nil => exact Nat.div_one n
  | cons c rest ih =>
    obtain ⟨hc, hrest⟩ := List.forall_mem_cons.mp hcs
    have hlt : c.toNat - 48 < 10 := (digitChar_of_isDigit hc).1
    show Nat.ofDigitChars 10 rest (10 * n + (c.toNat - 48)) / (Nat.pow 10 rest.length * 10) = n
    rw [← Nat.div_div_eq_div_mul, ih hrest]
    omega

/-- The ways to write a number without a sign. -/
def IsUnsigned (cs : List Char) (n : Nat) : Prop :=
  ∃ zeros, cs = List.replicate zeros '0' ++ (toString n).toList

theorem isUnsigned_toString (n : Nat) : IsUnsigned (toString n).toList n := ⟨0, rfl⟩

theorem isUnsigned_ofDigitChars {cs : List Char} (hne : cs ≠ []) (hcs : ∀ c ∈ cs, c.isDigit = true) :
    IsUnsigned cs (Nat.ofDigitChars 10 cs 0) := by
  unfold IsUnsigned
  simp only [Nat.toString_eq_ofList_toDigits, String.toList_ofList]
  induction cs with
  | nil => exact absurd rfl hne
  | cons c rest ih =>
    obtain ⟨hc, hrest⟩ := List.forall_mem_cons.mp hcs
    obtain ⟨hlt, hdigit⟩ := digitChar_of_isDigit hc
    have hvalue : Nat.ofDigitChars 10 (c :: rest) 0 = Nat.ofDigitChars 10 rest (c.toNat - 48) := by
      rw [Nat.ofDigitChars_cons, Nat.mul_zero, Nat.zero_add]
      rfl
    rw [hvalue]
    rcases Nat.eq_zero_or_pos (c.toNat - 48) with hzero | hpos
    · -- a zero in front counts only if nothing follows it
      rw [hzero] at hdigit ⊢
      cases rest with
      | nil => exact ⟨0, by rw [← hdigit]; rfl⟩
      | cons d more =>
        obtain ⟨zeros, hzeros⟩ := ih (by simp) hrest
        refine ⟨zeros + 1, ?_⟩
        rw [← hdigit, List.replicate_succ, List.cons_append, ← hzeros]
        rfl
    · refine ⟨0, ?_⟩
      rw [← toDigits_append_digits hpos hrest, Nat.toDigits_of_lt_base hlt, hdigit]
      rfl

namespace IsUnsigned

variable {cs : List Char} {n : Nat}

theorem isDigit (h : IsUnsigned cs n) : ∀ c ∈ cs, c.isDigit = true := by
  obtain ⟨zeros, rfl⟩ := h
  intro c hc
  rcases List.mem_append.mp hc with hzero | hdigit
  · rw [List.eq_of_mem_replicate hzero]
    rfl
  · exact isDigit_of_mem_toString hdigit

theorem ne_nil (h : IsUnsigned cs n) : cs ≠ [] := by
  obtain ⟨zeros, rfl⟩ := h
  rw [Nat.toString_eq_ofList_toDigits, String.toList_ofList]
  exact List.append_ne_nil_of_right_ne_nil _ Nat.toDigits_ne_nil

theorem value (h : IsUnsigned cs n) : Nat.ofDigitChars 10 cs 0 = n := by
  obtain ⟨zeros, rfl⟩ := h
  rw [Nat.ofDigitChars_append, Nat.ofDigitChars_replicate_zero, Nat.toString_eq_ofList_toDigits,
    String.toList_ofList, Nat.mul_zero, Nat.ofDigitChars_ten_toDigits]

theorem lt_pow (h : IsUnsigned cs n) : n < Nat.pow 10 cs.length := by
  have hdiv := ofDigitChars_div_pow h.isDigit 0
  rw [h.value] at hdiv
  exact Nat.lt_of_div_eq_zero (Nat.pow_pos (by decide)) hdiv

end IsUnsigned

theorem ofDigitChars_toString (n : Nat) : Nat.ofDigitChars 10 (toString n).toList 0 = n :=
  (isUnsigned_toString n).value

theorem natural?_eq_some_iff {cs : List Char} {n : Nat} :
    natural? cs = some n ↔ IsUnsigned cs n := by
  unfold natural?
  constructor
  · intro h
    split at h
    · cases h
    · rename_i hrun
      simp only [Bool.or_eq_true, List.isEmpty_iff, Bool.not_eq_true', not_or,
        Bool.not_eq_false] at hrun
      cases h
      exact isUnsigned_ofDigitChars hrun.1 (List.all_eq_true.mp hrun.2)
  · intro h
    rw [List.isEmpty_eq_false_iff.mpr h.ne_nil, List.all_eq_true.mpr h.isDigit, h.value]
    rfl

theorem isUnsigned_padded (width n : Nat) : IsUnsigned (padded width n) n := ⟨_, rfl⟩

theorem length_padded {width n : Nat} (h : (toString n).toList.length ≤ width) :
    (padded width n).length = width := by
  rw [padded, List.length_append, List.length_replicate]
  omega

theorem length_padded_of_lt {width n : Nat} (hwidth : 0 < width) (h : n < Nat.pow 10 width) :
    (padded width n).length = width := by
  refine length_padded ?_
  rw [Nat.toString_eq_ofList_toDigits, String.toList_ofList]
  exact (Nat.length_toDigits_le_iff (by decide) hwidth).mpr h

/-- A number that is written can be read. -/
theorem natural?_toString (n : Nat) : natural? (toString n).toList = some n :=
  natural?_eq_some_iff.mpr (isUnsigned_toString n)

/-- The ways to write a number, with or without a sign. -/
inductive IsNumeral : List Char → Int → Prop
  | bare {cs : List Char} {n : Nat} (h : IsUnsigned cs n) : IsNumeral cs n
  | plus {cs : List Char} {n : Nat} (h : IsUnsigned cs n) : IsNumeral ('+' :: cs) n
  | minus {cs : List Char} {n : Nat} (h : IsUnsigned cs n) : IsNumeral ('-' :: cs) (-n)

namespace IsNumeral

variable {cs : List Char} {n : Int}

theorem isDigit_or_sign (h : IsNumeral cs n) : ∀ c ∈ cs, c.isDigit = true ∨ c = '+' ∨ c = '-' := by
  cases h with
  | bare h => exact fun c hc => .inl (h.isDigit c hc)
  | plus h =>
    intro c hc
    rcases List.mem_cons.mp hc with hsign | hrest
    · exact .inr (.inl hsign)
    · exact .inl (h.isDigit c hrest)
  | minus h =>
    intro c hc
    rcases List.mem_cons.mp hc with hsign | hrest
    · exact .inr (.inr hsign)
    · exact .inl (h.isDigit c hrest)

theorem isAscii (h : IsNumeral cs n) : ∀ c ∈ cs, c.toNat < 128 := by
  intro c hc
  rcases h.isDigit_or_sign c hc with hdigit | rfl | rfl
  · exact Nat.lt_of_le_of_lt (Char.isDigit_iff_toNat.mp hdigit).2 (by decide)
  · decide
  · decide

/-- A number is written with its sign only if it is negative. -/
theorem toString (n : Int) : IsNumeral (ToString.toString n).toList n := by
  cases n with
  | ofNat n => exact .bare (isUnsigned_toString n)
  | negSucc n =>
    have hn : (ToString.toString (Int.negSucc n)).toList =
        '-' :: (ToString.toString (n + 1)).toList := by
      show ("-" ++ ToString.toString (n + 1)).toList = _
      rw [String.toList_append]
      rfl
    rw [hn]
    exact .minus (isUnsigned_toString (n + 1))

end IsNumeral

/-- The ways to write a number, with or without a plus sign. -/
inductive IsCount : List Char → Nat → Prop
  | bare {cs : List Char} {n : Nat} (h : IsUnsigned cs n) : IsCount cs n
  | plus {cs : List Char} {n : Nat} (h : IsUnsigned cs n) : IsCount ('+' :: cs) n

namespace IsCount

variable {cs : List Char} {n : Nat}

theorem isNumeral (h : IsCount cs n) : IsNumeral cs n := by
  cases h with
  | bare h => exact .bare h
  | plus h => exact .plus h

/-- There is no room for a sign or zeros in front if the number has as many digits as the text has
characters. -/
theorem eq_toString (h : IsCount cs n) (hn : Nat.pow 10 (cs.length - 1) ≤ n) :
    cs = (toString n).toList := by
  cases h with
  | bare h =>
    obtain ⟨zeros, rfl⟩ := h
    have hlength := (Nat.pow_lt_pow_iff_right (by decide)).mp
      (Nat.lt_of_le_of_lt hn (isUnsigned_toString n).lt_pow)
    rw [List.length_append, List.length_replicate] at hlength
    have hnone : zeros = 0 := by omega
    rw [hnone]
    rfl
  | plus h => exact absurd hn (Nat.not_le_of_lt h.lt_pow)

end IsCount

theorem unsigned?_eq_some_iff {limit : Nat} {cs : List Char} {n : Nat} :
    unsigned? limit cs = some n ↔ n < limit ∧ IsCount cs n := by
  unfold unsigned?
  rw [Option.filter_eq_some_iff, decide_eq_true_iff, and_comm, natural?_eq_some_iff]
  refine and_congr_right fun _ => ⟨?_, ?_⟩
  · intro h
    split at h
    · exact .plus h
    · exact .bare h
  · intro h
    cases h with
    | plus h => exact h
    | bare h =>
      -- a digit in front is no sign
      split
      · exact absurd (h.isDigit '+' List.mem_cons_self) (by decide)
      · exact h

theorem integer?_minus (rest : List Char) :
    integer? ('-' :: rest) = (natural? rest).map fun n : Nat => -(n : Int) := by
  rw [integer?]
  cases natural? rest <;> rfl

theorem integer?_eq_some_iff {cs : List Char} {n : Int} :
    integer? cs = some n ↔ IsNumeral cs n := by
  constructor
  · intro h
    unfold integer? at h
    split at h
    · obtain ⟨m, hm, rfl⟩ := Option.map_eq_some_iff.mp ((integer?_minus _).symm.trans h)
      exact .minus (natural?_eq_some_iff.mp hm)
    · obtain ⟨m, hm, rfl⟩ := Option.map_eq_some_iff.mp h
      exact .plus (natural?_eq_some_iff.mp hm)
    · obtain ⟨m, hm, rfl⟩ := Option.map_eq_some_iff.mp h
      exact .bare (natural?_eq_some_iff.mp hm)
  · intro h
    cases h with
    | plus h => exact congrArg (Option.map Int.ofNat) (natural?_eq_some_iff.mpr h)
    | minus h =>
      rw [integer?_minus, natural?_eq_some_iff.mpr h]
      rfl
    | bare h =>
      -- a digit in front is no sign
      have hread := natural?_eq_some_iff.mpr h
      unfold integer?
      split
      · exact absurd (h.isDigit '-' (by simp)) (by decide)
      · exact absurd (h.isDigit '+' (by simp)) (by decide)
      · rw [hread]
        rfl

theorem int64?_eq_some_iff {cs : List Char} {t : Int64} :
    int64? cs = some t ↔ IsNumeral cs t.toInt := by
  rw [← integer?_eq_some_iff]
  unfold int64?
  constructor
  · intro h
    split at h
    · rename_i n hn
      split at h
      · rename_i hrange
        cases h
        rw [hn, Int64.toInt_ofInt_of_le hrange.1 hrange.2]
      · cases h
    · cases h
  · intro h
    rw [h]
    simp only
    rw [if_pos ⟨t.le_toInt, t.toInt_lt⟩, Int64.ofInt_toInt]

end RentalGuard.Text
