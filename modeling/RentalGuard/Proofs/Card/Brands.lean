import RentalGuard.Card.Brand

/-! # Brands are told by their first digits

A rule reads a start of fixed length as a numeral, and numerals may have a plus sign and zeros in
front. The bounds of a rule have as many digits as it reads, so there is no room for either: what a
rule takes are the decimal digits of a number within its bounds. No number of one brand starts with
a number of another, so at most one brand fits, and it still fits when more characters follow.
-/

namespace RentalGuard

namespace PrefixRule

variable {rule other : PrefixRule} {start cs : List Char} {digits : String} {m n : Nat}

/-! ## What a rule takes -/

/-- A text that a rule takes for the start of a number. -/
structure Takes (rule : PrefixRule) (start : List Char) (n : Nat) : Prop where
  length : start.length = rule.length
  fits : n < 0x100000000
  count : Text.IsCount start n
  within : rule.least ≤ n ∧ n ≤ rule.greatest

theorem admits_iff : rule.admits cs = true ↔ ∃ start n, rule.Takes start n ∧ start <+: cs := by
  unfold admits
  rw [Bool.and_eq_true, decide_eq_true_iff]
  constructor
  · rintro ⟨hlength, h⟩
    split at h
    · rename_i n hread
      obtain ⟨hfits, hcount⟩ := Text.unsigned?_eq_some_iff.mp hread
      exact ⟨_, n, ⟨List.length_take_of_le hlength, hfits, hcount, by simpa using h⟩,
        List.take_prefix rule.length cs⟩
    · cases h
  · rintro ⟨start, n, htakes, rest, rfl⟩
    have hread := Text.unsigned?_eq_some_iff.mpr ⟨htakes.fits, htakes.count⟩
    rw [List.take_left' htakes.length, hread, ← htakes.length, List.length_append]
    exact ⟨Nat.le_add_right _ _, by simpa using htakes.within⟩

/-- A numeral has a byte for each character. -/
theorem admitsBytes_iff : rule.admitsBytes digits = true ↔
    ∃ start n, rule.Takes start n ∧ start <+: digits.toList := by
  unfold admitsBytes
  constructor
  · intro h
    split at h
    · rename_i n hread
      obtain ⟨front, hfront, hnumber⟩ := Option.bind_eq_some_iff.mp hread
      obtain ⟨⟨t, u⟩, hcut, rfl⟩ := Option.map_eq_some_iff.mp hfront
      obtain ⟨rfl, hsize⟩ := Text.cut?_eq_some_iff.mp hcut
      obtain ⟨hfits, hcount⟩ := Text.unsigned?_eq_some_iff.mp hnumber
      have hlength := Text.utf8ByteSize_ofList hcount.isNumeral.isAscii
      rw [String.ofList_toList, hsize] at hlength
      exact ⟨t.toList, n, ⟨hlength.symm, hfits, hcount, by simpa using h⟩, u.toList,
        String.toList_append.symm⟩
    · cases h
  · rintro ⟨start, n, htakes, rest, hrest⟩
    have hcut : Text.cut? digits rule.length = some (String.ofList start, String.ofList rest) := by
      refine Text.cut?_eq_some_iff.mpr ⟨?_, ?_⟩
      · rw [← String.ofList_append, hrest, String.ofList_toList]
      · rw [Text.utf8ByteSize_ofList htakes.count.isNumeral.isAscii, htakes.length]
    have hread := Text.unsigned?_eq_some_iff.mpr ⟨htakes.fits, htakes.count⟩
    rw [Text.before?, hcut, Option.map_some, Option.bind_some, String.toList_ofList, hread]
    simpa using htakes.within

/-- A start that ends inside a character is no numeral, so the bytes and the characters agree. -/
theorem admitsBytes_eq (rule : PrefixRule) (digits : String) :
    rule.admitsBytes digits = rule.admits digits.toList :=
  Bool.eq_iff_iff.mpr (admitsBytes_iff.trans admits_iff.symm)

/-! ## Digits -/

/-- The numbers within the bounds have as many digits as the rule reads. -/
def isFull (rule : PrefixRule) : Bool :=
  0 < rule.length && Nat.pow 10 (rule.length - 1) ≤ rule.least &&
    rule.greatest < Nat.pow 10 rule.length && rule.greatest < 0x100000000

/-- The text starts with the decimal digits of a number within the bounds. -/
def Fits (rule : PrefixRule) (cs : List Char) : Prop :=
  ∃ n, rule.least ≤ n ∧ n ≤ rule.greatest ∧ (toString n).toList <+: cs

theorem length_toString (hfull : rule.isFull = true) (hleast : rule.least ≤ n)
    (hgreatest : n ≤ rule.greatest) : (toString n).toList.length = rule.length := by
  simp only [isFull, Bool.and_eq_true, decide_eq_true_iff] at hfull
  obtain ⟨⟨⟨hpos, hlow⟩, hhigh⟩, -⟩ := hfull
  have hle : (toString n).toList.length ≤ rule.length := by
    rw [Nat.toString_eq_ofList_toDigits, String.toList_ofList]
    exact (Nat.length_toDigits_le_iff (by decide) hpos).mpr (Nat.lt_of_le_of_lt hgreatest hhigh)
  have hge : rule.length - 1 < (toString n).toList.length :=
    (Nat.pow_lt_pow_iff_right (by decide)).mp
      (Nat.lt_of_le_of_lt (Nat.le_trans hlow hleast) (Text.isUnsigned_toString n).lt_pow)
  omega

/-- Signs and zeros in front are read, but never taken. -/
theorem admits_iff_fits (hfull : rule.isFull = true) : rule.admits cs = true ↔ rule.Fits cs := by
  have hbounds := hfull
  simp only [isFull, Bool.and_eq_true, decide_eq_true_iff] at hbounds
  rw [admits_iff]
  constructor
  · rintro ⟨start, n, htakes, hstart⟩
    have hlow : Nat.pow 10 (start.length - 1) ≤ n := by
      rw [htakes.length]
      exact Nat.le_trans hbounds.1.1.2 htakes.within.1
    exact ⟨n, htakes.within.1, htakes.within.2, htakes.count.eq_toString hlow ▸ hstart⟩
  · rintro ⟨n, hleast, hgreatest, hstart⟩
    exact ⟨_, n, ⟨length_toString hfull hleast hgreatest,
      Nat.lt_of_le_of_lt hgreatest hbounds.2, .bare (Text.isUnsigned_toString n), hleast,
      hgreatest⟩, hstart⟩

theorem Fits.append (h : rule.Fits cs) (rest : List Char) : rule.Fits (cs ++ rest) := by
  obtain ⟨n, hleast, hgreatest, hstart⟩ := h
  exact ⟨n, hleast, hgreatest, hstart.trans (List.prefix_append cs rest)⟩

/-! ## Two rules -/

/-- No number of the other rule starts with a number of this one. -/
def isApart (rule other : PrefixRule) : Bool :=
  other.length < rule.length ||
    other.greatest / Nat.pow 10 (other.length - rule.length) < rule.least ||
    rule.greatest < other.least / Nat.pow 10 (other.length - rule.length)

/-- A number that starts with another is that one when its last digits are taken off. -/
theorem div_of_prefix (h : (toString n).toList <+: (toString m).toList) :
    m / Nat.pow 10 ((toString m).toList.length - (toString n).toList.length) = n := by
  obtain ⟨tail, htail⟩ := h
  have hdigits : ∀ c ∈ tail, c.isDigit = true := fun c hc =>
    Text.isDigit_of_mem_toString (n := m) (htail ▸ List.mem_append_right _ hc)
  have hm : m = Nat.ofDigitChars 10 tail n := by
    rw [← Text.ofDigitChars_toString m, ← htail, Nat.ofDigitChars_append,
      Text.ofDigitChars_toString n]
  rw [← htail, List.length_append, Nat.add_sub_cancel_left, hm]
  exact Text.ofDigitChars_div_pow hdigits n

theorem length_lt_of_fits (hfull : rule.isFull = true) (hfull' : other.isFull = true)
    (hapart : rule.isApart other = true) (h : rule.Fits cs) (h' : other.Fits cs) :
    other.length < rule.length := by
  obtain ⟨n, hleast, hgreatest, hstart⟩ := h
  obtain ⟨m, hleast', hgreatest', hstart'⟩ := h'
  have hlength := length_toString hfull hleast hgreatest
  have hlength' := length_toString hfull' hleast' hgreatest'
  refine Nat.lt_of_not_le fun hle => ?_
  have hdiv := div_of_prefix (List.prefix_of_prefix_length_le hstart hstart' (by omega))
  rw [hlength, hlength'] at hdiv
  -- without its last digits the longer number would be within the bounds of the shorter one
  have hlow := Nat.div_le_div_right (c := Nat.pow 10 (other.length - rule.length)) hleast'
  have hhigh := Nat.div_le_div_right (c := Nat.pow 10 (other.length - rule.length)) hgreatest'
  simp only [isApart, Bool.or_eq_true, decide_eq_true_iff] at hapart
  omega

end PrefixRule

namespace CardBrand

open PrefixRule

variable {brand other : CardBrand} {rule : PrefixRule} {digits : String} {cs : List Char}

/-! ## The rules of the brands -/

theorem mem_all (brand : CardBrand) : brand ∈ all := by
  cases brand <;> decide

theorem isFull_of_mem (h : rule ∈ brand.prefixRules) : rule.isFull = true := by
  have hall : (all.all fun brand => brand.prefixRules.all isFull) = true := by decide
  exact List.all_eq_true.mp (List.all_eq_true.mp hall brand (mem_all brand)) rule h

theorem isApart_of_mem {rule' : PrefixRule} (hne : brand ≠ other)
    (h : rule ∈ brand.prefixRules) (h' : rule' ∈ other.prefixRules) : rule.isApart rule' = true := by
  have hall : (all.all fun brand => all.all fun other => brand == other ||
      brand.prefixRules.all fun rule => other.prefixRules.all rule.isApart) = true := by decide
  have hbrands := List.all_eq_true.mp (List.all_eq_true.mp hall brand (mem_all brand)) other
    (mem_all other)
  rw [beq_false_of_ne hne, Bool.false_or] at hbrands
  exact List.all_eq_true.mp (List.all_eq_true.mp hbrands rule h) rule' h'

/-- A number of the brand stands at the start of the text. -/
def Fits (brand : CardBrand) (cs : List Char) : Prop := ∃ rule ∈ brand.prefixRules, rule.Fits cs

theorem admits_iff_fits : brand.admits cs = true ↔ brand.Fits cs := by
  rw [admits, List.any_eq_true]
  exact exists_congr fun rule => and_congr_right fun h =>
    PrefixRule.admits_iff_fits (isFull_of_mem h)

theorem Fits.append (h : brand.Fits cs) (rest : List Char) : brand.Fits (cs ++ rest) := by
  obtain ⟨rule, hrule, hfits⟩ := h
  exact ⟨rule, hrule, hfits.append rest⟩

/-- Two brands that fit one text would each have the longer rule. -/
theorem eq_of_fits (h : brand.Fits cs) (h' : other.Fits cs) : brand = other := by
  obtain ⟨rule, hrule, hfits⟩ := h
  obtain ⟨rule', hrule', hfits'⟩ := h'
  refine Classical.byContradiction fun hne => ?_
  have hlt := length_lt_of_fits (isFull_of_mem hrule) (isFull_of_mem hrule')
    (isApart_of_mem hne hrule hrule') hfits hfits'
  have hgt := length_lt_of_fits (isFull_of_mem hrule') (isFull_of_mem hrule)
    (isApart_of_mem (Ne.symm hne) hrule' hrule) hfits' hfits
  omega

theorem mem_recognised (h : brand.Fits cs) : brand ∈ recognised := by
  obtain ⟨rule, hrule, -⟩ := h
  cases brand with
  | unknown => cases hrule
  | _ => decide

/-! ## The search -/

theorem detectAmong_eq (order : List CardBrand) (digits : String) :
    detectAmong order digits = (order.find? fun brand => brand.admits digits.toList).getD unknown := by
  simp only [detectAmong, admitsBytes_eq]
  rfl

theorem detectAmong_recognised (digits : String) :
    detectAmong recognised digits = detect digits := detectAmong_eq recognised digits

/-- A brand of the list that fits is found, or else none of them fits. -/
theorem detectAmong_cases (order : List CardBrand) (digits : String) :
    (∃ brand ∈ order, brand.Fits digits.toList ∧ detectAmong order digits = brand) ∨
      (∀ brand ∈ order, ¬brand.Fits digits.toList) ∧ detectAmong order digits = unknown := by
  rw [detectAmong_eq]
  cases hfound : order.find? fun brand => brand.admits digits.toList with
  | some brand =>
    have hfits := List.find?_some (p := fun brand : CardBrand => brand.admits digits.toList) hfound
    exact .inl ⟨brand, List.mem_of_find?_eq_some hfound, admits_iff_fits.mp hfits, rfl⟩
  | none =>
    exact .inr ⟨fun brand hmem => mt admits_iff_fits.mpr (List.find?_eq_none.mp hfound brand hmem),
      rfl⟩

theorem detectAmong_of_fits {order : List CardBrand} (hmem : brand ∈ order)
    (h : brand.Fits digits.toList) : detectAmong order digits = brand := by
  obtain ⟨found, -, hfits, hfound⟩ | ⟨hnone, -⟩ := detectAmong_cases order digits
  · rw [hfound, eq_of_fits hfits h]
  · exact absurd h (hnone brand hmem)

theorem detect_eq_iff (hne : brand ≠ unknown) : detect digits = brand ↔ brand.Fits digits.toList := by
  rw [← detectAmong_recognised]
  constructor
  · rintro rfl
    obtain ⟨found, -, hfits, hfound⟩ | ⟨-, hunknown⟩ := detectAmong_cases recognised digits
    · rwa [hfound]
    · exact absurd hunknown hne
  · exact fun h => detectAmong_of_fits (mem_recognised h) h

theorem detectAmong_eq_detect {order : List CardBrand} (h : ∀ brand ∈ recognised, brand ∈ order)
    (digits : String) : detectAmong order digits = detect digits := by
  rw [← detectAmong_recognised]
  obtain ⟨brand, -, hfits, hfound⟩ | ⟨hnone, hunknown⟩ := detectAmong_cases order digits
  · rw [hfound, detectAmong_of_fits (mem_recognised hfits) hfits]
  · obtain ⟨brand, hmem, hfits, -⟩ | ⟨-, hunknown'⟩ := detectAmong_cases recognised digits
    · exact absurd hfits (hnone brand (h brand hmem))
    · rw [hunknown, hunknown']

/-- A rule takes a text just if the text starts with the decimal digits of a number within its
bounds: a sign, or a character that takes more than one byte, does not stand for a digit, wherever
the start is cut. Rules of at most one brand take a text, so the brands can be tried in any order.
A brand that has been recognised stays, whatever is typed after it, and with it the length of the
security code and the code for the gateway. -/
theorem brands_are_unambiguous_and_lasting (digits : String) :
    (∀ brand, ∀ rule ∈ prefixRules brand, rule.admitsBytes digits = true ↔
      ∃ n, rule.least ≤ n ∧ n ≤ rule.greatest ∧ (toString n).toList <+: digits.toList) ∧
    (∀ rule : PrefixRule, rule.admitsBytes digits = rule.admits digits.toList) ∧
    (∀ brand other : CardBrand, brand.admits digits.toList = true →
      other.admits digits.toList = true → brand = other) ∧
    (∀ order : List CardBrand, (∀ brand ∈ recognised, brand ∈ order) →
      detectAmong order digits = detect digits) ∧
    ∀ rest, detect digits ≠ unknown →
      detect (digits ++ rest) = detect digits ∧
      (detect (digits ++ rest)).securityCodeLength = (detect digits).securityCodeLength ∧
      (detect (digits ++ rest)).gatewayCode = (detect digits).gatewayCode := by
  refine ⟨?digits, fun rule => admitsBytes_eq rule digits, ?one, ?order, ?lasts⟩
  case digits =>
    intro brand rule hrule
    rw [admitsBytes_eq]
    exact PrefixRule.admits_iff_fits (isFull_of_mem hrule)
  case one =>
    intro brand other h h'
    exact eq_of_fits (admits_iff_fits.mp h) (admits_iff_fits.mp h')
  case order =>
    exact fun order h => detectAmong_eq_detect h digits
  case lasts =>
    intro rest hne
    have hfits := (detect_eq_iff hne).mp rfl
    have hlonger : (detect digits).Fits (digits ++ rest).toList := by
      rw [String.toList_append]
      exact hfits.append rest.toList
    rw [(detect_eq_iff hne).mpr hlonger]
    exact ⟨rfl, rfl, rfl⟩

/-- The brands from the last to the first, and a character of two bytes behind the first digits. -/
theorem brands_are_unambiguous_and_lasting_in_reverse :
    (∀ brand ∈ recognised, brand ∈ recognised.reverse) ∧
      detectAmong recognised.reverse "6304" = maestro ∧ detect "6304" ≠ unknown ∧
      detect ("6304" ++ "é") = maestro ∧
      (⟨2, 65, 65⟩ : PrefixRule).admitsBytes "6é" = (⟨2, 65, 65⟩ : PrefixRule).admits ['6', 'é'] := by
  have hmaestro : detect "6304" = maestro := by decide
  have hne : detect "6304" ≠ unknown := by rw [hmaestro]; decide
  have horder : ∀ brand ∈ recognised, brand ∈ recognised.reverse := fun _ h => List.mem_reverse.mpr h
  obtain ⟨-, -, -, hany, hlasts⟩ := brands_are_unambiguous_and_lasting "6304"
  obtain ⟨-, hbytes, -⟩ := brands_are_unambiguous_and_lasting "6é"
  exact ⟨horder, (hany _ horder).trans hmaestro, hne, (hlasts "é" hne).1.trans hmaestro, hbytes _⟩

/-- A plus sign is part of a numeral, and a start can end inside a character. -/
example : Text.unsigned? 0x100000000 ['+', '4'] = some 4 ∧ detect "+4" = unknown ∧
    Text.before? "6é" 2 = none := by decide

end CardBrand

end RentalGuard
