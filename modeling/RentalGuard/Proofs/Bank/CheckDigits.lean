import RentalGuard.Proofs.Bank.AccountNumber

/-! # How many check digits an account has

The check digits are the last two digits of the number that is divided by 97, so two pairs that are
taken for one account are 97 apart. One pair from 02 to 98 is always taken. The reader does not ask
for that range: 00, 01 and 99 are taken wherever 97, 98 and 02 are.
-/

namespace RentalGuard.Iban

variable {country account : List Char} {pair other : Nat}

/-! ## An account without its check digits -/

/-- A country and an account in it, as long as the registry says. -/
structure IsBody (country account : List Char) : Prop where
  country_length : country.length = 2
  country_letters : ∀ c ∈ country, c.isUpper = true
  account_length : 1 ≤ account.length ∧ account.length ≤ 30
  account_chars : ∀ c ∈ account, c.isUpper = true ∨ c.isDigit = true
  registered : ∀ expected, (String.ofList country, expected) ∈ ibanLengths →
    4 + account.length = expected

/-- The text with a pair of check digits put in. -/
def withPair (country account : List Char) (pair : Nat) : String :=
  String.ofList (country ++ Text.padded 2 pair ++ account)

/-- Whether the reader takes an account with a pair of check digits. No number is exempt. -/
def Takes (country account : List Char) (pair : Nat) : Prop :=
  ∃ iban, parse .empty (withPair country account pair) = .ok iban

/-- A country of the registry leaves no choice of the length. -/
theorem isBody_of_registered (hcountry : country.length = 2)
    (hletters : ∀ c ∈ country, c.isUpper = true)
    (hregistered : ibanLength? (String.ofList country) = some (4 + account.length))
    (haccount : 1 ≤ account.length ∧ account.length ≤ 30)
    (hchars : ∀ c ∈ account, (c.isUpper || c.isDigit) = true) : IsBody country account where
  country_length := hcountry
  country_letters := hletters
  account_length := haccount
  account_chars c hc := Bool.or_eq_true_iff.mp (hchars c hc)
  registered _ h :=
    Option.some.inj (hregistered.symm.trans (ibanLength?_eq_some_iff.mpr h))

theorem IsBody.isParts (h : IsBody country account) (hpair : pair < 100) :
    IsParts country (Text.padded 2 pair) account :=
  ⟨h.country_length, h.country_letters, Text.length_padded_of_lt (by decide) hpair,
    (Text.isUnsigned_padded 2 pair).isDigit, h.account_length, h.account_chars⟩

/-! ## The number with a pair put in -/

theorem flatMap_spelled_digits {digits : List Char} (h : ∀ c ∈ digits, c.isDigit = true) :
    digits.flatMap Checksum.spelled = digits := by
  induction digits with
  | nil => rfl
  | cons c rest ih =>
    obtain ⟨hc, hrest⟩ := List.forall_mem_cons.mp h
    rw [List.flatMap_cons, ih hrest, Checksum.spelled, if_pos hc]
    rfl

/-- The check digits are the last ones of the number. -/
theorem number_withPair (h : IsBody country account) (hpair : pair < 100) :
    Checksum.number (country ++ Text.padded 2 pair ++ account) =
      Nat.ofDigitChars 10 ((account ++ country).flatMap Checksum.spelled) 0 * 100 + pair := by
  have hparts := h.isParts hpair
  have hfour : (country ++ Text.padded 2 pair).length = 4 := by
    rw [List.length_append, hparts.country_length, hparts.check_length]
  have hrotated : Checksum.rotated (country ++ Text.padded 2 pair ++ account) =
      account ++ country ++ Text.padded 2 pair := by
    rw [Checksum.rotated, List.drop_left' hfour, List.take_left' hfour, List.append_assoc]
  -- the two digits of the pair are moved to the very end, behind the letters of the country
  rw [Checksum.number, hrotated, List.flatMap_append, flatMap_spelled_digits hparts.check_digits,
    Nat.ofDigitChars_append, Nat.ofDigitChars_eq_ofDigitChars_zero, hparts.check_length,
    (Text.isUnsigned_padded 2 pair).value, Nat.mul_comm]

/-- What is left of the number without check digits. -/
def leftover (country account : List Char) : Nat :=
  Checksum.number (country ++ Text.padded 2 0 ++ account) % 97

theorem number_withPair_mod (h : IsBody country account) (hpair : pair < 100) :
    Checksum.number (country ++ Text.padded 2 pair ++ account) % 97 =
      (leftover country account + pair) % 97 := by
  rw [leftover, number_withPair h hpair, number_withPair h (by decide)]
  omega

theorem takes_iff (h : IsBody country account) (hpair : pair < 100) :
    Takes country account pair ↔ (leftover country account + pair) % 97 = 1 := by
  have hparts := h.isParts hpair
  have htext : (withPair country account pair).toList =
      country ++ Text.padded 2 pair ++ account := String.toList_ofList
  have hcompact : compactForm (withPair country account pair) = withPair country account pair :=
    compactForm_eq_self (htext ▸ hparts.chars)
  have hcountry : countryOf (withPair country account pair) = String.ofList country := by
    rw [countryOf, htext, List.append_assoc, List.take_left' h.country_length]
  have hlength : (withPair country account pair).toList.length = 4 + account.length := by
    rw [htext, hparts.length]
  rw [Takes, exists_parse_iff, hcompact, ← number_withPair_mod h hpair, ← htext]
  constructor
  · intro hnumber
    exact hnumber.checksum.resolve_left Bool.false_ne_true
  · intro hcheck
    refine ⟨⟨_, _, _, hparts, htext⟩, fun expected hexpected => ?_, .inr hcheck⟩
    rw [hcountry] at hexpected
    exact hlength.trans (h.registered expected hexpected)

/-! ## The pairs that are taken -/

/-- Of the pairs from 02 to 98 just one is taken for an account: 98 less what is left of the number
without check digits. Of all hundred pairs at most two are taken, and then they are 97 apart: the
remainder is all that the reader looks at. -/
theorem one_pair_of_check_digits_in_range (h : IsBody country account) :
    (∀ pair < 100, Takes country account pair ↔ (leftover country account + pair) % 97 = 1) ∧
    (2 ≤ 98 - leftover country account ∧ 98 - leftover country account ≤ 98 ∧
      ∀ pair, 2 ≤ pair → pair ≤ 98 →
        (Takes country account pair ↔ pair = 98 - leftover country account)) ∧
    ∀ pair other, pair < other → other < 100 → Takes country account pair →
      Takes country account other → other = pair + 97 := by
  have hleft : leftover country account < 97 := Nat.mod_lt _ (by decide)
  refine ⟨fun pair hpair => takes_iff h hpair,
    ⟨by omega, by omega, fun pair hleast hgreatest => ?_⟩,
    fun pair other hless hother hpair htaken => ?_⟩
  · rw [takes_iff h (by omega)]
    omega
  · rw [takes_iff h (by omega)] at hpair
    rw [takes_iff h hother] at htaken
    omega

/-- The account of a published example, whose check digits are 91. -/
theorem one_pair_of_check_digits_in_range_dutch :
    let country := "NL".toList
    let account := "ABNA0417164300".toList
    IsBody country account ∧ leftover country account = 7 ∧ Takes country account 91 ∧
      ¬Takes country account 90 ∧ ¬Takes country account 0 := by
  intro country account
  have hbody : IsBody country account := isBody_of_registered rfl
    (List.all_eq_true.mp (by decide)) (by decide) (by decide) (List.all_eq_true.mp (by decide))
  have hleft : leftover country account = 7 := by decide
  obtain ⟨htaken, ⟨-, -, hone⟩, hapart⟩ := one_pair_of_check_digits_in_range hbody
  have hpair : Takes country account 91 := (hone 91 (by decide) (by decide)).mpr (by rw [hleft])
  refine ⟨hbody, hleft, hpair, fun hother => ?_, fun hother => ?_⟩
  · exact absurd (hapart 90 91 (by decide) (by decide) hother hpair) (by decide)
  · exact absurd (hapart 0 91 (by decide) (by decide) hother hpair) (by decide)

/-- An account that is taken with 00 and with 97. -/
theorem two_pairs_of_check_digits_for_one_account :
    let country := "NL".toList
    let account := "ABNA0000000075".toList
    IsBody country account ∧ Takes country account 0 ∧ Takes country account 97 ∧
      ¬∀ pair < 100, ∀ other < 100, Takes country account pair → Takes country account other →
        pair = other := by
  intro country account
  have hbody : IsBody country account := isBody_of_registered rfl
    (List.all_eq_true.mp (by decide)) (by decide) (by decide) (List.all_eq_true.mp (by decide))
  have hleft : leftover country account = 1 := by decide
  have hzero : Takes country account 0 := (takes_iff hbody (by decide)).mpr (by rw [hleft])
  have hlast : Takes country account 97 := (takes_iff hbody (by decide)).mpr (by rw [hleft])
  exact ⟨hbody, hzero, hlast, fun hunique =>
    absurd (hunique 0 (by decide) 97 (by decide) hzero hlast) (by decide)⟩

end RentalGuard.Iban
