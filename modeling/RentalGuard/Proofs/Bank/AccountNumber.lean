import RentalGuard.Bank.Iban
import RentalGuard.Proofs.Bank.Checksum

/-! # Which texts are account numbers

An account number has the form and the length of its country, and the number that it writes leaves
one when divided by 97, unless the sandbox waives that. The reader takes exactly these texts, in any
spelling that has them as its compact form.
-/

namespace RentalGuard.Iban

/-! ## The form -/

/-- The parts of an account number: two letters, two digits, and up to thirty letters and digits. -/
structure IsParts (country check account : List Char) : Prop where
  country_length : country.length = 2
  country_letters : ∀ c ∈ country, c.isUpper = true
  check_length : check.length = 2
  check_digits : ∀ c ∈ check, c.isDigit = true
  account_length : 1 ≤ account.length ∧ account.length ≤ 30
  account_chars : ∀ c ∈ account, c.isUpper = true ∨ c.isDigit = true

def HasForm (cs : List Char) : Prop :=
  ∃ country check account, IsParts country check account ∧ cs = country ++ check ++ account

namespace IsParts

variable {country check account : List Char}

theorem length (h : IsParts country check account) :
    (country ++ check ++ account).length = 4 + account.length := by
  rw [List.length_append, List.length_append, h.country_length, h.check_length]

theorem isWellFormed (h : IsParts country check account) :
    isWellFormed (country ++ check ++ account) = true := by
  have hcountry : (country ++ check ++ account).take 2 = country := by
    rw [List.append_assoc, List.take_left' h.country_length]
  have hcheck : ((country ++ check ++ account).drop 2).take 2 = check := by
    rw [List.append_assoc, List.drop_left' h.country_length, List.take_left' h.check_length]
  have haccount : (country ++ check ++ account).drop 4 = account :=
    List.drop_left' (by rw [List.length_append, h.country_length, h.check_length])
  obtain ⟨hleast, hgreatest⟩ := h.account_length
  simp only [Iban.isWellFormed, hasShape, hcountry, hcheck, haccount, h.length, Bool.and_eq_true,
    decide_eq_true_iff, List.all_eq_true, isAccountChar, Bool.or_eq_true]
  exact ⟨⟨⟨⟨by omega, by omega⟩, h.country_letters⟩, h.check_digits⟩, h.account_chars⟩

theorem chars (h : IsParts country check account) :
    ∀ c ∈ country ++ check ++ account, (c.isUpper || c.isDigit) = true := by
  intro c hc
  rw [Bool.or_eq_true]
  rcases List.mem_append.mp hc with hc | hc
  · rcases List.mem_append.mp hc with hc | hc
    · exact .inl (h.country_letters c hc)
    · exact .inr (h.check_digits c hc)
  · exact h.account_chars c hc

end IsParts

theorem isWellFormed_iff {cs : List Char} : isWellFormed cs = true ↔ HasForm cs := by
  constructor
  · intro h
    simp only [isWellFormed, hasShape, Bool.and_eq_true, decide_eq_true_iff, List.all_eq_true,
      isAccountChar, Bool.or_eq_true] at h
    obtain ⟨⟨⟨⟨hleast, hgreatest⟩, hcountry⟩, hcheck⟩, haccount⟩ := h
    refine ⟨cs.take 2, (cs.drop 2).take 2, cs.drop 4, ⟨?_, hcountry, ?_, hcheck, ?_, haccount⟩, ?_⟩
    · rw [List.length_take]
      omega
    · rw [List.length_take, List.length_drop]
      omega
    · rw [List.length_drop]
      omega
    · rw [← List.take_add, List.take_append_drop]
  · rintro ⟨country, check, account, h, rfl⟩
    exact h.isWellFormed

namespace HasForm

variable {cs : List Char}

theorem chars (h : HasForm cs) : ∀ c ∈ cs, (c.isUpper || c.isDigit) = true := by
  obtain ⟨country, check, account, hparts, rfl⟩ := h
  exact hparts.chars

theorem four_lt_length (h : HasForm cs) : 4 < cs.length := by
  obtain ⟨country, check, account, hparts, rfl⟩ := h
  have haccount := hparts.account_length.1
  rw [hparts.length]
  omega

end HasForm

theorem isAccountChar_of_mem (iban : Iban) : ∀ c ∈ iban.text.toList, isAccountChar c = true :=
  (isWellFormed_iff.mp iban.wellFormed).chars

theorem isAscii (iban : Iban) : ∀ c ∈ iban.text.toList, c.toNat < 128 := fun c hc =>
  Text.isAscii_of_isUpper_or_isDigit (iban.isAccountChar_of_mem c hc)

theorem compactForm_text (iban : Iban) : compactForm iban.text = iban.text :=
  compactForm_eq_self (isWellFormed_iff.mp iban.wellFormed).chars

/-! ## The registry of lengths -/

/-- No country is listed twice. -/
theorem ibanLength?_eq_some_iff {country : String} {length : Nat} :
    ibanLength? country = some length ↔ (country, length) ∈ ibanLengths := by
  constructor
  · intro h
    obtain ⟨before, after, htable, -⟩ := List.lookup_eq_some_iff.mp h
    exact htable ▸ List.mem_append_cons_self
  · intro h
    have hall : ibanLengths.all (fun e => ibanLength? e.1 == some e.2) = true := by decide +kernel
    exact beq_iff_eq.mp (List.all_eq_true.mp hall _ h)

/-! ## The sandbox -/

/-- The numbers of a sandbox are given in any spelling. A blank one stands for nothing. -/
theorem has_ofList_iff {entries : List String} {text : String} :
    (SandboxIbans.ofList entries).has text = true ↔
      text ≠ "" ∧ ∃ entry ∈ entries, compactForm entry = text := by
  unfold SandboxIbans.has SandboxIbans.ofList
  rw [List.contains_iff_mem, mem_distinct, List.mem_filter, List.mem_map, decide_eq_true_iff,
    and_comm]

/-! ## What the reader takes -/

/-- What a text must be to be an account number. -/
structure IsAccountNumber (sandbox : SandboxIbans) (text : String) : Prop where
  form : HasForm text.toList
  length : ∀ expected, (countryOf text, expected) ∈ ibanLengths → text.toList.length = expected
  checksum : sandbox.has text = true ∨ Checksum.number text.toList % 97 = 1

variable {sandbox : SandboxIbans} {raw : String} {iban : Iban}

theorem remainder?_eq_some_one_iff {cs : List Char} (h : HasForm cs) :
    Checksum.remainder? cs = some 1 ↔ Checksum.number cs % 97 = 1 := by
  rw [Checksum.remainder?_eq_some (Nat.le_of_lt h.four_lt_length) fun c hc => ?_,
    Option.some.injEq]
  have hkind := Bool.or_eq_true_iff.mp (h.chars c hc)
  exact Text.isAlphanum_iff.mpr (hkind.imp_right .inr)

theorem accept_eq_ok_iff {text : String} (h : isWellFormed text.toList = true) :
    parse.accept sandbox text h = .ok iban ↔
      iban.text = text ∧ (sandbox.has text = true ∨ Checksum.number text.toList % 97 = 1) := by
  have hcheck : (sandbox.has text || Checksum.remainder? text.toList == some 1) = true ↔
      sandbox.has text = true ∨ Checksum.number text.toList % 97 = 1 := by
    rw [Bool.or_eq_true, beq_iff_eq, remainder?_eq_some_one_iff (isWellFormed_iff.mp h)]
  have hiban : Except.ok ⟨text, h⟩ = (Except.ok iban : Except PaymentFault Iban) ↔
      iban.text = text := by
    rw [Except.ok.injEq, Iban.mk.injEq, eq_comm]
  unfold parse.accept
  rw [← hcheck, ← hiban]
  split
  · rename_i htaken
    exact ⟨fun hok => ⟨hok, htaken⟩, And.left⟩
  · rename_i hrefused
    exact ⟨fun hok => by (cases hok), fun hok => absurd hok.2 hrefused⟩

theorem isEmpty_of_isPlausible {cs : List Char} (h : isPlausible cs = true) :
    cs.isEmpty = false := by
  cases cs with
  | nil => cases h
  | cons c rest => rfl

theorem isPlausible_of_parse (h : parse sandbox raw = .ok iban) :
    isPlausible (compactForm raw).toList = true := by
  unfold parse at h
  simp only at h
  split at h
  · cases h
  · split at h
    · rename_i hplausible
      exact hplausible
    · cases h

/-- Once the form is right, only the length and the check digits can be wrong. -/
theorem parse_eq_ok_iff_of_isPlausible (h : isPlausible (compactForm raw).toList = true) :
    parse sandbox raw = .ok iban ↔ iban.text = compactForm raw ∧
      (∀ expected, (countryOf (compactForm raw), expected) ∈ ibanLengths →
        (compactForm raw).toList.length = expected) ∧
      (sandbox.has (compactForm raw) = true ∨
        Checksum.number (compactForm raw).toList % 97 = 1) := by
  have hne : ¬(compactForm raw).toList.isEmpty = true := by
    rw [isEmpty_of_isPlausible h]
    exact Bool.false_ne_true
  simp only [← ibanLength?_eq_some_iff]
  unfold parse
  rw [if_neg hne, dif_pos h]
  split
  · rename_i expected hexpected
    simp only [hexpected, Option.some.injEq, forall_eq']
    split
    · rename_i hlength
      rw [accept_eq_ok_iff, and_iff_right (beq_iff_eq.mp hlength)]
    · rename_i hlength
      rw [beq_iff_eq] at hlength
      exact ⟨fun hok => by (cases hok), fun hok => absurd hok.2.1 hlength⟩
  · rename_i hnone
    simp only [hnone, reduceCtorEq, false_implies, implies_true, true_and]
    exact accept_eq_ok_iff _

/-- The reader takes a text just if its compact form is an account number, and gives that form. -/
theorem parse_eq_ok_iff : parse sandbox raw = .ok iban ↔
    iban.text = compactForm raw ∧ IsAccountNumber sandbox (compactForm raw) := by
  constructor
  · intro h
    have hplausible := isPlausible_of_parse h
    obtain ⟨htext, hlength, hcheck⟩ := (parse_eq_ok_iff_of_isPlausible hplausible).mp h
    exact ⟨htext, isWellFormed_iff.mp (isWellFormed_compactForm hplausible), hlength, hcheck⟩
  · rintro ⟨htext, hform, hlength, hcheck⟩
    have hplausible := isPlausible_of_isWellFormed (isWellFormed_iff.mpr hform)
    exact (parse_eq_ok_iff_of_isPlausible hplausible).mpr ⟨htext, hlength, hcheck⟩

/-- The compact form is read as it is. -/
theorem parse_text (h : parse sandbox raw = .ok iban) : parse sandbox iban.text = .ok iban := by
  obtain ⟨htext, hnumber⟩ := parse_eq_ok_iff.mp h
  rw [parse_eq_ok_iff, iban.compactForm_text]
  exact ⟨rfl, htext ▸ hnumber⟩

theorem exists_parse_iff :
    (∃ iban, parse sandbox raw = .ok iban) ↔ IsAccountNumber sandbox (compactForm raw) := by
  constructor
  · rintro ⟨iban, h⟩
    exact (parse_eq_ok_iff.mp h).2
  · intro h
    exact ⟨⟨compactForm raw, isWellFormed_iff.mpr h.form⟩, parse_eq_ok_iff.mpr ⟨rfl, h⟩⟩

/-- The reader takes a text just if its compact form is two letters, two digits and up to thirty
letters and digits, as many as the registry says for the country if it has it, and either writes a
number that leaves one when divided by 97 or is that of an entry of the sandbox. The remainder is
computed of the whole number, however long it is, for every text of at least four letters and digits
and for no other text, and no number on the way is too large for 32 bits. -/
theorem account_numbers_are_the_mod97_language :
    (∀ (entries : List String) (raw text : String),
      (∃ iban, parse (.ofList entries) raw = .ok iban ∧ iban.text = text) ↔
        text = compactForm raw ∧ HasForm text.toList ∧
        (∀ expected, (countryOf text, expected) ∈ ibanLengths →
          text.toList.length = expected) ∧
        ((∃ entry ∈ entries, compactForm entry = text) ∨
          Checksum.number text.toList % 97 = 1)) ∧
    (∀ cs : List Char, 4 ≤ cs.length → (∀ c ∈ cs, c.isAlphanum = true) →
      Checksum.remainder? cs = some (Checksum.number cs % 97)) ∧
    (∀ cs : List Char, ¬(4 ≤ cs.length ∧ ∀ c ∈ cs, c.isAlphanum = true) →
      Checksum.remainder? cs = none) ∧
    ∀ (cs read rest : List Char) (c : Char) (remainder value : Nat),
      Checksum.rotated cs = read ++ c :: rest → read.foldlM Checksum.step? 0 = some remainder →
      Text.digit36? c = some value → Checksum.append remainder value < UInt32.size := by
  refine ⟨fun entries raw text => ⟨?sound, ?complete⟩, ?some, ?none, ?small⟩
  case sound =>
    rintro ⟨iban, hparse, rfl⟩
    obtain ⟨htext, hform, hlength, hcheck⟩ := parse_eq_ok_iff.mp hparse
    rw [htext]
    exact ⟨rfl, hform, hlength, hcheck.imp_left fun hlisted => (has_ofList_iff.mp hlisted).2⟩
  case complete =>
    rintro ⟨rfl, hform, hlength, hcheck⟩
    have hne : compactForm raw ≠ "" := fun hempty =>
      absurd (hempty ▸ hform.four_lt_length) (by decide)
    refine ⟨⟨compactForm raw, isWellFormed_iff.mpr hform⟩, parse_eq_ok_iff.mpr ⟨rfl, hform, hlength,
      hcheck.imp_left fun hlisted => has_ofList_iff.mpr ⟨hne, hlisted⟩⟩, rfl⟩
  case some =>
    intro cs hlength hkind
    exact Checksum.remainder?_eq_some hlength hkind
  case none =>
    intro cs hother
    exact Checksum.remainder?_eq_none hother
  case small =>
    intro cs read rest c remainder value _ hread hvalue
    exact Nat.lt_trans (Checksum.append_lt hread hvalue) (by decide)

/-- A number in groups and in lower case, and one of the sandbox whose remainder is thirty. Letters
of either case count alike, and one letter beyond ASCII leaves nothing to compute. No step is larger
than that from 96 with the last letter. -/
theorem account_numbers_are_the_mod97_language_in_groups :
    (∃ iban, parse (.ofList []) "nl91 abna 0417 1643 00" = .ok iban ∧
      iban.text = "NL91ABNA0417164300") ∧
    (∃ iban, parse (.ofList ["", "nl87 abna 0000 0000 01"]) "NL87ABNA0000000001" = .ok iban ∧
      iban.text = "NL87ABNA0000000001") ∧
    Checksum.remainder? "NL87ABNA0000000001".toList = some 30 ∧
    Checksum.remainder? "aZ9b1".toList = some (11035911 % 97) ∧
    Checksum.remainder? "NL91É".toList = none ∧ Checksum.append 96 35 < UInt32.size := by
  obtain ⟨htaken, hsome, hnone, hsmall⟩ := account_numbers_are_the_mod97_language
  have hgroups : HasForm "NL91ABNA0417164300".toList := isWellFormed_iff.mp (by decide)
  have hsandbox : HasForm "NL87ABNA0000000001".toList := isWellFormed_iff.mp (by decide)
  have hlength : ∀ expected, ("NL", expected) ∈ ibanLengths → 18 = expected := fun expected h =>
    Option.some.inj ((by decide : some 18 = ibanLength? "NL").trans (ibanLength?_eq_some_iff.mpr h))
  refine ⟨(htaken _ _ _).mpr ⟨by decide, hgroups, hlength, .inr (by decide)⟩,
    (htaken _ _ _).mpr ⟨by decide, hsandbox, hlength,
      .inl ⟨"nl87 abna 0000 0000 01", by simp, by decide⟩⟩,
    (hsome _ (by decide) (List.all_eq_true.mp (by decide))).trans (by decide),
    (hsome _ (by decide) (List.all_eq_true.mp (by decide))).trans (by decide),
    hnone _ (fun h => absurd (h.2 'É' (by decide)) (by decide)),
    hsmall "000096Z".toList ['9', '6'] "0000".toList 'Z' 96 35 (by decide) (by decide) (by decide)⟩

end RentalGuard.Iban
