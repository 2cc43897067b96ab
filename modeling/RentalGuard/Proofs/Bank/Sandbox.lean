import RentalGuard.Proofs.Bank.AccountNumber

/-! # What the sandbox waives

The check digits are looked at last, and the sandbox is asked only then. So a list of exempt numbers
turns one refusal into a result and leaves all other answers as they are. An entry counts only if it
would itself be refused for its check digits.
-/

namespace RentalGuard.Iban

variable {sandbox sandbox' : SandboxIbans} {raw raw' text : String} {fault : PaymentFault}

/-! ## The form and the check digits -/

/-- What is wrong with a text in compact form, the check digits apart. -/
def formFault? (text : String) : Option PaymentFault :=
  if text.toList.isEmpty then some (.missing .iban)
  else if isPlausible text.toList then
    match ibanLength? (countryOf text) with
    | some expected =>
      if text.toList.length == expected then none
      else some (.ibanLength (countryOf text) expected)
    | none => none
  else some .ibanFormat

theorem kind_of_formFault? (h : formFault? text = some fault) : fault.kind ≠ .invalidChecksum := by
  unfold formFault? at h
  repeat' split at h
  all_goals cases h
  all_goals exact nofun

/-- Whether the check digits are right or need not be. -/
def passes (sandbox : SandboxIbans) (text : String) : Bool :=
  sandbox.has text || Checksum.remainder? text.toList == some 1

theorem passes_empty_iff :
    passes .empty text = true ↔ Checksum.remainder? text.toList = some 1 := beq_iff_eq

theorem accept_eq (h : isWellFormed text.toList = true) :
    parse.accept sandbox text h =
      if passes sandbox text then .ok ⟨text, h⟩ else .error .ibanChecksum := rfl

/-- Either the form is wrong, or the check digits decide. -/
theorem parse_cases (sandbox : SandboxIbans) (raw : String) :
    (∃ fault, formFault? (compactForm raw) = some fault ∧ parse sandbox raw = .error fault) ∨
    (formFault? (compactForm raw) = none ∧ ∃ hform,
      parse sandbox raw = if passes sandbox (compactForm raw) then .ok ⟨compactForm raw, hform⟩
        else .error .ibanChecksum) := by
  by_cases hempty : (compactForm raw).toList.isEmpty = true
  · exact .inl ⟨.missing .iban, by simp [formFault?, hempty], by simp [parse, hempty]⟩
  by_cases hplausible : isPlausible (compactForm raw).toList = true
  · cases hexpected : ibanLength? (countryOf (compactForm raw)) with
    | none =>
      exact .inr ⟨by simp [formFault?, hempty, hplausible, hexpected],
        isWellFormed_compactForm hplausible,
        by simp [parse, hempty, hplausible, hexpected, accept_eq]⟩
    | some expected =>
      by_cases hlength : (compactForm raw).toList.length = expected
      · exact .inr ⟨by simp [formFault?, hempty, hplausible, hexpected, hlength],
          isWellFormed_compactForm hplausible,
          by simp [parse, hempty, hplausible, hexpected, hlength, accept_eq]⟩
      · exact .inl ⟨.ibanLength (countryOf (compactForm raw)) expected,
          by simp [formFault?, hempty, hplausible, hexpected, hlength],
          by simp [parse, hempty, hplausible, hexpected, hlength]⟩
  · exact .inl ⟨.ibanFormat, by simp [formFault?, hempty, hplausible],
      by simp [parse, hempty, hplausible]⟩

theorem parse_of_formFault? (h : formFault? (compactForm raw) = some fault) :
    parse sandbox raw = .error fault := by
  obtain ⟨other, hother, hparse⟩ | ⟨hnone, -⟩ := parse_cases sandbox raw
  · rwa [Option.some.inj (h.symm.trans hother)]
  · rw [hnone] at h
    cases h

theorem exists_parse_eq (sandbox : SandboxIbans) (h : formFault? (compactForm raw) = none) :
    ∃ hform, parse sandbox raw = if passes sandbox (compactForm raw) then
      .ok ⟨compactForm raw, hform⟩ else .error .ibanChecksum := by
  obtain ⟨fault, hfault, -⟩ | ⟨-, hparse⟩ := parse_cases sandbox raw
  · rw [hfault] at h
    cases h
  · exact hparse

theorem parse_of_passes (h : formFault? (compactForm raw) = none)
    (hpasses : passes sandbox (compactForm raw) = true) :
    ∃ iban, parse sandbox raw = .ok iban ∧ iban.text = compactForm raw := by
  obtain ⟨hform, hparse⟩ := exists_parse_eq sandbox h
  exact ⟨⟨compactForm raw, hform⟩, hparse.trans (if_pos hpasses), rfl⟩

theorem parse_of_not_passes (h : formFault? (compactForm raw) = none)
    (hpasses : ¬passes sandbox (compactForm raw) = true) :
    parse sandbox raw = .error .ibanChecksum := by
  obtain ⟨hform, hparse⟩ := exists_parse_eq sandbox h
  exact hparse.trans (if_neg hpasses)

/-- The answer depends on the sandbox in what it says of a text that has the form. -/
theorem parse_congr (h : formFault? (compactForm raw) = none →
      passes sandbox (compactForm raw) = passes sandbox' (compactForm raw)) :
    parse sandbox raw = parse sandbox' raw := by
  cases hfault : formFault? (compactForm raw) with
  | some fault => rw [parse_of_formFault? hfault, parse_of_formFault? hfault]
  | none =>
    obtain ⟨hform, hparse⟩ := exists_parse_eq sandbox hfault
    obtain ⟨hform', hparse'⟩ := exists_parse_eq sandbox' hfault
    rw [hparse, hparse', h hfault]

/-! ## Wrong check digits -/

/-- Whether a text is refused for its check digits where no number is exempt. -/
def HasWrongCheckDigits (raw : String) : Prop :=
  ∃ fault, parse .empty raw = .error fault ∧ fault.kind = .invalidChecksum

theorem hasWrongCheckDigits_iff : HasWrongCheckDigits raw ↔
    formFault? (compactForm raw) = none ∧
      Checksum.remainder? (compactForm raw).toList ≠ some 1 := by
  unfold HasWrongCheckDigits
  cases hfault : formFault? (compactForm raw) with
  | some fault => simpa [parse_of_formFault? hfault] using kind_of_formFault? hfault
  | none =>
    by_cases hpasses : passes .empty (compactForm raw) = true
    · obtain ⟨iban, hiban, -⟩ := parse_of_passes hfault hpasses
      simp [hiban, passes_empty_iff.mp hpasses]
    · have hwrong := parse_of_not_passes hfault hpasses
      simp [hwrong, mt passes_empty_iff.mpr hpasses, PaymentFault.kind]

/-- The compact form alone matters. -/
theorem HasWrongCheckDigits.congr (h : HasWrongCheckDigits raw)
    (hsame : compactForm raw' = compactForm raw) : HasWrongCheckDigits raw' := by
  rw [hasWrongCheckDigits_iff] at h ⊢
  rwa [hsame]

/-- A sandbox makes a difference only to a text whose check digits are wrong. -/
theorem parse_congr_of_has (h : HasWrongCheckDigits raw →
      (sandbox.has (compactForm raw) = true ↔ sandbox'.has (compactForm raw) = true)) :
    parse sandbox raw = parse sandbox' raw := by
  refine parse_congr fun hfault => ?_
  by_cases hone : Checksum.remainder? (compactForm raw).toList = some 1
  · simp [passes, hone]
  · have hhas := Bool.eq_iff_iff.mpr (h (hasWrongCheckDigits_iff.mpr ⟨hfault, hone⟩))
    simp [passes, hhas]

/-! ## Entries of the sandbox -/

theorem has_ofList_iff_of_hasWrongCheckDigits (h : HasWrongCheckDigits raw)
    (listed : List String) : (SandboxIbans.ofList listed).has (compactForm raw) = true ↔
      ∃ entry ∈ listed, compactForm entry = compactForm raw := by
  have hne : compactForm raw ≠ "" := by
    intro hempty
    have hform := (hasWrongCheckDigits_iff.mp h).1
    rw [hempty] at hform
    cases hform
  rw [has_ofList_iff, and_iff_right hne]

/-- A list of exempt numbers makes a difference in one case: a number that is refused for its check
digits is taken, in its compact form, if an entry has this compact form. Every other text gets the
answer that it gets where no number is exempt, the same number or the same fault. Entries that would
not be refused for their check digits themselves, so all that are blank or have not the form or the
length of an account number, change no answer, nor do the order of the entries and repetitions. -/
theorem sandbox_waives_check_digits_only (listed : List String) (raw : String) :
    let strict : Except PaymentFault Iban := parse .empty raw
    let result : Except PaymentFault Iban := parse (.ofList listed) raw
    let exempt := HasWrongCheckDigits raw ∧ ∃ entry ∈ listed, compactForm entry = compactForm raw
    (exempt → ∃ iban, result = .ok iban ∧ iban.text = compactForm raw) ∧
    (¬exempt → result = strict) ∧
    (∀ useless : List String, (∀ entry ∈ useless, ¬HasWrongCheckDigits entry) →
      parse (.ofList (useless ++ listed)) raw = result) ∧
    ∀ listed' : List String, (∀ entry, entry ∈ listed' ↔ entry ∈ listed) →
      parse (.ofList listed') raw = result := by
  intro strict result exempt
  refine ⟨?exempt, ?others, ?useless, ?order⟩
  case exempt =>
    rintro ⟨hwrong, hlisted⟩
    have hhas := (has_ofList_iff_of_hasWrongCheckDigits hwrong listed).mpr hlisted
    have hform := (hasWrongCheckDigits_iff.mp hwrong).1
    exact parse_of_passes hform (Bool.or_eq_true_iff.mpr (.inl hhas))
  case others =>
    intro hother
    refine parse_congr_of_has fun hwrong => ?_
    rw [has_ofList_iff_of_hasWrongCheckDigits hwrong]
    exact iff_of_false (fun hlisted => hother ⟨hwrong, hlisted⟩) Bool.false_ne_true
  case useless =>
    intro useless huseless
    refine parse_congr_of_has fun hwrong => ?_
    simp only [has_ofList_iff_of_hasWrongCheckDigits hwrong, List.mem_append]
    -- an entry with the same compact form would have wrong check digits as well
    have hnone : ∀ entry ∈ useless, compactForm entry ≠ compactForm raw := fun entry hentry hsame =>
      huseless entry hentry (hwrong.congr hsame)
    constructor
    · rintro ⟨entry, hentry | hentry, hsame⟩
      · exact absurd hsame (hnone entry hentry)
      · exact ⟨entry, hentry, hsame⟩
    · rintro ⟨entry, hentry, hsame⟩
      exact ⟨entry, .inr hentry, hsame⟩
  case order =>
    intro listed' hmembers
    refine parse_congr_of_has fun hwrong => ?_
    simp only [has_ofList_iff_of_hasWrongCheckDigits hwrong, hmembers]

/-- A number of the sandbox in another spelling, a number of which one digit too many is listed, and
a list with a blank entry. -/
theorem sandbox_waives_check_digits_only_in_two_spellings :
    let listed := ["nl87 abna 0000 0000 01", "NL87ABNA00000000012"]
    let listed' := ["NL87ABNA00000000012", "nl87 abna 0000 0000 01", "NL87ABNA00000000012"]
    HasWrongCheckDigits "NL87 ABNA 0000000001" ∧ ¬HasWrongCheckDigits " " ∧
      (∃ iban, parse (.ofList listed) "NL87 ABNA 0000000001" = .ok iban ∧
        iban.text = "NL87ABNA0000000001") ∧
      parse (.ofList listed) "NL87ABNA00000000012" = .error (.ibanLength "NL" 18) ∧
      parse (.ofList ([" "] ++ listed)) "NL87 ABNA 0000000001" =
        parse (.ofList listed) "NL87 ABNA 0000000001" ∧
      parse (.ofList listed') "NL87 ABNA 0000000001" =
        parse (.ofList listed) "NL87 ABNA 0000000001" := by
  intro listed listed'
  have hwrong : HasWrongCheckDigits "NL87 ABNA 0000000001" := ⟨.ibanChecksum, rfl, rfl⟩
  have hlong : ¬HasWrongCheckDigits "NL87ABNA00000000012" := by
    rintro ⟨fault, hfault, hkind⟩
    cases hfault
    cases hkind
  have hblank : ¬HasWrongCheckDigits " " := by
    rintro ⟨fault, hfault, hkind⟩
    cases hfault
    cases hkind
  obtain ⟨hexempt, -, huseless, horder⟩ :=
    sandbox_waives_check_digits_only listed "NL87 ABNA 0000000001"
  obtain ⟨-, hother, -⟩ := sandbox_waives_check_digits_only listed "NL87ABNA00000000012"
  exact ⟨hwrong, hblank, hexempt ⟨hwrong, "nl87 abna 0000 0000 01", by simp [listed], by decide⟩,
    hother fun h => hlong h.1, huseless [" "] (by simpa using hblank),
    horder listed' (by simp [listed, listed', or_comm])⟩

end RentalGuard.Iban
