import RentalGuard.Proofs.Bank.AccountNumber
import RentalGuard.Proofs.Bank.BankCode

/-! # What the readers of bank identifiers rewrite

A bank identifier that is taken is the text as it was entered, without its blanks and in upper case.
Upper case is not that of ASCII alone: the ten listed characters turn into letters, so that a text
which has one of them is taken as if these letters had been entered.
-/

namespace RentalGuard

variable {raw text : String}

/-- Whether an identifier has the letters and digits that were entered, in their order and in upper
case, and whether nothing else was entered but blanks. -/
structure KeepsSpelling (raw text : String) : Prop where
  ascii : ∀ c ∈ Text.withoutBlanks raw.toList, c.isAlphanum = true
  same : text.toList = (Text.withoutBlanks raw.toList).map Char.toUpper

theorem KeepsSpelling.length (h : KeepsSpelling raw text) :
    text.toList.length = (Text.withoutBlanks raw.toList).length := by
  rw [h.same, List.length_map]

/-- Whether an identifier is what was entered, in upper case, with letters in place of the listed
characters, and whether nothing else was entered but letters, digits and blanks. -/
structure KeepsSpellingButListed (raw text : String) : Prop where
  known : ∀ c ∈ Text.withoutBlanks raw.toList, c.isAlphanum = true ∨ Text.isDisguised c = true
  same : text.toList = (Text.withoutBlanks raw.toList).flatMap Text.asciiUpper

/-- A compact form of upper-case letters and digits has the spelling of the text, apart from the
listed characters. -/
theorem keepsSpellingButListed_compactForm
    (h : ∀ c ∈ (compactForm raw).toList, (c.isUpper || c.isDigit) = true) :
    KeepsSpellingButListed raw (compactForm raw) := by
  rw [toList_compactForm] at h
  have hupper : ∀ c ∈ Text.withoutBlanks raw.toList,
      (c.isAlphanum = true ∨ Text.isDisguised c = true) ∧ Text.upper c = Text.asciiUpper c :=
    fun c hc => Text.upper_eq_asciiUpper fun d hd => h d (List.mem_flatMap_of_mem hc hd)
  refine ⟨fun c hc => (hupper c hc).1, ?_⟩
  rw [toList_compactForm, List.flatMap_def, List.map_congr_left fun c hc => (hupper c hc).2,
    ← List.flatMap_def]

/-- Without listed characters the spelling is kept, and with one it is not. -/
theorem KeepsSpellingButListed.keepsSpelling_iff (h : KeepsSpellingButListed raw text) :
    KeepsSpelling raw text ↔ ∀ c ∈ raw.toList, Text.isDisguised c = false := by
  constructor
  · intro hkept c hc
    rw [← Bool.not_eq_true]
    intro hdisguised
    obtain ⟨hother, hvisible⟩ := Text.kind_of_isDisguised hdisguised
    have hentered : c ∈ Text.withoutBlanks raw.toList :=
      List.mem_filter.mpr ⟨hc, by rw [hvisible, Bool.not_false]⟩
    rw [hkept.ascii c hentered] at hother
    cases hother
  · intro hnone
    have hplain : ∀ c ∈ Text.withoutBlanks raw.toList, Text.isDisguised c = false :=
      fun c hc => hnone c (List.mem_filter.mp hc).1
    refine ⟨fun c hc => ?_, ?_⟩
    · refine (h.known c hc).resolve_right ?_
      rw [hplain c hc]
      exact Bool.false_ne_true
    · rw [h.same, Text.flatMap_eq_map fun c hc => Text.asciiUpper_eq_toUpper (hplain c hc)]

theorem Bic.keepsSpellingButListed {bic : Bic} (h : Bic.parse raw = .ok bic) :
    KeepsSpellingButListed raw bic.text := by
  obtain ⟨htext, hshape, -⟩ := Bic.parse_eq_ok_iff.mp h
  rw [htext]
  exact keepsSpellingButListed_compactForm (Bic.chars_of_isWellFormed hshape)

theorem Iban.keepsSpellingButListed {sandbox : SandboxIbans} {iban : Iban}
    (h : Iban.parse sandbox raw = .ok iban) : KeepsSpellingButListed raw iban.text := by
  obtain ⟨htext, hnumber⟩ := Iban.parse_eq_ok_iff.mp h
  rw [htext]
  exact keepsSpellingButListed_compactForm hnumber.form.chars

/-- A bank identifier that is taken has the letters and digits that were entered, in their order and
in upper case, just if none of the listed characters was entered. Each of these is taken for letters
of ASCII. Nothing else is rewritten, and no other character beyond ASCII is let through. -/
theorem identifiers_keep_spelling_without_listed_characters (sandbox : SandboxIbans)
    (raw : String) :
    (∀ bic, Bic.parse raw = .ok bic → KeepsSpellingButListed raw bic.text ∧
      (KeepsSpelling raw bic.text ↔ ∀ c ∈ raw.toList, Text.isDisguised c = false)) ∧
    ∀ iban, Iban.parse sandbox raw = .ok iban → KeepsSpellingButListed raw iban.text ∧
      (KeepsSpelling raw iban.text ↔ ∀ c ∈ raw.toList, Text.isDisguised c = false) := by
  constructor
  · intro bic h
    have hkept := Bic.keepsSpellingButListed h
    exact ⟨hkept, hkept.keepsSpelling_iff⟩
  · intro iban h
    have hkept := Iban.keepsSpellingButListed h
    exact ⟨hkept, hkept.keepsSpelling_iff⟩

/-- A bank code in lower case is kept. An account number with a ligature is not: it is taken for
another text that has the two letters. -/
theorem identifiers_keep_spelling_without_listed_characters_plain_and_ligature :
    (∃ bic, Bic.parse "deut deff" = .ok bic ∧ bic.text = "DEUTDEFF" ∧
      KeepsSpelling "deut deff" bic.text) ∧
    ∃ iban, Iban.parse .empty "GB82 WEﬆ 1234 5698 7654 32" = .ok iban ∧
      iban.text = "GB82WEST12345698765432" ∧
      ¬KeepsSpelling "GB82 WEﬆ 1234 5698 7654 32" iban.text := by
  have hcode : Bic.parse "deut deff" = .ok ⟨"DEUTDEFF", by decide⟩ := rfl
  have hnumber : Iban.parse .empty "GB82 WEﬆ 1234 5698 7654 32" =
      .ok ⟨"GB82WEST12345698765432", by decide⟩ := rfl
  have hplain : "deut deff".toList.any Text.isDisguised = false := by decide
  have hcodes := (identifiers_keep_spelling_without_listed_characters .empty "deut deff").1
  have hnumbers :=
    (identifiers_keep_spelling_without_listed_characters .empty "GB82 WEﬆ 1234 5698 7654 32").2
  have hkept := (hcodes _ hcode).2.mpr fun c hc =>
    eq_false_of_ne_true (List.any_eq_false.mp hplain c hc)
  refine ⟨⟨_, hcode, rfl, hkept⟩, _, hnumber, rfl, fun hkept => ?_⟩
  exact absurd ((hnumbers _ hnumber).2.mp hkept 'ﬆ' (by decide)) (by decide)

/-- A bank code of seven characters, the last of them a ligature, is taken for one of eight. -/
theorem ligatures_are_taken_for_letters :
    (∃ bic, Bic.parse "DEUTDEﬀ" = .ok bic ∧ bic.text = "DEUTDEFF") ∧
      ¬∀ (raw : String) (bic : Bic), Bic.parse raw = .ok bic → KeepsSpelling raw bic.text := by
  have hcode : Bic.parse "DEUTDEﬀ" = .ok ⟨"DEUTDEFF", by decide⟩ := rfl
  exact ⟨⟨_, hcode, rfl⟩, fun hkept => absurd (hkept _ _ hcode).length (by decide)⟩

end RentalGuard
