import RentalGuard.Proofs.Bank.Sandbox
import RentalGuard.Text.Bytes

/-! # How account numbers are presented

Blanks and the case of letters do not count: texts that differ in nothing else get the same answer,
be it a number or a fault. The form in blocks of four differs from the number by spaces only, so it
is read as the number again. The parts of a number are what its bytes have at their places.
-/

namespace RentalGuard

namespace Text

variable {b c d : Char} {cs ds front front' : List Char}

/-- Texts that differ by blanks, here and there, and by the case of letters from a to z. -/
inductive Respelled : List Char → List Char → Prop where
  | nil : Respelled [] []
  | blankBefore {b : Char} {cs ds : List Char} (blank : isBlank b = true)
      (rest : Respelled cs ds) : Respelled (b :: cs) ds
  | blankAfter {b : Char} {cs ds : List Char} (blank : isBlank b = true)
      (rest : Respelled cs ds) : Respelled cs (b :: ds)
  | letter {c d : Char} {cs ds : List Char} (same : c.toUpper = d.toUpper)
      (rest : Respelled cs ds) : Respelled (c :: cs) (d :: ds)

namespace Respelled

theorem refl (cs : List Char) : Respelled cs cs := by
  induction cs with
  | nil => exact .nil
  | cons c rest ih => exact .letter rfl ih

theorem append (h : Respelled front front') (hrest : Respelled cs ds) :
    Respelled (front ++ cs) (front' ++ ds) := by
  induction h with
  | nil => exact hrest
  | blankBefore blank _ ih => exact .blankBefore blank ih
  | blankAfter blank _ ih => exact .blankAfter blank ih
  | letter same _ ih => exact .letter same ih

end Respelled

theorem isBlank_toUpper (c : Char) : isBlank c.toUpper = isBlank c := by
  have hcase := toNat_toUpper c
  split at hcase
  · rw [isBlank_of_visible (by omega) (by omega), isBlank_of_visible (by omega) (by omega)]
  · rw [Char.toNat_inj.mp hcase]

/-- A letter has one upper case, whichever case it is in. -/
theorem upper_toUpper (c : Char) : upper c.toUpper = upper c := by
  have hcase := toNat_toUpper c
  split at hcase
  · have htwice : c.toUpper.toUpper = c.toUpper := by
      rw [← Char.toNat_inj, toNat_toUpper c.toUpper, if_neg (by omega)]
    rw [upper_of_ascii (by omega), upper_of_ascii (by omega), htwice]
  · rw [Char.toNat_inj.mp hcase]

/-- The text without its blanks, and with the letters from a to z in upper case. -/
def folded (cs : List Char) : List Char := (withoutBlanks cs).map Char.toUpper

theorem folded_cons_blank (hc : isBlank c = true) (cs : List Char) :
    folded (c :: cs) = folded cs := by
  simp [folded, withoutBlanks, hc]

theorem folded_cons (hc : isBlank c = false) (cs : List Char) :
    folded (c :: cs) = c.toUpper :: folded cs := by
  simp [folded, withoutBlanks, hc]

theorem Respelled.folded_eq (h : Respelled cs ds) : folded cs = folded ds := by
  induction h with
  | nil => rfl
  | blankBefore blank _ ih => rw [folded_cons_blank blank, ih]
  | blankAfter blank _ ih => rw [folded_cons_blank blank, ih]
  | @letter c d cs ds same _ ih =>
    have hkind : isBlank c = isBlank d := by rw [← isBlank_toUpper c, same, isBlank_toUpper]
    cases hd : isBlank d with
    | true => rw [folded_cons_blank (hkind.trans hd), folded_cons_blank hd, ih]
    | false => rw [folded_cons (hkind.trans hd), folded_cons hd, same, ih]

theorem respelled_of_folded_eq (h : folded cs = folded ds) : Respelled cs ds := by
  induction cs generalizing ds with
  | nil =>
    induction ds with
    | nil => exact .nil
    | cons d ds ih =>
      cases hd : isBlank d with
      | true => exact .blankAfter hd (ih (h.trans (folded_cons_blank hd ds)))
      | false =>
        rw [folded_cons hd] at h
        exact absurd h (List.cons_ne_nil _ _).symm
  | cons c cs ih =>
    cases hc : isBlank c with
    | true => exact .blankBefore hc (ih ((folded_cons_blank hc cs).symm.trans h))
    | false =>
      -- blanks of the other text come before the letter that answers this one
      rw [folded_cons hc] at h
      induction ds with
      | nil => simp [folded, withoutBlanks] at h
      | cons d ds ihd =>
        cases hd : isBlank d with
        | true => exact .blankAfter hd (ihd (h.trans (folded_cons_blank hd ds)))
        | false =>
          rw [folded_cons hd, List.cons.injEq] at h
          exact .letter h.1 (ih h.2)

theorem respelled_iff : Respelled cs ds ↔ folded cs = folded ds :=
  ⟨Respelled.folded_eq, respelled_of_folded_eq⟩

instance (cs ds : List Char) : Decidable (Respelled cs ds) :=
  decidable_of_iff (folded cs = folded ds) respelled_iff.symm

theorem compactUpper_eq_folded (cs : List Char) : compactUpper cs = (folded cs).flatMap upper := by
  simp only [compactUpper, folded, List.flatMap_map, upper_toUpper]

/-- Respelling changes nothing in the compact form. -/
theorem Respelled.compactUpper_eq (h : Respelled cs ds) : compactUpper cs = compactUpper ds := by
  rw [compactUpper_eq_folded, compactUpper_eq_folded, h.folded_eq]

end Text

namespace Iban

variable {sandbox : SandboxIbans} {raw raw' : String} {iban : Iban} {cs : List Char}
  {bs : List (List Char)}

/-- The answer depends on the compact form only. -/
theorem parse_eq_of_compactForm (h : compactForm raw = compactForm raw') :
    parse sandbox raw = parse sandbox raw' := by
  obtain ⟨fault, hfault, hparse⟩ | ⟨hnone, hform, hparse⟩ := parse_cases sandbox raw
  · rw [hparse, parse_of_formFault? (h ▸ hfault)]
  · obtain ⟨hform', hparse'⟩ := exists_parse_eq sandbox (h ▸ hnone)
    rw [hparse, hparse']
    simp only [h]

theorem parse_eq_of_respelled (h : Text.Respelled raw.toList raw'.toList) :
    parse sandbox raw = parse sandbox raw' := by
  refine parse_eq_of_compactForm ?_
  rw [compactForm, compactForm, h.compactUpper_eq]

/-! ## Blocks -/

/-- Whether these are the blocks of a text: four characters each, and one to four in the last. -/
structure AreBlocks (bs : List (List Char)) (cs : List Char) : Prop where
  flatten : bs.flatten = cs
  full : ∀ b ∈ bs.dropLast, b.length = 4
  last : ∀ b ∈ bs.getLast?, 1 ≤ b.length ∧ b.length ≤ 4

theorem AreBlocks.cons {b : List Char} (h : AreBlocks bs cs) (hb : b.length = 4) :
    AreBlocks (b :: bs) (b ++ cs) := by
  refine ⟨by rw [List.flatten_cons, h.flatten], ?_, ?_⟩
  · cases bs with
    | nil => simp
    | cons c more =>
      rw [List.dropLast_cons_cons]
      exact List.forall_mem_cons.mpr ⟨hb, h.full⟩
  · cases bs with
    | nil => simp [hb]
    | cons c more =>
      rw [List.getLast?_cons_cons]
      exact h.last

theorem areBlocks_blocks (cs : List Char) : AreBlocks (blocks cs) cs := by
  fun_induction blocks cs with
  | case1 a b c d rest ih => exact ih.cons rfl
  | case2 => exact ⟨rfl, by simp, by simp⟩
  | case3 rest hmany hne =>
    have hshort : 1 ≤ rest.length ∧ rest.length ≤ 4 := by
      match rest, hmany, hne with
      | [_], _, _ | [_, _], _, _ | [_, _, _], _, _ => simp
      | [], _, hne => exact absurd rfl hne
      | a :: b :: c :: d :: more, hmany, _ => exact (hmany a b c d more rfl).elim
    exact ⟨by simp, by simp, by simpa using hshort⟩

theorem respelled_intercalate (bs : List (List Char)) :
    Text.Respelled ([' '].intercalate bs) bs.flatten := by
  induction bs with
  | nil => exact .nil
  | cons b rest ih =>
    cases rest with
    | nil => simpa using Text.Respelled.refl b
    | cons c more =>
      rw [List.intercalate_cons_cons, List.flatten_cons, List.append_assoc]
      exact (Text.Respelled.refl b).append (.blankBefore rfl ih)

/-- The blocks are the number with spaces in it, so it is read from them. -/
theorem parse_formatted (h : parse sandbox raw = .ok iban) :
    parse sandbox iban.formatted = .ok iban := by
  have hspaced : Text.Respelled iban.formatted.toList iban.text.toList := by
    have hjoined := respelled_intercalate (blocks iban.text.toList)
    rw [(areBlocks_blocks iban.text.toList).flatten] at hjoined
    rwa [formatted, grouped, String.toList_ofList]
  rw [parse_eq_of_respelled hspaced]
  exact parse_text h

/-! ## Parts -/

/-- Whether the parts of a number are what its bytes have at their places. -/
structure IsCut (iban : Iban) : Prop where
  country : Text.between? iban.text 0 2 = some iban.country
  checkDigits : Text.between? iban.text 2 4 = some iban.checkDigits
  account : Text.after? iban.text 4 = some iban.account

theorem isCut (iban : Iban) : IsCut iban := by
  obtain ⟨country, check, account, hparts, htext⟩ := isWellFormed_iff.mp iban.wellFormed
  have hfront : (country ++ check).length = 4 := by
    rw [List.length_append, hparts.country_length, hparts.check_length]
  have htail : iban.text.toList = country ++ (check ++ account) := by
    rw [htext, List.append_assoc]
  refine ⟨?_, ?_, ?_⟩
  · have hcountry : iban.country = String.ofList country := by
      rw [Iban.country, countryOf, htail, List.take_left' hparts.country_length]
    rw [hcountry]
    exact Text.between?_of_toList [] country (check ++ account) htail iban.isAscii rfl
      hparts.country_length
  · have hcheck : iban.checkDigits = String.ofList check := by
      rw [checkDigits, htail, List.drop_left' hparts.country_length,
        List.take_left' hparts.check_length]
    rw [hcheck]
    exact Text.between?_of_toList country check account htext iban.isAscii hparts.country_length
      hfront
  · have haccount : iban.account = String.ofList account := by
      rw [Iban.account, htext, List.drop_left' hfront]
    rw [haccount]
    exact Text.after?_of_toList htext iban.isAscii hfront

/-- The parts of a number are all of it. -/
theorem joined_parts (iban : Iban) :
    iban.country ++ iban.checkDigits ++ iban.account = iban.text := by
  simp only [← String.toList_inj, String.toList_append, country, countryOf, checkDigits, account,
    String.toList_ofList]
  rw [← List.take_add, List.take_append_drop]

/-- Texts that differ by blanks, anywhere, and by the case of letters get the same answer, whatever
numbers are exempt. A number that is taken is shown in blocks of four characters with single spaces
between, and is read again from these blocks as from the number as it stands. Country, check digits
and account make up the number, and are cut out of its bytes where characters start. -/
theorem presentation_of_numbers_does_not_count (sandbox : SandboxIbans) :
    (∀ raw raw' : String, Text.Respelled raw.toList raw'.toList →
      parse sandbox raw = parse sandbox raw') ∧
    ∀ (raw : String) (iban : Iban), parse sandbox raw = .ok iban →
      (∃ bs, AreBlocks bs iban.text.toList ∧ iban.formatted.toList = [' '].intercalate bs) ∧
      parse sandbox iban.formatted = .ok iban ∧ parse sandbox iban.text = .ok iban ∧
      iban.country ++ iban.checkDigits ++ iban.account = iban.text ∧ IsCut iban := by
  refine ⟨fun raw raw' h => parse_eq_of_respelled h, fun raw iban h => ?_⟩
  have hblocks : iban.formatted.toList = [' '].intercalate (blocks iban.text.toList) :=
    String.toList_ofList
  exact ⟨⟨_, areBlocks_blocks iban.text.toList, hblocks⟩, parse_formatted h, parse_text h,
    iban.joined_parts, iban.isCut⟩

/-- A number with a shorter last block, one of the sandbox, and a fault. -/
theorem presentation_of_numbers_does_not_count_in_three_cases :
    (∃ iban, parse .empty "GB82WEST12345698765432" = .ok iban ∧
      iban.formatted = "GB82 WEST 1234 5698 7654 32" ∧
      parse .empty iban.formatted = .ok iban ∧ IsCut iban) ∧
    parse (.ofList ["NL87ABNA0000000001"]) "nl87 abna\t0000000001" =
      parse (.ofList ["NL87ABNA0000000001"]) "NL87ABNA0000000001" ∧
    parse .empty "ZZ 00 1" = parse .empty "zz001" := by
  obtain ⟨hsame, hnumbers⟩ := presentation_of_numbers_does_not_count .empty
  obtain ⟨hsandbox, -⟩ := presentation_of_numbers_does_not_count (.ofList ["NL87ABNA0000000001"])
  have hbritish : parse .empty "GB82WEST12345698765432" =
      .ok ⟨"GB82WEST12345698765432", rfl⟩ := rfl
  obtain ⟨-, hformatted, -, -, hcut⟩ := hnumbers _ _ hbritish
  exact ⟨⟨_, hbritish, rfl, hformatted, hcut⟩, hsandbox _ _ (by decide), hsame _ _ (by decide)⟩

end Iban

end RentalGuard
