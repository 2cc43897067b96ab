import Mathlib.Data.List.Chain
import RentalGuard.Proofs.Bank.BankCode
import RentalGuard.Text.Bytes

/-! # What bank codes are made of

A bank code is taken apart into bank, country, location and branch, and nothing of it is lost: put
together the parts are the code again, with the branch of the head office if it names none. All else
is refused for the first that is wrong: that nothing is there, the length, the form, or the country.
-/

namespace RentalGuard

/-! ## The countries -/

instance : Trans Text.Precedes Text.Precedes Text.Precedes := ⟨Text.Precedes.trans⟩

theorem rising_bicCountries : bicCountries.IsChain Text.Precedes := by decide +kernel

/-- The table is in order, so halving finds each of its codes. -/
theorem isBicCountry_iff {code : String} : isBicCountry code = true ↔ code ∈ bicCountries := by
  have hrising : bicCountryTable.toList.Pairwise Text.Precedes :=
    List.isChain_iff_pairwise.mp rising_bicCountries
  rw [isBicCountry, Text.isListed_iff hrising, ← Vector.mem_toList_iff]
  rfl

namespace Bic

/-! ## The form -/

/-- Whether the character is one of those from `first` to `last`. -/
def IsBetween (first last c : Char) : Prop := first.toNat ≤ c.toNat ∧ c.toNat ≤ last.toNat

/-- The parts of a bank code. The location has two characters, of which the first is neither zero
nor one and the second is not the letter O. The branch may be left out. -/
structure Parts where
  bank : List Char
  country : List Char
  start : Char
  last : Char
  branch : List Char
  bank_length : bank.length = 4
  country_length : country.length = 2
  letters : ∀ c ∈ bank ++ country, IsBetween 'A' 'Z' c
  start_kind : IsBetween 'A' 'Z' start ∨ IsBetween '2' '9' start
  last_kind : IsBetween 'A' 'N' last ∨ IsBetween 'P' 'Z' last ∨ IsBetween '0' '9' last
  branch_length : branch = [] ∨ branch.length = 3
  branch_kind : ∀ c ∈ branch, IsBetween 'A' 'Z' c ∨ IsBetween '0' '9' c

namespace Parts

variable (parts : Parts)

def spelled : List Char :=
  parts.bank ++ parts.country ++ [parts.start, parts.last] ++ parts.branch

end Parts

def HasForm (cs : List Char) : Prop := ∃ parts : Parts, cs = parts.spelled

theorem isUpper_iff_isBetween {c : Char} : c.isUpper = true ↔ IsBetween 'A' 'Z' c :=
  Text.isUpper_iff_toNat

theorem isDigit_iff_isBetween {c : Char} : c.isDigit = true ↔ IsBetween '0' '9' c :=
  Text.isDigit_iff_toNat

theorem isCodeChar_iff {c : Char} :
    isCodeChar c = true ↔ IsBetween 'A' 'Z' c ∨ IsBetween '0' '9' c := by
  rw [isCodeChar, Bool.or_eq_true, isUpper_iff_isBetween, isDigit_iff_isBetween]

theorem isLocationStart_iff {c : Char} :
    isLocationStart c = true ↔ IsBetween 'A' 'Z' c ∨ IsBetween '2' '9' c := by
  simp only [isLocationStart, Bool.and_eq_true, bne_iff_ne, isCodeChar_iff, IsBetween,
    ← Char.toNat_inj.not, Char.reduceToNat]
  omega

theorem isLocationEnd_iff {c : Char} : isLocationEnd c = true ↔
    IsBetween 'A' 'N' c ∨ IsBetween 'P' 'Z' c ∨ IsBetween '0' '9' c := by
  simp only [isLocationEnd, Bool.and_eq_true, bne_iff_ne, isCodeChar_iff, IsBetween,
    ← Char.toNat_inj.not, Char.reduceToNat]
  omega

/-! ## Taking a code apart -/

namespace Parts

variable (parts : Parts)

theorem front_length : (parts.bank ++ parts.country).length = 6 := by
  rw [List.length_append, parts.bank_length, parts.country_length]

theorem drop_six : parts.spelled.drop 6 = parts.start :: parts.last :: parts.branch := by
  rw [spelled, List.append_assoc, List.drop_left' parts.front_length]
  rfl

theorem drop_seven : parts.spelled.drop 7 = parts.last :: parts.branch := by
  rw [← List.drop_drop (i := 1) (j := 6), drop_six, List.drop_one, List.tail_cons]

theorem drop_eight : parts.spelled.drop 8 = parts.branch := by
  rw [← List.drop_drop (i := 1) (j := 7), drop_seven, List.drop_one, List.tail_cons]

theorem length_spelled : parts.spelled.length = 8 + parts.branch.length := by
  rw [spelled, List.length_append, List.length_append, parts.front_length]
  rfl

theorem isWellFormed : isWellFormed parts.spelled = true := by
  have hfront : parts.spelled.take 6 = parts.bank ++ parts.country := by
    rw [spelled, List.append_assoc, List.take_left' parts.front_length]
  simp only [Bic.isWellFormed, hfront, drop_six, drop_seven, drop_eight, length_spelled,
    Bool.and_eq_true, Bool.or_eq_true, beq_iff_eq, List.all_eq_true, List.take_succ_cons,
    List.take_zero, List.mem_singleton, forall_eq]
  refine ⟨⟨⟨⟨?_, ?_⟩, ?_⟩, ?_⟩, ?_⟩
  · exact parts.branch_length.imp (fun h => by rw [h]; rfl) fun h => by rw [h]
  · exact fun c hc => isUpper_iff_isBetween.mpr (parts.letters c hc)
  · exact isLocationStart_iff.mpr parts.start_kind
  · exact isLocationEnd_iff.mpr parts.last_kind
  · exact fun c hc => isCodeChar_iff.mpr (parts.branch_kind c hc)

end Parts

theorem exists_drop_six (cs : List Char) (h : 8 ≤ cs.length) :
    ∃ start last, cs.drop 6 = start :: last :: cs.drop 8 := by
  have hlength : cs.length - 6 = (cs.drop 6).length := List.length_drop.symm
  rw [← List.drop_drop (i := 2) (j := 6)]
  match cs.drop 6, hlength with
  | [], hlength => simp only [List.length_nil] at hlength; omega
  | [_], hlength => simp only [List.length_cons, List.length_nil] at hlength; omega
  | start :: last :: branch, _ => exact ⟨start, last, rfl⟩

theorem isWellFormed_iff {cs : List Char} : isWellFormed cs = true ↔ HasForm cs := by
  constructor
  · intro h
    simp only [isWellFormed, Bool.and_eq_true, Bool.or_eq_true, beq_iff_eq, List.all_eq_true] at h
    obtain ⟨⟨⟨⟨hlength, hletters⟩, hstart⟩, hlast⟩, hbranch⟩ := h
    obtain ⟨start, last, hrest⟩ := exists_drop_six cs (by omega)
    have hseven : cs.drop 7 = last :: cs.drop 8 := by
      rw [← List.drop_drop (i := 1) (j := 6), hrest, List.drop_one, List.tail_cons]
    have hsix : cs.take 4 ++ (cs.drop 4).take 2 = cs.take 6 := List.take_add.symm
    rw [hrest, List.take_succ_cons, List.take_zero] at hstart
    rw [hseven, List.take_succ_cons, List.take_zero] at hlast
    refine ⟨⟨cs.take 4, (cs.drop 4).take 2, start, last, cs.drop 8, ?_, ?_, ?_, ?_, ?_, ?_, ?_⟩, ?_⟩
    · rw [List.length_take]
      omega
    · rw [List.length_take, List.length_drop]
      omega
    · exact fun c hc => isUpper_iff_isBetween.mp (hletters c (hsix ▸ hc))
    · exact isLocationStart_iff.mp (hstart start (List.mem_singleton_self start))
    · exact isLocationEnd_iff.mp (hlast last (List.mem_singleton_self last))
    · rw [← List.length_eq_zero_iff, List.length_drop]
      omega
    · exact fun c hc => isCodeChar_iff.mp (hbranch c hc)
    · show cs = cs.take 4 ++ (cs.drop 4).take 2 ++ [start, last] ++ cs.drop 8
      rw [hsix, List.append_assoc, List.cons_append, List.cons_append, List.nil_append, ← hrest,
        List.take_append_drop]
  · rintro ⟨parts, rfl⟩
    exact parts.isWellFormed

/-! ## The parts of a code that is taken -/

/-- The parts of a code in one text. -/
def full (bic : Bic) : String := bic.bank ++ bic.country ++ bic.location ++ bic.branch

/-- Whether the parts of a code are what its bytes have at their places. -/
structure IsCut (bic : Bic) : Prop where
  bank : Text.between? bic.text 0 4 = some bic.bank
  country : Text.between? bic.text 4 6 = some bic.country
  location : Text.between? bic.text 6 8 = some bic.location
  branch : if bic.text.utf8ByteSize = 8 then bic.branch = headOffice
    else Text.after? bic.text 8 = some bic.branch

theorem headOffice_kind : ∀ c ∈ headOffice.toList, IsBetween 'A' 'Z' c := fun c hc =>
  isUpper_iff_isBetween.mp (List.all_eq_true.mp (by decide) c hc)

/-- The parts with the branch of the head office if there is none. -/
def Parts.completed (parts : Parts) : Parts :=
  if parts.branch = [] then
    { parts with
      branch := headOffice.toList
      branch_length := .inr rfl
      branch_kind := fun c hc => .inl (headOffice_kind c hc) }
  else parts

variable {raw text : String} {bic : Bic} {parts : Parts}

theorem isAscii_of_isWellFormed {cs : List Char} (h : isWellFormed cs = true) :
    ∀ c ∈ cs, c.toNat < 128 := fun c hc =>
  Text.isAscii_of_isUpper_or_isDigit (chars_of_isWellFormed h c hc)

/-- A text in the form of a code can be cut around the country. -/
theorem between?_country (h : text.toList = parts.spelled) :
    Text.between? text 4 6 = some (String.ofList parts.country) := by
  refine Text.between?_of_toList parts.bank parts.country
    ([parts.start, parts.last] ++ parts.branch) ?_ ?_ parts.bank_length parts.front_length
  · rw [h, Parts.spelled, List.append_assoc (parts.bank ++ parts.country)]
  · rw [h]
    exact isAscii_of_isWellFormed parts.isWellFormed

theorem countryOf_eq (h : text.toList = parts.spelled) :
    countryOf text = String.ofList parts.country := by
  rw [countryOf, h, Parts.spelled, List.append_assoc, List.append_assoc,
    List.drop_left' parts.bank_length, List.take_left' parts.country_length]

section Of

variable (h : bic.text.toList = parts.spelled)

include h

theorem bank_eq : bic.bank = String.ofList parts.bank := by
  rw [bank, h, Parts.spelled, List.append_assoc, List.append_assoc,
    List.take_left' parts.bank_length]

theorem country_eq : bic.country = String.ofList parts.country := countryOf_eq h

theorem location_eq : bic.location = String.ofList [parts.start, parts.last] := by
  rw [location, h, Parts.drop_six]
  rfl

theorem branch_eq : bic.branch =
    if parts.branch = [] then headOffice else String.ofList parts.branch := by
  rw [branch, h, Parts.drop_eight, Parts.length_spelled]
  simp

theorem isCut : IsCut bic := by
  have hascii : ∀ c ∈ bic.text.toList, c.toNat < 128 := isAscii_of_isWellFormed bic.wellFormed
  have hsize : bic.text.utf8ByteSize = 8 + parts.branch.length := by
    rw [← parts.length_spelled, ← h, ← Text.utf8ByteSize_ofList hascii, String.ofList_toList]
  refine ⟨?_, ?_, ?_, ?_⟩
  · rw [bank_eq h]
    refine Text.between?_of_toList [] parts.bank
      (parts.country ++ ([parts.start, parts.last] ++ parts.branch)) ?_ hascii rfl parts.bank_length
    rw [h, Parts.spelled, List.append_assoc, List.append_assoc, List.nil_append]
  · rw [country_eq h]
    exact between?_country h
  · rw [location_eq h]
    refine Text.between?_of_toList (parts.bank ++ parts.country) [parts.start, parts.last]
      parts.branch h hascii parts.front_length ?_
    rw [List.length_append, parts.front_length]
    rfl
  · rw [hsize, branch_eq h]
    by_cases hbranch : parts.branch = []
    · simp [hbranch]
    · rw [if_neg (by simp [hbranch]), if_neg hbranch]
      refine Text.after?_of_toList h hascii ?_
      rw [List.length_append, parts.front_length]
      rfl

theorem toList_full : bic.full.toList = parts.completed.spelled := by
  rw [full, bank_eq h, country_eq h, location_eq h, branch_eq h, Parts.completed]
  split
  · simp [Parts.spelled]
  · simp [Parts.spelled]

theorem full_eq : bic.full =
    if bic.text.toList.length = 8 then bic.text ++ headOffice else bic.text := by
  have hlength : bic.text.toList.length = 8 ↔ parts.branch = [] := by
    rw [h, parts.length_spelled]
    simp
  rw [← String.toList_inj, toList_full h, Parts.completed]
  by_cases hbranch : parts.branch = []
  · rw [if_pos hbranch, if_pos (hlength.mpr hbranch), String.toList_append, h, Parts.spelled,
      Parts.spelled, hbranch, List.append_nil]
  · rw [if_neg hbranch, if_neg (mt hlength.mp hbranch), h]

/-- A code with the same parts, the branch completed, has the same parts. -/
theorem same_parts {other : Bic} (hother : other.text.toList = parts.completed.spelled) :
    other.bank = bic.bank ∧ other.country = bic.country ∧ other.location = bic.location ∧
      other.branch = bic.branch := by
  rw [bank_eq h, country_eq h, location_eq h, branch_eq h, bank_eq hother, country_eq hother,
    location_eq hother, branch_eq hother, Parts.completed]
  split
  · exact ⟨rfl, rfl, rfl, rfl⟩
  · exact ⟨rfl, rfl, rfl, rfl⟩

end Of

/-! ## The answers, in the order in which they are found -/

/-- What is refused, and how the cause of it is classed. -/
def IsRefused (raw : String) (fault : PaymentFault) (kind : FaultKind) : Prop :=
  parse raw = .error fault ∧ fault.kind = kind

theorem parse_of_empty (h : (compactForm raw).toList = []) :
    parse raw = .error (.missing .bic) := by
  simp only [parse, h, List.isEmpty_nil, if_true]

theorem parse_of_length (hne : (compactForm raw).toList ≠ [])
    (height : (compactForm raw).toList.length ≠ 8)
    (heleven : (compactForm raw).toList.length ≠ 11) : parse raw = .error .bicLength := by
  simp [parse, hne, height, heleven]

theorem ne_nil_of_length {cs : List Char} (h : cs.length = 8 ∨ cs.length = 11) : cs ≠ [] := by
  rintro rfl
  simp at h

theorem parse_of_not_hasForm
    (hlength : (compactForm raw).toList.length = 8 ∨ (compactForm raw).toList.length = 11)
    (h : ¬HasForm (compactForm raw).toList) : parse raw = .error .bicFormat := by
  have hne := ne_nil_of_length hlength
  rw [← isWellFormed_iff] at h
  rcases hlength with hlength | hlength <;> simp [parse, hne, hlength, h]

theorem HasForm.length {cs : List Char} (h : HasForm cs) : cs.length = 8 ∨ cs.length = 11 := by
  obtain ⟨parts, rfl⟩ := h
  rw [parts.length_spelled]
  exact parts.branch_length.imp (fun hbranch => by rw [hbranch]; rfl) fun hbranch => by rw [hbranch]

theorem parse_of_unknown (h : HasForm (compactForm raw).toList)
    (hcountry : countryOf (compactForm raw) ∉ bicCountries) :
    parse raw = .error (.bicCountry (countryOf (compactForm raw))) := by
  have hne := ne_nil_of_length h.length
  rw [← isBicCountry_iff] at hcountry
  rcases h.length with hlength | hlength <;>
    simp [parse, hne, hlength, isWellFormed_iff.mpr h, hcountry]

/-- A text that is a bank code as it stands is read as it is. -/
theorem exists_parse (h : text.toList = parts.spelled)
    (hcountry : String.ofList parts.country ∈ bicCountries) :
    ∃ bic, parse text = .ok bic ∧ bic.text = text := by
  have hshape : isWellFormed text.toList = true := h ▸ parts.isWellFormed
  have hcompact : compactForm text = text := compactForm_eq_self (chars_of_isWellFormed hshape)
  refine ⟨⟨text, hshape⟩, parse_eq_ok_iff.mpr ⟨hcompact.symm, ?_, ?_⟩, rfl⟩
  · rwa [hcompact]
  · rwa [hcompact, countryOf_eq h, isBicCountry_iff]

/-- A text is taken just if its compact form has the form of a bank code and names a country of the
table, in which halving finds just what is there. All else is refused for the first that is wrong:
that nothing is there, the length, the form, the country. The parts of a code that is taken are cut
out of its bytes where characters start. Put together they are the code again, with the branch of
the head office if it names none, and that is taken as well, as a code with the same parts. -/
theorem bank_codes_are_taken_by_their_form (raw : String) :
    let answer : Except PaymentFault Bic := parse raw
    let kept := compactForm raw
    (∀ bic, answer = .ok bic ↔
      bic.text = kept ∧ HasForm kept.toList ∧ countryOf kept ∈ bicCountries) ∧
    (∀ code, isBicCountry code = true ↔ code ∈ bicCountries) ∧
    (kept.toList = [] → IsRefused raw (.missing .bic) .required) ∧
    (kept.toList ≠ [] → kept.toList.length ≠ 8 → kept.toList.length ≠ 11 →
      IsRefused raw .bicLength .invalidLength) ∧
    (kept.toList.length = 8 ∨ kept.toList.length = 11 → ¬HasForm kept.toList →
      IsRefused raw .bicFormat .invalidFormat) ∧
    (HasForm kept.toList → Text.between? kept 4 6 = some (countryOf kept) ∧
      (countryOf kept ∉ bicCountries →
        IsRefused raw (.bicCountry (countryOf kept)) .unsupportedCountry)) ∧
    ∀ bic, answer = .ok bic →
      IsCut bic ∧
      bic.bank ++ bic.country ++ bic.location ++ bic.branch =
        (if bic.text.toList.length = 8 then bic.text ++ "XXX" else bic.text) ∧
      ∃ other, parse (bic.bank ++ bic.country ++ bic.location ++ bic.branch) = .ok other ∧
        other.text = bic.bank ++ bic.country ++ bic.location ++ bic.branch ∧
        other.bank = bic.bank ∧ other.country = bic.country ∧ other.location = bic.location ∧
        other.branch = bic.branch := by
  intro answer kept
  refine ⟨fun bic => ?taken, fun code => isBicCountry_iff, fun h => ⟨parse_of_empty h, rfl⟩,
    fun hne height heleven => ⟨parse_of_length hne height heleven, rfl⟩,
    fun hlength h => ⟨parse_of_not_hasForm hlength h, rfl⟩, fun h => ⟨?cut, fun hcountry =>
      ⟨parse_of_unknown h hcountry, rfl⟩⟩, ?parts⟩
  case taken =>
    rw [← isWellFormed_iff, ← isBicCountry_iff]
    exact parse_eq_ok_iff
  case cut =>
    obtain ⟨parts, hparts⟩ := h
    rw [countryOf_eq hparts]
    exact between?_country hparts
  case parts =>
    intro bic hparse
    obtain ⟨htext, hshape, hcountry⟩ := parse_eq_ok_iff.mp hparse
    obtain ⟨parts, hparts⟩ := isWellFormed_iff.mp bic.wellFormed
    have hknown : String.ofList parts.completed.country ∈ bicCountries := by
      rw [← htext, countryOf_eq hparts, isBicCountry_iff] at hcountry
      rw [Parts.completed]
      split <;> exact hcountry
    obtain ⟨other, hother, hsame⟩ := exists_parse (toList_full hparts) hknown
    exact ⟨isCut hparts, full_eq hparts, other, hother, hsame,
      same_parts hparts (hsame ▸ toList_full hparts)⟩

/-- A code without a branch, and one text for each fault. -/
theorem bank_codes_are_taken_by_their_form_or_refused_for_a_fault :
    (∃ bic, parse "deut de ff" = .ok bic ∧ IsCut bic ∧ ∃ other,
      parse (bic.bank ++ bic.country ++ bic.location ++ bic.branch) = .ok other ∧
        other.text = "DEUTDEFFXXX" ∧ other.branch = bic.branch) ∧
    IsRefused " " (.missing .bic) .required ∧ IsRefused "ABNANL2" .bicLength .invalidLength ∧
    IsRefused "ABNANL2A-01" .bicFormat .invalidFormat ∧
    IsRefused "abnazz2a" (.bicCountry "ZZ") .unsupportedCountry := by
  obtain ⟨htaken, -, -, -, -, -, hparts⟩ := bank_codes_are_taken_by_their_form "deut de ff"
  obtain ⟨-, -, hempty, -⟩ := bank_codes_are_taken_by_their_form " "
  obtain ⟨-, -, -, hlength, -⟩ := bank_codes_are_taken_by_their_form "ABNANL2"
  obtain ⟨-, -, -, -, hform, -⟩ := bank_codes_are_taken_by_their_form "ABNANL2A-01"
  obtain ⟨-, -, -, -, -, hcountry, -⟩ := bank_codes_are_taken_by_their_form "abnazz2a"
  have hgerman : HasForm "DEUTDEFF".toList := isWellFormed_iff.mp (by decide)
  have hunknown : HasForm "ABNAZZ2A".toList := isWellFormed_iff.mp (by decide)
  have hhyphen : ¬HasForm "ABNANL2A-01".toList := fun h =>
    absurd (isWellFormed_iff.mpr h) (by decide)
  have hok := (htaken ⟨"DEUTDEFF", by decide⟩).mpr ⟨rfl, hgerman, by decide +kernel⟩
  obtain ⟨hcut, hfull, other, hother, hsame, -, -, -, hbranch⟩ := hparts _ hok
  refine ⟨⟨_, hok, hcut, other, hother, ?_, hbranch⟩, hempty rfl,
    hlength (by decide) (by decide) (by decide), hform (.inr rfl) hhyphen,
    (hcountry hunknown).2 (by decide +kernel)⟩
  rw [hsame, hfull]
  rfl

end Bic

end RentalGuard
