import RentalGuard.Proofs.Payment.Mobile

/-! # Which phone numbers are taken

A phone number is a plus sign or none and seven to fifteen digits, with blanks and punctuation
anywhere. How it may be typed depends on the number: if it begins with a plus sign and a digit other
than zero, in any way; if not, without slashes and in twenty characters at most, with the plus sign
in front. What is kept is the number without blanks and punctuation, and is read again as it is.
-/

namespace RentalGuard.PhoneNumber

variable {cs digits typed : List Char} {raw : String} {phone : PhoneNumber}

/-! ## The grammar -/

/-- A plus sign or none, and one or more digits. -/
structure IsDialled (cs digits : List Char) : Prop where
  spelled : cs = digits ∨ cs = '+' :: digits
  nonempty : digits ≠ []
  isDigit : ∀ c ∈ digits, c.isDigit = true

/-- The number of digits that a phone number may have. -/
def HasLength (digits : List Char) : Prop := 7 ≤ digits.length ∧ digits.length ≤ 15

instance (digits : List Char) : Decidable (HasLength digits) :=
  inferInstanceAs (Decidable (7 ≤ digits.length ∧ digits.length ≤ 15))

/-- A plus sign and then a digit other than zero, with which the codes of countries begin. -/
def HasCountryCode (cs : List Char) : Prop := ∃ first rest, cs = '+' :: first :: rest ∧ first ≠ '0'

/-- How a number may be typed that need not have the code of a country. -/
structure IsTypedLoosely (typed : List Char) : Prop where
  slash : '/' ∉ typed
  plus : '+' ∉ typed.tail
  length : typed.countP (· != '+') ≤ 20

/-! ## Numbers without punctuation -/

theorem plus_notMem_of_isDigit (h : ∀ c ∈ cs, c.isDigit = true) : '+' ∉ cs := fun hplus =>
  absurd (h '+' hplus) (by decide)

theorem withoutPlus_of_notMem (h : '+' ∉ cs) : withoutPlus cs = cs := by
  unfold withoutPlus
  split
  · exact absurd List.mem_cons_self h
  · rfl

/-- The plus sign is left out, or there is nothing to leave out. -/
theorem withoutPlus_cases (cs : List Char) : cs = '+' :: withoutPlus cs ∨ cs = withoutPlus cs := by
  unfold withoutPlus
  split
  · exact .inl rfl
  · exact .inr rfl

theorem eq_plus_or_mem_withoutPlus {c : Char} (h : c ∈ cs) : c = '+' ∨ c ∈ withoutPlus cs := by
  rcases withoutPlus_cases cs with hplus | hsame
  · exact List.mem_cons.mp (hplus ▸ h)
  · exact .inr (hsame ▸ h)

theorem withoutPlus_suffix (cs : List Char) : withoutPlus cs <:+ cs := by
  unfold withoutPlus
  split
  · exact List.suffix_cons _ _
  · exact List.suffix_rfl

theorem tail_suffix_withoutPlus (cs : List Char) : cs.tail <:+ withoutPlus cs := by
  unfold withoutPlus
  split
  · exact List.suffix_rfl
  · exact List.tail_suffix cs

/-- A count that leaves out plus signs does not see whether there is one in front. -/
theorem countP_withoutPlus {p : Char → Bool} (hplus : ¬p '+' = true) (cs : List Char) :
    (withoutPlus cs).countP p = cs.countP p := by
  unfold withoutPlus
  split
  · exact (List.countP_cons_of_neg hplus).symm
  · rfl

theorem IsDialled.withoutPlus_eq (h : IsDialled cs digits) : withoutPlus cs = digits := by
  rcases h.spelled with rfl | rfl
  · exact withoutPlus_of_notMem (plus_notMem_of_isDigit h.isDigit)
  · rfl

theorem isDialled_withoutPlus (hne : withoutPlus cs ≠ [])
    (hdigits : ∀ c ∈ withoutPlus cs, c.isDigit = true) : IsDialled cs (withoutPlus cs) where
  spelled := (withoutPlus_cases cs).symm
  nonempty := hne
  isDigit := hdigits

theorem IsDialled.chars (h : IsDialled cs digits) : ∀ c ∈ cs, c = '+' ∨ c.isDigit = true := by
  intro c hc
  rcases h.spelled with rfl | rfl
  · exact .inr (h.isDigit c hc)
  · exact (List.mem_cons.mp hc).imp_right (h.isDigit c)

/-- A number of this length is in the international form just if it has the code of a country. -/
theorem IsDialled.isInternational_iff (h : IsDialled cs digits) (hlength : HasLength digits) :
    isInternational cs = true ↔ HasCountryCode cs := by
  constructor
  · intro hform
    unfold isInternational at hform
    split at hform
    · rename_i first rest
      simp only [Bool.and_eq_true, bne_iff_ne] at hform
      exact ⟨first, rest, rfl, hform.1.1.1.2⟩
    · cases hform
  · rintro ⟨first, rest, rfl, hfirst⟩
    have hdigits : first :: rest = digits := h.withoutPlus_eq
    obtain ⟨hleast, hgreatest⟩ := hlength
    rw [← hdigits, List.length_cons] at hleast hgreatest
    obtain ⟨hfirstDigit, hrestDigits⟩ := List.forall_mem_cons.mp (hdigits ▸ h.isDigit)
    simp only [isInternational, Bool.and_eq_true, bne_iff_ne, decide_eq_true_iff]
    exact ⟨⟨⟨⟨hfirstDigit, hfirst⟩, List.all_eq_true.mpr hrestDigits⟩, by omega⟩, by omega⟩

/-! ## Numbers as they are typed -/

/-- Of all punctuation only the slash is missing in the looser form. -/
theorem isLooseChar_iff {c : Char} :
    isLooseChar c = true ↔ c.isDigit = true ∨ isPunctuation c = true ∧ c ≠ '/' := by
  by_cases hslash : c = '/'
  · subst hslash
    decide
  · simp [isLooseChar, isPunctuation, hslash, or_comm, or_left_comm]

theorem plus_notMem_withoutPlus (h : '+' ∉ typed.tail) : '+' ∉ withoutPlus typed := by
  unfold withoutPlus
  split
  · exact h
  · rename_i hother
    cases typed with
    | nil => exact List.not_mem_nil
    | cons c rest =>
      rw [List.mem_cons, not_or]
      exact ⟨fun hc => hother rest (hc ▸ rfl), h⟩

/-- A text of digits, punctuation and plus signs that is long enough has the looser form just if it
has no slashes, no plus sign but in front, and is short enough. -/
theorem isLoose_iff (hchars : ∀ c ∈ typed, c = '+' ∨ c.isDigit = true ∨ isPunctuation c = true)
    (hleast : 7 ≤ (withoutPlus typed).length) : isLoose typed = true ↔ IsTypedLoosely typed := by
  have hloose : isLoose typed = true ↔
      (withoutPlus typed).length ≤ 20 ∧ ∀ c ∈ withoutPlus typed, isLooseChar c = true := by
    simp [isLoose, hleast]
  have hcount (hplus : '+' ∉ withoutPlus typed) :
      typed.countP (· != '+') = (withoutPlus typed).length := by
    rw [← countP_withoutPlus (by decide), List.countP_eq_length]
    exact fun c hc => bne_iff_ne.mpr fun heq => hplus (heq ▸ hc)
  rw [hloose]
  constructor
  · rintro ⟨hgreatest, hall⟩
    have hother : ∀ c, isLooseChar c = false → c ∉ withoutPlus typed := fun c hc hmem =>
      Bool.false_ne_true (hc ▸ hall c hmem)
    have hplus := hother '+' (by decide)
    refine ⟨fun hmem => ?_, fun hmem => ?_, hcount hplus ▸ hgreatest⟩
    · exact hother '/' (by decide) ((eq_plus_or_mem_withoutPlus hmem).resolve_left (by decide))
    · exact hplus ((tail_suffix_withoutPlus typed).subset hmem)
  · rintro ⟨hslash, htail, hgreatest⟩
    have hplus := plus_notMem_withoutPlus htail
    refine ⟨hcount hplus ▸ hgreatest, fun c hc => isLooseChar_iff.mpr ?_⟩
    have hmem := (withoutPlus_suffix typed).subset hc
    rcases hchars c hmem with rfl | hdigit | hpunctuation
    · exact absurd hc hplus
    · exact .inl hdigit
    · exact .inr ⟨hpunctuation, fun heq => hslash (heq ▸ hmem)⟩

/-! ## Cleaning -/

theorem toList_cleaned (raw : String) :
    (cleaned raw).toList = raw.toList.filter fun c => !isPunctuation c :=
  String.toList_ofList

theorem isDigit_or_isPunctuation
    (h : IsDialled (typed.filter fun c => !isPunctuation c) digits) :
    ∀ c ∈ typed, c = '+' ∨ c.isDigit = true ∨ isPunctuation c = true := by
  intro c hc
  by_cases hpunctuation : isPunctuation c = true
  · exact .inr (.inr hpunctuation)
  · have hkept : c ∈ typed.filter fun c => !isPunctuation c :=
      List.mem_filter.mpr ⟨hc, by simpa using hpunctuation⟩
    exact (h.chars c hkept).imp_right .inl

/-- No fewer characters stand behind the plus sign of a text than digits are left of it. -/
theorem length_le_of_isDialled
    (h : IsDialled (typed.filter fun c => !isPunctuation c) digits) :
    digits.length ≤ (withoutPlus typed).length := by
  have hsuffix : digits <:+ typed.filter fun c => !isPunctuation c :=
    h.withoutPlus_eq ▸ withoutPlus_suffix _
  calc digits.length = digits.countP Char.isDigit := (List.countP_eq_length.mpr h.isDigit).symm
    _ ≤ typed.countP Char.isDigit :=
        (hsuffix.sublist.trans List.filter_sublist).countP_le
    _ = (withoutPlus typed).countP Char.isDigit := (countP_withoutPlus (by decide) typed).symm
    _ ≤ (withoutPlus typed).length := List.countP_le_length

/-! ## The answers, in the order in which they are found -/

/-- What is refused, and how the cause of it is classed. -/
def IsRefused (raw : String) (fault : PaymentFault) (kind : FaultKind) : Prop :=
  parse raw = .error fault ∧ fault.kind = kind

theorem parse_of_blank (h : (Text.trimmed raw).toList = []) :
    parse raw = .error (.missing .phone) := by
  simp only [parse, h, List.isEmpty_nil, if_true]

theorem parse_of_not_dialled (hne : (Text.trimmed raw).toList ≠ [])
    (h : ¬∃ digits, IsDialled (cleaned (Text.trimmed raw)).toList digits) :
    parse raw = .error .phoneCharacters := by
  by_cases hempty : withoutPlus (cleaned (Text.trimmed raw)).toList = []
  · simp only [parse, List.isEmpty_iff, hne, hempty, if_false, Bool.true_or, List.isEmpty_nil,
      if_true]
  · have hbad : (withoutPlus (cleaned (Text.trimmed raw)).toList).all Char.isDigit = false := by
      rw [← Bool.not_eq_true, List.all_eq_true]
      exact fun hall => h ⟨_, isDialled_withoutPlus hempty hall⟩
    simp only [parse, List.isEmpty_iff, hne, hbad, if_false, Bool.not_false, Bool.or_true, if_true]

theorem outside_phoneDigitRange_iff :
    (digits.length < phoneDigitRange.1 || phoneDigitRange.2 < digits.length) ↔
      ¬HasLength digits := by
  rw [Bool.or_eq_true, decide_eq_true_iff, decide_eq_true_iff]
  show digits.length < 7 ∨ 15 < digits.length ↔ ¬(7 ≤ digits.length ∧ digits.length ≤ 15)
  omega

section Dialled

variable (h : IsDialled (cleaned (Text.trimmed raw)).toList digits)

include h

/-- Where digits are left, only their number and the form can be wrong. -/
theorem parse_of_isDialled : parse raw =
    if digits.length < phoneDigitRange.1 || phoneDigitRange.2 < digits.length then
      .error .phoneLength
    else if !isInternational (cleaned (Text.trimmed raw)).toList &&
        !isLoose (Text.trimmed raw).toList then .error .phoneFormat
    else .ok ⟨cleaned (Text.trimmed raw), none⟩ := by
  have hne : ¬(Text.trimmed raw).toList.isEmpty = true := by
    intro hempty
    rw [toList_cleaned, List.isEmpty_iff.mp hempty] at h
    exact h.nonempty (h.withoutPlus_eq ▸ rfl)
  have hgood : ¬(digits.isEmpty || !digits.all Char.isDigit) = true := by
    rw [Bool.not_eq_true, Bool.or_eq_false_iff, List.isEmpty_eq_false_iff, Bool.not_eq_false',
      List.all_eq_true]
    exact ⟨h.nonempty, h.isDigit⟩
  unfold parse
  simp only [h.withoutPlus_eq]
  rw [if_neg hne, if_neg hgood]

theorem parse_of_not_hasLength (hlength : ¬HasLength digits) :
    parse raw = .error .phoneLength := by
  rw [parse_of_isDialled h, if_pos (outside_phoneDigitRange_iff.mpr hlength)]

section Length

variable (hlength : HasLength digits)

include hlength

/-- Where the number of digits is right, only the form can be wrong. -/
theorem parse_of_hasLength : parse raw =
    if !isInternational (cleaned (Text.trimmed raw)).toList &&
      !isLoose (Text.trimmed raw).toList then .error .phoneFormat
    else .ok ⟨cleaned (Text.trimmed raw), none⟩ := by
  rw [parse_of_isDialled h, if_neg fun hout => outside_phoneDigitRange_iff.mp hout hlength]

theorem neither_form_iff :
    (!isInternational (cleaned (Text.trimmed raw)).toList && !isLoose (Text.trimmed raw).toList) ↔
      ¬(HasCountryCode (cleaned (Text.trimmed raw)).toList ∨
        IsTypedLoosely (Text.trimmed raw).toList) := by
  have hloose : isLoose (Text.trimmed raw).toList = true ↔
      IsTypedLoosely (Text.trimmed raw).toList := by
    rw [toList_cleaned] at h
    exact isLoose_iff (isDigit_or_isPunctuation h)
      (Nat.le_trans hlength.1 (length_le_of_isDialled h))
  rw [Bool.and_eq_true, Bool.not_eq_true', Bool.not_eq_true', ← Bool.not_eq_true,
    ← Bool.not_eq_true, h.isInternational_iff hlength, hloose, not_or]

theorem parse_of_form (hform : HasCountryCode (cleaned (Text.trimmed raw)).toList ∨
    IsTypedLoosely (Text.trimmed raw).toList) :
    parse raw = .ok ⟨cleaned (Text.trimmed raw), none⟩ := by
  rw [parse_of_hasLength h hlength, if_neg]
  exact fun hneither => (neither_form_iff h hlength).mp hneither hform

theorem parse_of_no_form (hcode : ¬HasCountryCode (cleaned (Text.trimmed raw)).toList)
    (hloose : ¬IsTypedLoosely (Text.trimmed raw).toList) : parse raw = .error .phoneFormat := by
  rw [parse_of_hasLength h hlength, if_pos]
  exact (neither_form_iff h hlength).mpr (not_or.mpr ⟨hcode, hloose⟩)

end Length

end Dialled

/-- Every text is refused at one of these places, or taken. -/
theorem parse_eq_ok_iff : parse raw = .ok phone ↔
    phone = ⟨cleaned (Text.trimmed raw), none⟩ ∧
      ∃ digits, IsDialled (cleaned (Text.trimmed raw)).toList digits ∧ HasLength digits ∧
        (HasCountryCode (cleaned (Text.trimmed raw)).toList ∨
          IsTypedLoosely (Text.trimmed raw).toList) := by
  constructor
  · intro hparse
    by_cases hempty : (Text.trimmed raw).toList = []
    · rw [parse_of_blank hempty] at hparse
      cases hparse
    by_cases hdialled : ∃ digits, IsDialled (cleaned (Text.trimmed raw)).toList digits
    · obtain ⟨digits, h⟩ := hdialled
      by_cases hlength : HasLength digits
      · by_cases hform : HasCountryCode (cleaned (Text.trimmed raw)).toList ∨
            IsTypedLoosely (Text.trimmed raw).toList
        · rw [parse_of_form h hlength hform] at hparse
          exact ⟨(Except.ok.inj hparse).symm, digits, h, hlength, hform⟩
        · rw [not_or] at hform
          rw [parse_of_no_form h hlength hform.1 hform.2] at hparse
          cases hparse
      · rw [parse_of_not_hasLength h hlength] at hparse
        cases hparse
    · rw [parse_of_not_dialled hempty hdialled] at hparse
      cases hparse
  · rintro ⟨rfl, digits, h, hlength, hform⟩
    exact parse_of_form h hlength hform

/-! ## Reading a number again -/

section Again

variable {text : String} (h : IsDialled text.toList digits)

include h

theorem trimmed_of_isDialled : Text.trimmed text = text := by
  have hblank : ∀ c ∈ text.toList, Text.isBlank c = false := by
    intro c hc
    have hpunctuation := isPunctuation_eq_false (h.chars c hc)
    simp only [isPunctuation, Bool.or_eq_false_iff] at hpunctuation
    exact hpunctuation.1.1.1.1.1
  rw [Text.trimmed, Text.trim_eq_self hblank, String.ofList_toList]

theorem isTypedLoosely_of_isDialled (hlength : HasLength digits) : IsTypedLoosely text.toList := by
  have hplus := plus_notMem_of_isDigit h.isDigit
  refine ⟨fun hslash => ?_, fun hmem => ?_, ?_⟩
  · exact absurd (h.chars '/' hslash) (by decide)
  · exact hplus (h.withoutPlus_eq ▸ (tail_suffix_withoutPlus _).subset hmem)
  · rw [← countP_withoutPlus (by decide), h.withoutPlus_eq]
    exact Nat.le_trans List.countP_le_length (Nat.le_trans hlength.2 (by decide))

theorem digitCount_of_isDialled {country : Option MobileCountry} :
    digitCount ⟨text, country⟩ = digits.length := by
  rw [digitCount, ← countP_withoutPlus (by decide), h.withoutPlus_eq]
  exact List.countP_eq_length.mpr h.isDigit

/-- A number without punctuation is in the looser form, whatever it begins with. -/
theorem parse_of_isDialled_text (hlength : HasLength digits) : parse text = .ok ⟨text, none⟩ := by
  have hsame : cleaned (Text.trimmed text) = text := by
    rw [trimmed_of_isDialled h, cleaned_eq_self h.chars]
  refine parse_eq_ok_iff.mpr ⟨by rw [hsame], digits, hsame.symm ▸ h, hlength, .inr ?_⟩
  rw [trimmed_of_isDialled h]
  exact isTypedLoosely_of_isDialled h hlength

end Again

/-- A number is taken just if seven to fifteen digits and at most a plus sign are left of it, and
it has the code of a country or is typed in the looser way. What is kept is what is left, and is
read again as it is. All else is refused for the first that is wrong: that nothing is there, what is
left, how many digits, or how they are typed. -/
theorem phone_numbers_are_taken_by_their_grammar (raw : String) :
    let answer : Except PaymentFault PhoneNumber := parse raw
    let typed := Text.trimmed raw
    let kept := cleaned typed
    (∀ phone, answer = .ok phone ↔ phone = ⟨kept, none⟩ ∧
      ∃ digits, IsDialled kept.toList digits ∧ HasLength digits ∧
        (HasCountryCode kept.toList ∨ IsTypedLoosely typed.toList)) ∧
    (∀ phone, answer = .ok phone →
      7 ≤ phone.digitCount ∧ phone.digitCount ≤ 15 ∧ parse phone.number = .ok phone) ∧
    (typed.toList = [] → IsRefused raw (.missing .phone) .required) ∧
    (typed.toList ≠ [] → (¬∃ digits, IsDialled kept.toList digits) →
      IsRefused raw .phoneCharacters .invalidFormat) ∧
    (∀ digits, IsDialled kept.toList digits → ¬HasLength digits →
      IsRefused raw .phoneLength .invalidLength) ∧
    (∀ digits, IsDialled kept.toList digits → HasLength digits → ¬HasCountryCode kept.toList →
      ¬IsTypedLoosely typed.toList → IsRefused raw .phoneFormat .invalidFormat) := by
  intro answer typed kept
  refine ⟨fun _ => parse_eq_ok_iff, ?again, fun hblank => ⟨parse_of_blank hblank, rfl⟩,
    fun hne h => ⟨parse_of_not_dialled hne h, rfl⟩,
    fun digits h hlength => ⟨parse_of_not_hasLength h hlength, rfl⟩,
    fun digits h hlength hcode hloose => ⟨parse_of_no_form h hlength hcode hloose, rfl⟩⟩
  case again =>
    intro phone hparse
    obtain ⟨rfl, digits, h, hlength, -⟩ := parse_eq_ok_iff.mp hparse
    rw [digitCount_of_isDialled h]
    exact ⟨hlength.1, hlength.2, parse_of_isDialled_text h hlength⟩

/-- Slashes go with the code of a country only, and a plus sign goes in front only. -/
theorem phone_numbers_are_taken_by_their_grammar_with_slashes :
    (∃ phone, parse " +31 (20) 123/4567 " = .ok phone ∧ phone.number = "+31201234567" ∧
      phone.digitCount ≤ 15 ∧ parse phone.number = .ok phone) ∧
    IsRefused " " (.missing .phone) .required ∧
    IsRefused "020+1234567" .phoneCharacters .invalidFormat ∧
    IsRefused "(020) 123" .phoneLength .invalidLength ∧
    IsRefused "020/1234567" .phoneFormat .invalidFormat := by
  obtain ⟨htaken, hagain, -⟩ := phone_numbers_are_taken_by_their_grammar " +31 (20) 123/4567 "
  obtain ⟨-, -, hblank, -⟩ := phone_numbers_are_taken_by_their_grammar " "
  obtain ⟨-, -, -, hcharacters, -⟩ := phone_numbers_are_taken_by_their_grammar "020+1234567"
  obtain ⟨-, -, -, -, hlength, -⟩ := phone_numbers_are_taken_by_their_grammar "(020) 123"
  obtain ⟨-, -, -, -, -, hform⟩ := phone_numbers_are_taken_by_their_grammar "020/1234567"
  have hdutch : IsDialled "+31201234567".toList "31201234567".toList :=
    ⟨.inr rfl, by decide, List.all_eq_true.mp (by decide)⟩
  have hlocal : IsDialled "0201234567".toList "0201234567".toList :=
    ⟨.inl rfl, by decide, List.all_eq_true.mp (by decide)⟩
  have hshort : IsDialled "020123".toList "020123".toList :=
    ⟨.inl rfl, by decide, List.all_eq_true.mp (by decide)⟩
  have hother : ¬∃ digits, IsDialled "020+1234567".toList digits := by
    rintro ⟨digits, h⟩
    exact plus_notMem_of_isDigit h.isDigit (h.withoutPlus_eq ▸ by decide)
  have hcode : ¬HasCountryCode "0201234567".toList := by
    rintro ⟨first, rest, heq, -⟩
    cases heq
  have hok : parse " +31 (20) 123/4567 " = .ok ⟨"+31201234567", none⟩ :=
    (htaken ⟨"+31201234567", none⟩).mpr ⟨rfl, "31201234567".toList, hdutch, by decide,
      .inl ⟨'3', "1201234567".toList, rfl, by decide⟩⟩
  obtain ⟨-, hgreatest, hsame⟩ := hagain _ hok
  exact ⟨⟨_, hok, rfl, hgreatest, hsame⟩, hblank rfl, hcharacters (by decide) hother,
    hlength "020123".toList hshort (by decide),
    hform "0201234567".toList hlocal (by decide) hcode fun h => h.slash (by decide)⟩

end RentalGuard.PhoneNumber
