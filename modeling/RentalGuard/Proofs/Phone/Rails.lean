import RentalGuard.Proofs.Phone.Grammar

/-! # What the payment rails take

The mobile number of a subscriber has nine digits, and how they begin tells whether it can be one of
the country. In front of them stands the code of the country, or what takes its place within the
country. Such a text can be read in one way only, and for one country only. So no text is taken by
two rails, and two texts give one number on a rail just if they have the same digits.
-/

namespace RentalGuard.PhoneNumber

variable {country other : MobileCountry} {cs front digits front' digits' : List Char}
  {raw : String} {phone : PhoneNumber}

/-! ## The grammar -/

/-- How the digits of a mobile subscriber begin. -/
inductive HasMobileStart : MobileCountry → List Char → Prop where
  | dutch (rest : List Char) : HasMobileStart .netherlands ('6' :: rest)
  | spanish (first : Char) (rest : List Char) (h : first = '6' ∨ first = '7') :
      HasMobileStart .spain (first :: rest)
  | portuguese (second : Char) (rest : List Char)
      (h : second = '1' ∨ second = '2' ∨ second = '3' ∨ second = '6') :
      HasMobileStart .portugal ('9' :: second :: rest)

/-- The nine digits of a mobile subscriber. -/
structure IsMobile (country : MobileCountry) (digits : List Char) : Prop where
  length : digits.length = 9
  isDigit : ∀ c ∈ digits, c.isDigit = true
  start : HasMobileStart country digits

/-- What stands in front of the digits: the code of the country after a plus sign or two zeros, or
within the Netherlands a zero, and within the other countries nothing. -/
inductive IsDialPrefix (country : MobileCountry) : List Char → Prop where
  | plus : IsDialPrefix country ('+' :: country.callingCode.toList)
  | zeros : IsDialPrefix country ('0' :: '0' :: country.callingCode.toList)
  | trunk (h : country = .netherlands) : IsDialPrefix country ['0']
  | bare (h : country ≠ .netherlands) : IsDialPrefix country []

/-- A text that dials a mobile number of the country. -/
structure Dials (country : MobileCountry) (cs front digits : List Char) : Prop where
  dial : IsDialPrefix country front
  mobile : IsMobile country digits
  spelled : cs = front ++ digits

/-! ## The tables -/

theorem hasMobileStart_iff :
    (∃ start ∈ country.mobileStarts, start.toList <+: digits) ↔ HasMobileStart country digits := by
  constructor
  · rintro ⟨start, hstart, rest, rfl⟩
    cases country <;> simp only [MobileCountry.mobileStarts, List.mem_cons, List.not_mem_nil,
      or_false] at hstart
    case netherlands =>
      subst hstart
      exact .dutch rest
    case spain =>
      rcases hstart with rfl | rfl
      · exact .spanish '6' rest (.inl rfl)
      · exact .spanish '7' rest (.inr rfl)
    case portugal =>
      rcases hstart with rfl | rfl | rfl | rfl
      · exact .portuguese '1' rest (.inl rfl)
      · exact .portuguese '2' rest (.inr (.inl rfl))
      · exact .portuguese '3' rest (.inr (.inr (.inl rfl)))
      · exact .portuguese '6' rest (.inr (.inr (.inr rfl)))
  · intro h
    cases h with
    | dutch rest => exact ⟨"6", by simp [MobileCountry.mobileStarts], rest, rfl⟩
    | spanish first rest hfirst =>
      refine ⟨String.ofList [first], ?_, rest, by simp⟩
      rcases hfirst with rfl | rfl <;> decide
    | portuguese second rest hsecond =>
      refine ⟨String.ofList ['9', second], ?_, rest, by simp⟩
      rcases hsecond with rfl | rfl | rfl | rfl <;> decide

theorem isSubscriber_iff_isMobile :
    isSubscriber country digits = true ↔ IsMobile country digits := by
  rw [isSubscriber_iff, hasMobileStart_iff]
  exact ⟨fun h => ⟨h.1, h.2.1, h.2.2⟩, fun h => ⟨h.length, h.isDigit, h.start⟩⟩

theorem isDialPrefix_iff :
    (∃ dial ∈ country.dialPrefixes, dial.toList = front) ↔ IsDialPrefix country front := by
  constructor
  · rintro ⟨dial, hdial, rfl⟩
    cases country <;> simp only [MobileCountry.dialPrefixes, List.mem_cons, List.not_mem_nil,
      or_false] at hdial
    case netherlands =>
      rcases hdial with rfl | rfl | rfl
      · exact .plus
      · exact .zeros
      · exact .trunk rfl
    case spain | portugal =>
      rcases hdial with rfl | rfl | rfl
      · exact .bare (by decide)
      · exact .plus
      · exact .zeros
  · intro h
    cases h with
    | plus => exact ⟨"+" ++ country.callingCode, by cases country <;> decide, by simp⟩
    | zeros => exact ⟨"00" ++ country.callingCode, by cases country <;> decide, by simp⟩
    | trunk h =>
      subst h
      exact ⟨"0", by simp [MobileCountry.dialPrefixes], rfl⟩
    | bare h =>
      refine ⟨"", ?_, rfl⟩
      cases country with
      | netherlands => exact absurd rfl h
      | spain | portugal => decide

/-- The prefixes of the Netherlands are not those of Spain. Portugal shares the empty one with
Spain, but has other digits. -/
theorem not_isDialPrefix_dutch_and_spanish (h : IsDialPrefix .netherlands front) :
    ¬IsDialPrefix .spain front := by
  intro h'
  obtain ⟨dial, hdial, rfl⟩ := isDialPrefix_iff.mpr h
  obtain ⟨dial', hdial', hsame⟩ := isDialPrefix_iff.mpr h'
  have hboth : dial ∈ MobileCountry.spain.dialPrefixes := String.toList_inj.mp hsame ▸ hdial'
  have hnone : MobileCountry.netherlands.dialPrefixes.all
      (fun d => !MobileCountry.spain.dialPrefixes.contains d) = true := by decide
  simpa [hboth] using List.all_eq_true.mp hnone dial hdial

theorem HasMobileStart.nine_iff (h : HasMobileStart country digits) :
    digits.head? = some '9' ↔ country = .portugal := by
  cases h with
  | dutch rest => simp
  | spanish first rest hfirst => rcases hfirst with rfl | rfl <;> simp
  | portuguese second rest _ => simp

theorem country_eq (hdial : IsDialPrefix country front) (hstart : HasMobileStart country digits)
    (hdial' : IsDialPrefix other front) (hstart' : HasMobileStart other digits) :
    country = other := by
  have hnine : country = .portugal ↔ other = .portugal :=
    hstart.nine_iff.symm.trans hstart'.nine_iff
  cases country with
  | portugal => exact (hnine.mp rfl).symm
  | netherlands =>
    cases other with
    | netherlands => rfl
    | spain => exact absurd hdial' (not_isDialPrefix_dutch_and_spanish hdial)
    | portugal => exact absurd (hnine.mpr rfl) (by decide)
  | spain =>
    cases other with
    | spain => rfl
    | netherlands => exact absurd hdial (not_isDialPrefix_dutch_and_spanish hdial')
    | portugal => exact absurd (hnine.mpr rfl) (by decide)

/-! ## One reading -/

namespace Dials

variable (h : Dials country cs front digits)

include h

/-- The digits are the last nine characters, however they are dialled. -/
theorem digits_eq : digits = cs.drop (cs.length - 9) := by
  have hlength : cs.length - 9 = front.length := by
    rw [h.spelled, List.length_append, h.mobile.length, Nat.add_sub_cancel]
  rw [hlength, h.spelled, List.drop_left]

theorem ne_nil : cs ≠ [] := by
  intro hnil
  have hlength := congrArg List.length h.spelled
  rw [hnil, List.length_append, h.mobile.length] at hlength
  simp at hlength

/-- A text is dialled in one way only, and in one country only. -/
theorem unique (h' : Dials other cs front' digits') :
    country = other ∧ front = front' ∧ digits = digits' := by
  have hdigits : digits = digits' := h.digits_eq.trans h'.digits_eq.symm
  have hfront : front = front' :=
    List.append_cancel_right (h.spelled.symm.trans (hdigits ▸ h'.spelled))
  refine ⟨?_, hfront, hdigits⟩
  exact country_eq h.dial h.mobile.start (hfront ▸ h'.dial) (hdigits ▸ h'.mobile.start)

end Dials

theorem subscriber?_eq_some_iff :
    subscriber? country cs = some digits ↔ ∃ front, Dials country cs front digits := by
  have hfound : ∀ {found : List Char}, subscriber? country cs = some found →
      ∃ front, Dials country cs front found := by
    intro found hsome
    obtain ⟨dial, hdial, hfits⟩ := List.exists_of_findSome?_eq_some hsome
    simp only [Option.ite_none_right_eq_some, Bool.and_eq_true, Option.some.injEq,
      List.isPrefixOf_iff_prefix] at hfits
    obtain ⟨⟨⟨rest, rfl⟩, hsubscriber⟩, rfl⟩ := hfits
    rw [List.drop_left] at hsubscriber ⊢
    exact ⟨dial.toList, isDialPrefix_iff.mp ⟨dial, hdial, rfl⟩,
      isSubscriber_iff_isMobile.mp hsubscriber, rfl⟩
  refine ⟨hfound, ?_⟩
  rintro ⟨front, h⟩
  -- another prefix may be tried first, but then it leaves the same digits
  cases hsome : subscriber? country cs with
  | some found =>
    obtain ⟨front', h'⟩ := hfound hsome
    rw [(h.unique h').2.2]
  | none =>
    obtain ⟨dial, hdial, rfl⟩ := isDialPrefix_iff.mpr h.dial
    have hnone := List.findSome?_eq_none_iff.mp hsome dial hdial
    simp [h.spelled, isSubscriber_iff_isMobile.mpr h.mobile] at hnone

/-! ## Answers of the rails -/

theorem parseMobile_eq_ok_iff_dials : parseMobile country raw = .ok phone ↔
    ∃ front digits, Dials country (cleaned raw).toList front digits ∧
      phone = international country digits := by
  rw [parseMobile_eq_ok_iff]
  simp only [subscriber?_eq_some_iff]
  exact ⟨fun ⟨digits, ⟨front, h⟩, hphone⟩ => ⟨front, digits, h, hphone⟩,
    fun ⟨front, digits, h, hphone⟩ => ⟨digits, ⟨front, h⟩, hphone⟩⟩

/-- A number of one country is refused by the rails of the others. -/
theorem parseMobile_of_dials_other (h : Dials country (cleaned raw).toList front digits)
    (hother : other ≠ country) : parseMobile other raw = .error (.foreignMobile other) := by
  have hnone : subscriber? other (cleaned raw).toList = none := by
    rw [Option.eq_none_iff_forall_ne_some]
    intro found hfound
    obtain ⟨front', h'⟩ := subscriber?_eq_some_iff.mp hfound
    exact hother (h.unique h').1.symm
  simp [parseMobile, hnone, h.ne_nil]

/-! ## The international form -/

theorem callingCode_digits (country : MobileCountry) :
    (∀ c ∈ country.callingCode.toList, c.isDigit = true) ∧
      ∃ rest, country.callingCode.toList = '3' :: rest ∧ rest.length ≤ 2 := by
  cases country
  all_goals exact ⟨List.all_eq_true.mp (by decide), _, rfl, by decide⟩

section International

variable (h : IsMobile country digits)

include h

theorem isDialled_international :
    IsDialled (international country digits).number.toList
      (country.callingCode.toList ++ digits) := by
  refine ⟨.inr toList_number_international, ?_, fun c hc => ?_⟩
  · obtain ⟨-, rest, hcode, -⟩ := callingCode_digits country
    simp [hcode]
  · exact (List.mem_append.mp hc).elim ((callingCode_digits country).1 c) (h.isDigit c)

theorem hasLength_international : HasLength (country.callingCode.toList ++ digits) := by
  obtain ⟨-, rest, hcode, hrest⟩ := callingCode_digits country
  rw [HasLength, List.length_append, hcode, h.length, List.length_cons]
  omega

theorem isInternational_international :
    isInternational (international country digits).number.toList = true := by
  rw [(isDialled_international h).isInternational_iff (hasLength_international h),
    toList_number_international]
  obtain ⟨-, rest, hcode, -⟩ := callingCode_digits country
  exact ⟨'3', rest ++ digits, by simp [hcode], by decide⟩

theorem dials_international :
    Dials country (cleaned (international country digits).number).toList
      ('+' :: country.callingCode.toList) digits := by
  rw [cleaned_international (isSubscriber_iff_isMobile.mpr h), toList_number_international]
  exact ⟨.plus, h, rfl⟩

end International

theorem number_international_inj :
    (international country digits).number = (international country digits').number ↔
      digits = digits' := by
  rw [← String.toList_inj, toList_number_international, toList_number_international]
  simp

/-- A rail takes a text just if it dials a mobile number of its country, and keeps the nine digits
after the code of the country. No text dials two numbers, in one country or in two. So two texts
give the same number on a rail just if they have the same nine digits. The number is in the
international form. It is read again as it is, as a number of any country and by its own rail, and
the other rails take neither it nor the text it was read from. -/
theorem mobile_rails_are_sound_canonical_and_disjoint (country : MobileCountry) (raw : String) :
    let answer : Except PaymentFault PhoneNumber := parseMobile country raw
    (∀ phone, answer = .ok phone ↔ ∃ front digits,
      Dials country (cleaned raw).toList front digits ∧
        phone = ⟨"+" ++ country.callingCode ++ String.ofList digits, some country⟩) ∧
    (∀ front digits other front' digits', Dials country (cleaned raw).toList front digits →
      Dials other (cleaned raw).toList front' digits' →
        country = other ∧ front = front' ∧ digits = digits') ∧
    (∀ raw' front digits front' digits' phone phone',
      Dials country (cleaned raw).toList front digits →
      Dials country (cleaned raw').toList front' digits' →
      answer = .ok phone → parseMobile country raw' = .ok phone' →
        (phone.number = phone'.number ↔ digits = digits')) ∧
    ∀ phone, answer = .ok phone →
      isInternational phone.number.toList = true ∧
      parse phone.number = .ok ⟨phone.number, none⟩ ∧
      parseMobile country phone.number = .ok phone ∧
      ∀ other, other ≠ country →
        parseMobile other phone.number = .error (.foreignMobile other) ∧
        parseMobile other raw = .error (.foreignMobile other) := by
  intro answer
  refine ⟨fun phone => parseMobile_eq_ok_iff_dials, fun _ _ _ _ _ h h' => h.unique h', ?same,
    ?again⟩
  case same =>
    intro raw' front digits front' digits' phone phone' h h' hphone hphone'
    obtain ⟨_, found, hfound, rfl⟩ := parseMobile_eq_ok_iff_dials.mp hphone
    obtain ⟨_, found', hfound', rfl⟩ := parseMobile_eq_ok_iff_dials.mp hphone'
    rw [(h.unique hfound).2.2, (h'.unique hfound').2.2]
    exact number_international_inj
  case again =>
    intro phone hphone
    obtain ⟨front, digits, h, rfl⟩ := parseMobile_eq_ok_iff_dials.mp hphone
    have hform := dials_international h.mobile
    exact ⟨isInternational_international h.mobile,
      parse_of_isDialled_text (isDialled_international h.mobile) (hasLength_international h.mobile),
      parseMobile_eq_ok_iff_dials.mpr ⟨_, digits, hform, rfl⟩,
      fun other hother => ⟨parseMobile_of_dials_other hform hother,
        parseMobile_of_dials_other h hother⟩⟩

/-- One Dutch number within the country and from abroad. As six may begin a number of either
country, its digits alone are Spanish. -/
theorem mobile_rails_are_sound_canonical_and_disjoint_in_three_spellings :
    (∃ phone phone', parseMobile .netherlands "06-12345678" = .ok phone ∧
      parseMobile .netherlands "0031 6 1234 5678" = .ok phone' ∧ phone.number = phone'.number ∧
      parse phone.number = .ok ⟨phone.number, none⟩ ∧
      parseMobile .spain phone.number = .error (.foreignMobile .spain) ∧
      parseMobile .portugal "06-12345678" = .error (.foreignMobile .portugal)) ∧
    ∃ phone, parseMobile .spain "612 345 678" = .ok phone ∧ phone.number = "+34612345678" ∧
      isInternational phone.number.toList = true ∧
      parseMobile .netherlands "612 345 678" = .error (.foreignMobile .netherlands) := by
  have hdutch : IsMobile .netherlands "612345678".toList :=
    ⟨rfl, List.all_eq_true.mp (by decide), .dutch _⟩
  have hspanish : IsMobile .spain "612345678".toList :=
    ⟨rfl, List.all_eq_true.mp (by decide), .spanish _ _ (.inl rfl)⟩
  have hnear : Dials .netherlands (cleaned "06-12345678").toList ['0'] "612345678".toList :=
    ⟨.trunk rfl, hdutch, rfl⟩
  have hfar : Dials .netherlands (cleaned "0031 6 1234 5678").toList "0031".toList
      "612345678".toList := ⟨.zeros, hdutch, rfl⟩
  have hbare : Dials .spain (cleaned "612 345 678").toList [] "612345678".toList :=
    ⟨.bare (by decide), hspanish, rfl⟩
  obtain ⟨htaken, -, hsame, hagain⟩ :=
    mobile_rails_are_sound_canonical_and_disjoint .netherlands "06-12345678"
  obtain ⟨htaken', -⟩ :=
    mobile_rails_are_sound_canonical_and_disjoint .netherlands "0031 6 1234 5678"
  obtain ⟨htakenBare, -, -, hagainBare⟩ :=
    mobile_rails_are_sound_canonical_and_disjoint .spain "612 345 678"
  have hphone := (htaken _).mpr ⟨_, _, hnear, rfl⟩
  have hphone' := (htaken' _).mpr ⟨_, _, hfar, rfl⟩
  have hphoneBare := (htakenBare _).mpr ⟨_, _, hbare, rfl⟩
  obtain ⟨-, hread, -, hothers⟩ := hagain _ hphone
  obtain ⟨hform, -, -, hothersBare⟩ := hagainBare _ hphoneBare
  refine ⟨⟨_, _, hphone, hphone', (hsame _ _ _ _ _ _ _ hnear hfar hphone hphone').mpr rfl, hread,
    (hothers .spain (by decide)).1, (hothers .portugal (by decide)).2⟩, _, hphoneBare, by decide,
    hform, (hothersBare .netherlands (by decide)).2⟩

end RentalGuard.PhoneNumber
