import RentalGuard.Phone.Number
import RentalGuard.Text.Letters

/-! # Which mobile numbers a payment rail takes

A rail takes the nine digits of a mobile subscriber of its country after one of the prefixes that
the country allows, and keeps them in the international form, which it takes as well.
-/

namespace RentalGuard.PhoneNumber

variable {country : MobileCountry} {cs digits : List Char} {raw : String} {phone : PhoneNumber}

/-! ## Subscribers -/

theorem isSubscriber_iff : isSubscriber country cs = true ↔ cs.length = 9 ∧
    (∀ c ∈ cs, c.isDigit = true) ∧ ∃ start ∈ country.mobileStarts, start.toList <+: cs := by
  simp only [isSubscriber, Bool.and_eq_true, beq_iff_eq, List.all_eq_true, List.any_eq_true,
    List.isPrefixOf_iff_prefix, and_assoc]

theorem isSubscriber_of_subscriber? (h : subscriber? country cs = some digits) :
    isSubscriber country digits = true := by
  obtain ⟨dial, -, hdial⟩ := List.exists_of_findSome?_eq_some h
  simp only at hdial
  split at hdial
  · rename_i hfits
    rw [← Option.some.inj hdial]
    exact (Bool.and_eq_true_iff.mp hfits).2
  · cases hdial

/-- A plus sign belongs to a prefix. -/
theorem isSubscriber_plus : isSubscriber country ('+' :: cs) = false := by
  rw [← Bool.not_eq_true, isSubscriber_iff]
  intro h
  exact absurd (h.2.1 '+' List.mem_cons_self) (by decide)

theorem subscriber?_nil : subscriber? country [] = none := by
  cases country <;> rfl

/-! ## The international form -/

/-- A subscriber's digits in the international form. -/
def international (country : MobileCountry) (digits : List Char) : PhoneNumber :=
  ⟨"+" ++ country.callingCode ++ String.ofList digits, some country⟩

theorem toList_number_international :
    (international country digits).number.toList =
      '+' :: (country.callingCode.toList ++ digits) := by
  simp [international]

/-- Every country allows its calling code as a prefix. -/
theorem subscriber?_international (h : isSubscriber country digits = true) :
    subscriber? country (international country digits).number.toList = some digits := by
  rw [toList_number_international]
  cases country with
  | netherlands =>
    simp [subscriber?, MobileCountry.dialPrefixes, MobileCountry.callingCode, h]
  | spain =>
    -- the empty prefix is tried first, and the plus sign rules it out
    simp [subscriber?, MobileCountry.dialPrefixes, MobileCountry.callingCode, h, isSubscriber_plus]
  | portugal =>
    simp [subscriber?, MobileCountry.dialPrefixes, MobileCountry.callingCode, h, isSubscriber_plus]

theorem isPunctuation_of_isDigit {c : Char} (h : c.isDigit = true) : isPunctuation c = false := by
  have hrange := Text.isDigit_iff_toNat.mp h
  have hblank : Text.isBlank c = false := Text.isBlank_of_visible (by omega) (by omega)
  have hother : ∀ d : Char, d.isDigit = false → c ≠ d := by
    rintro d hd rfl
    rw [hd] at h
    cases h
  simp only [isPunctuation, Bool.or_eq_false_iff, beq_eq_false_iff_ne]
  exact ⟨⟨⟨⟨⟨hblank, hother '-' rfl⟩, hother '.' rfl⟩, hother '(' rfl⟩, hother ')' rfl⟩,
    hother '/' rfl⟩

/-- Digits and plus signs are no punctuation. -/
theorem isPunctuation_eq_false {c : Char} (h : c = '+' ∨ c.isDigit = true) :
    isPunctuation c = false := by
  rcases h with rfl | hdigit
  · decide
  · exact isPunctuation_of_isDigit hdigit

/-- There is nothing to leave out where there is no punctuation. -/
theorem cleaned_eq_self (h : ∀ c ∈ raw.toList, c = '+' ∨ c.isDigit = true) :
    cleaned raw = raw := by
  have hkept : raw.toList.filter (fun c => !isPunctuation c) = raw.toList :=
    List.filter_eq_self.mpr fun c hc => by rw [isPunctuation_eq_false (h c hc), Bool.not_false]
  rw [cleaned, hkept, String.ofList_toList]

theorem cleaned_international (h : isSubscriber country digits = true) :
    cleaned (international country digits).number = (international country digits).number := by
  have hcode : ∀ c ∈ country.callingCode.toList, c.isDigit = true := by
    cases country <;> exact List.all_eq_true.mp (by decide)
  refine cleaned_eq_self fun c hc => ?_
  rw [toList_number_international, List.mem_cons, List.mem_append] at hc
  rcases hc with hplus | hc | hc
  · exact .inl hplus
  · exact .inr (hcode c hc)
  · exact .inr ((isSubscriber_iff.mp h).2.1 c hc)

/-! ## What a rail takes -/

/-- A rail takes a text just if a subscriber's digits are left of it after a prefix. -/
theorem parseMobile_eq_ok_iff : parseMobile country raw = .ok phone ↔
    ∃ digits, subscriber? country (cleaned raw).toList = some digits ∧
      phone = international country digits := by
  unfold parseMobile
  cases hsubscriber : subscriber? country (cleaned raw).toList with
  | none =>
    simp only [hsubscriber, reduceCtorEq, false_and, exists_false, iff_false]
    split <;> rintro ⟨⟩
  | some digits =>
    have hne : ¬(cleaned raw).toList.isEmpty = true := by
      rw [List.isEmpty_iff]
      intro hempty
      rw [hempty, subscriber?_nil] at hsubscriber
      cases hsubscriber
    simp only [hsubscriber, if_neg hne, Except.ok.injEq, Option.some.injEq, exists_eq_left']
    exact eq_comm

/-- The international form of a subscriber's digits is taken as it is. -/
theorem parseMobile_international (h : isSubscriber country digits = true) :
    parseMobile country (international country digits).number =
      .ok (international country digits) := by
  refine parseMobile_eq_ok_iff.mpr ⟨digits, ?_, rfl⟩
  rw [cleaned_international h]
  exact subscriber?_international h

end RentalGuard.PhoneNumber
