import RentalGuard.Proofs.Bank.AccountNumber
import RentalGuard.Proofs.Bank.BankCode
import RentalGuard.Proofs.Payment.Acceptance
import RentalGuard.Proofs.Payment.Mobile

/-! # Accepted payment methods are in normal form

What is kept of an accepted entry can be entered again, and then each part is kept as it is. Only
the expiry of a card depends on when that is done.
-/

namespace RentalGuard

/-! ## The parts -/

theorem CardNumber.parse_digits (number : CardNumber) :
    CardNumber.parse number.digits = .ok number := by
  rw [CardNumber.parse_eq_ok_iff, cleaned, List.filter_eq_self.mpr, String.ofList_toList]
  intro c hc
  have hdigit : c.isDigit = true := (Luhn.isValid_iff.mp number.luhn).2.1 c hc
  have hvisible : Text.isBlank c = false :=
    Text.isBlank_of_isUpper_or_isDigit (by rw [hdigit, Bool.or_true])
  have hhyphen : c ≠ '-' := by
    rintro rfl
    cases hdigit
  rw [hvisible, Bool.not_false, Bool.true_and, bne_iff_ne]
  exact hhyphen

theorem CardExpiry.fullYear_year (expiry : CardExpiry) : fullYear expiry.year = expiry.year :=
  if_neg fun h => absurd expiry.yearInRange.1 (by omega)

/-- A year of four digits is kept. -/
theorem CardExpiry.parse_year (expiry : CardExpiry) (now : Instant) :
    CardExpiry.parse expiry.month expiry.year now =
      if expiry.toYearMonth.before now.yearMonth then .error .cardExpired else .ok expiry := by
  cases hbefore : expiry.toYearMonth.before now.yearMonth with
  | false => exact CardExpiry.parse_eq_ok_iff.mpr ⟨rfl, expiry.fullYear_year.symm, hbefore⟩
  | true =>
    have hyear : 1000 ≤ fullYear expiry.year ∧ fullYear expiry.year ≤ 9999 := by
      rw [expiry.fullYear_year]
      exact expiry.yearInRange
    have hpast : YearMonth.before ⟨fullYear expiry.year, expiry.month⟩ now.yearMonth = true := by
      rw [expiry.fullYear_year]
      exact hbefore
    unfold CardExpiry.parse
    rw [dif_pos expiry.monthInRange, dif_pos hyear]
    exact if_pos hpast

theorem Bic.parse_text {raw : String} {bic : Bic} (h : Bic.parse raw = .ok bic) :
    Bic.parse bic.text = .ok bic := by
  obtain ⟨htext, hcode⟩ := Bic.parse_eq_ok_iff.mp h
  rw [Bic.parse_eq_ok_iff, bic.compactForm_text]
  exact ⟨rfl, htext ▸ hcode⟩

theorem PhoneNumber.parseMobile_number {country : MobileCountry} {raw : String}
    {phone : PhoneNumber} (h : PhoneNumber.parseMobile country raw = .ok phone) :
    PhoneNumber.parseMobile country phone.number = .ok phone := by
  obtain ⟨digits, hsubscriber, rfl⟩ := PhoneNumber.parseMobile_eq_ok_iff.mp h
  exact PhoneNumber.parseMobile_international (PhoneNumber.isSubscriber_of_subscriber? hsubscriber)

namespace PaymentRules

theorem holderName_of_ok {part : RequiredEntry} {raw name : String}
    (h : holderName part raw = .ok name) : holderName part name = .ok name := by
  obtain ⟨hname, rfl⟩ := holderName_eq_ok_iff.mp h
  have hagain : Text.trim (Text.trimmed raw).toList = Text.trim raw.toList := by
    rw [Text.toList_trimmed, Text.trim_trim]
  rw [holderName_eq_ok_iff, Text.isBlankText, hagain]
  exact ⟨hname, (congrArg String.ofList hagain).symm⟩

theorem optionalBic_text {code : Option String} {bic : Option Bic}
    (h : optionalBic code = .ok bic) : optionalBic (bic.map Bic.text) = .ok bic := by
  cases bic with
  | none => rfl
  | some bic =>
    obtain ⟨raw, -, -, hraw⟩ := optionalBic_eq_ok_some_iff.mp h
    have hshown : Text.isBlankText bic.text = false := by
      rw [Text.isBlankText, Text.trim_eq_self fun c hc => Text.isBlank_of_isUpper_or_isDigit
        (Bic.chars_of_isWellFormed bic.wellFormed c hc)]
      exact Bic.isEmpty_of_isWellFormed bic.wellFormed
    exact optionalBic_eq_ok_some_iff.mpr ⟨bic.text, rfl, hshown, Bic.parse_text hraw⟩

end PaymentRules

/-! ## Entering a payment method again -/

/-- The security code of a card. -/
def PaymentEntry.securityCode : PaymentEntry → String
  | creditCard _ code _ _ _ => code
  | _ => ""

namespace PaymentMethod

/-- The method as an entry. The security code, which is not kept, is given again. -/
def toEntry (securityCode : String) : PaymentMethod → PaymentEntry
  | card number expiry holder =>
    .creditCard number.digits securityCode expiry.month expiry.year holder
  | directDebit iban accountHolder bic => .directDebit iban.text accountHolder (bic.map Bic.text)
  | ideal issuer => .ideal (issuer.map Bic.text)
  | bankTransfer => .bankTransfer
  | bizum phone => .bizum phone.number
  | mbWay phone => .mbWay phone.number

/-- Whether the method is a card whose month has ended. -/
def isExpired (now : Instant) : PaymentMethod → Bool
  | card _ expiry _ => expiry.toYearMonth.before now.yearMonth
  | _ => false

end PaymentMethod

namespace PaymentRules

variable {rules : PaymentRules} {entry : PaymentEntry} {method : PaymentMethod}

theorem Accepts.isExpired_now (h : rules.Accepts entry method) :
    method.isExpired rules.now = false := by
  cases h with
  | card _ _ hexpiry _ => exact (CardExpiry.parse_eq_ok_iff.mp hexpiry).2.2
  | _ => rfl

/-- An accepted method comes out as it is, unless it is a card that has expired in the meantime. -/
theorem Accepts.check_toEntry (h : rules.Accepts entry method) (now : Instant) :
    check ⟨rules.sandbox, now⟩ (method.toEntry entry.securityCode) =
      if method.isExpired now then .error .cardExpired else .ok method := by
  cases h with
  | @card raw code name holder month year number expiry hnumber hcode hexpiry hholder =>
    show check _ (.creditCard number.digits code expiry.month expiry.year holder) =
      if expiry.toYearMonth.before now.yearMonth then _ else _
    -- the number has the same brand, so the security code is judged as before
    rw [check, CardNumber.parse_digits, ok_bind, hcode, ok_bind, CardExpiry.parse_year]
    split
    · rfl
    · rw [ok_bind, holderName_of_ok hholder]
      rfl
  | directDebit hiban hholder hbic =>
    exact check_eq_ok_iff.mpr
      (.directDebit (Iban.parse_text hiban) (holderName_of_ok hholder) (optionalBic_text hbic))
  | ideal hissuer => exact check_eq_ok_iff.mpr (.ideal (optionalBic_text hissuer))
  | bankTransfer => rfl
  | bizum hphone => exact check_eq_ok_iff.mpr (.bizum (PhoneNumber.parseMobile_number hphone))
  | mbWay hphone => exact check_eq_ok_iff.mpr (.mbWay (PhoneNumber.parseMobile_number hphone))

/-- What is kept of an accepted entry is accepted again with the same security code, and comes out
as the same method, with the same code for the gateway. At another time, the one thing that can be
wrong with it is that it is a card which has expired. -/
theorem accepted_methods_are_in_normal_form (h : rules.check entry = .ok method) :
    rules.check (method.toEntry entry.securityCode) = .ok method ∧
    (rules.check (method.toEntry entry.securityCode)).map PaymentMethod.gatewayCode =
      (rules.check entry).map PaymentMethod.gatewayCode ∧
    ∀ now : Instant, check ⟨rules.sandbox, now⟩ (method.toEntry entry.securityCode) =
      if method.isExpired now then .error .cardExpired else .ok method := by
  have haccepted := check_eq_ok_iff.mp h
  have hagain : rules.check (method.toEntry entry.securityCode) = .ok method := by
    refine (haccepted.check_toEntry rules.now).trans ?_
    rw [haccepted.isExpired_now]
    rfl
  refine ⟨hagain, ?_, haccepted.check_toEntry⟩
  rw [hagain, h]

/-- A card whose number is typed in groups with a year of two digits, at a time before and at one
after its expiry, and a direct debit and a phone number in other spellings. -/
theorem accepted_methods_are_in_normal_form_in_three_cases :
    let rules : PaymentRules := ⟨.empty, ⟨1792411200, 0, by decide, by decide⟩⟩
    let afterwards : Instant := ⟨1861920000, 0, by decide, by decide⟩
    rules.check (.creditCard "4111111111111111" " 123 " 12 2028 "J. Jansen") =
        rules.check (.creditCard "4111 1111-1111 1111" " 123 " 12 28 " J. Jansen ") ∧
      check ⟨.empty, afterwards⟩ (.creditCard "4111111111111111" " 123 " 12 2028 "J. Jansen") =
        .error .cardExpired ∧
      rules.check (.directDebit "NL91ABNA0417164300" "J. Jansen" (some "ABNANL2A")) =
        rules.check (.directDebit "nl91 abna 0417 1643 00" "J. Jansen " (some " abnanl2a")) ∧
      rules.check (.bizum "+34612345678") = rules.check (.bizum "0034 612-34-56-78") := by
  intro rules afterwards
  have hgood : YearMonth.before ⟨2028, 12⟩ rules.now.yearMonth = false := by decide
  have hcard : rules.check (.creditCard "4111 1111-1111 1111" " 123 " 12 28 " J. Jansen ") =
      .ok (.card ⟨"4111111111111111", by decide, by decide⟩ ⟨⟨2028, 12⟩, by decide, by decide⟩
        "J. Jansen") := check_eq_ok_iff.mpr
          (.card rfl rfl (CardExpiry.parse_eq_ok_iff.mpr ⟨rfl, rfl, hgood⟩) rfl)
  have hdebit : rules.check (.directDebit "nl91 abna 0417 1643 00" "J. Jansen "
      (some " abnanl2a")) = .ok (.directDebit ⟨"NL91ABNA0417164300", by decide⟩ "J. Jansen"
        (some ⟨"ABNANL2A", by decide⟩)) := rfl
  have hphone : rules.check (.bizum "0034 612-34-56-78") =
      .ok (.bizum ⟨"+34612345678", some .spain⟩) := rfl
  obtain ⟨hagain, -, hlater⟩ := accepted_methods_are_in_normal_form hcard
  exact ⟨hagain.trans hcard.symm, (hlater afterwards).trans (if_pos (by decide)),
    (accepted_methods_are_in_normal_form hdebit).1.trans hdebit.symm,
    (accepted_methods_are_in_normal_form hphone).1.trans hphone.symm⟩

end PaymentRules

end RentalGuard
