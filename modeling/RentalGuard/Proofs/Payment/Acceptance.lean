import RentalGuard.Payment.Method

/-! # Which payment entries are accepted

An entry is accepted if each of its parts is. What is kept of it is put together from what is kept
of the parts.
-/

namespace RentalGuard

/-! ## Cards -/

/-- The number that is read is what is left of the text without blanks and hyphens. -/
theorem CardNumber.parse_eq_ok_iff {raw : String} {number : CardNumber} :
    CardNumber.parse raw = .ok number ↔ cleaned raw = number.digits := by
  obtain ⟨digits, hlength, hluhn⟩ := number
  constructor
  · intro h
    unfold CardNumber.parse at h
    simp only at h
    repeat' split at h
    · cases h
    · cases h
    · exact congrArg CardNumber.digits (Except.ok.inj h)
    · cases h
    · cases h
  · -- a number has passed its checks, so none of them can fail
    rintro rfl
    obtain ⟨hne, hdigits, -⟩ := Luhn.isValid_iff.mp hluhn
    unfold CardNumber.parse
    simp only
    rw [List.isEmpty_eq_false_iff.mpr hne, List.all_eq_true.mpr hdigits, dif_pos hlength,
      dif_pos hluhn]
    rfl

/-- A card is read with the year that is meant, and is taken until its month has ended. -/
theorem CardExpiry.parse_eq_ok_iff {month : Nat} {year : Int} {now : Instant}
    {expiry : CardExpiry} :
    CardExpiry.parse month year now = .ok expiry ↔ expiry.month = month ∧
      expiry.year = fullYear year ∧ expiry.toYearMonth.before now.yearMonth = false := by
  obtain ⟨⟨expiryYear, expiryMonth⟩, hmonth, hyear⟩ := expiry
  unfold CardExpiry.parse
  constructor
  · intro h
    split at h
    · split at h
      · simp only at h
        split at h
        · cases h
        · rename_i hgood
          cases h
          exact ⟨rfl, rfl, Bool.not_eq_true _ ▸ hgood⟩
      · cases h
    · cases h
  · rintro ⟨rfl, rfl, hgood⟩
    rw [dif_pos hmonth, dif_pos hyear]
    simp only
    rw [hgood]
    rfl

/-! ## Holders and optional codes -/

namespace PaymentRules

theorem holderName_eq_ok_iff {part : RequiredEntry} {raw name : String} :
    holderName part raw = .ok name ↔ Text.isBlankText raw = false ∧ name = Text.trimmed raw := by
  unfold holderName
  cases Text.isBlankText raw with
  | false =>
    rw [if_neg Bool.false_ne_true, Except.ok.injEq, eq_comm]
    exact (and_iff_right rfl).symm
  | true => simp

/-- A code is kept only if one is given that is not blank. -/
theorem optionalBic_eq_ok_some_iff {code : Option String} {bic : Bic} :
    optionalBic code = .ok (some bic) ↔
      ∃ raw, code = some raw ∧ Text.isBlankText raw = false ∧ Bic.parse raw = .ok bic := by
  cases code with
  | none => simp [optionalBic]
  | some raw =>
    have hsome : optionalBic (some raw) =
        if Text.isBlankText raw then .ok none else (Bic.parse raw).map some := rfl
    simp only [hsome, Option.some.injEq, exists_eq_left']
    cases Text.isBlankText raw with
    | true => simp
    | false =>
      cases Bic.parse raw with
      | error fault => simp [Except.map]
      | ok taken => simp [Except.map]

variable {rules : PaymentRules} {entry : PaymentEntry} {method : PaymentMethod}

/-! ## Entries -/

/-- What must be so for an entry to be accepted as a payment method. -/
inductive Accepts (rules : PaymentRules) : PaymentEntry → PaymentMethod → Prop
  | card {raw code name holder : String} {month : Nat} {year : Int} {number : CardNumber}
      {expiry : CardExpiry} (hnumber : CardNumber.parse raw = .ok number)
      (hcode : checkSecurityCode code number.brand = .ok ())
      (hexpiry : CardExpiry.parse month year rules.now = .ok expiry)
      (hholder : holderName .cardHolder name = .ok holder) :
      Accepts rules (.creditCard raw code month year name) (.card number expiry holder)
  | directDebit {raw name holder : String} {code : Option String} {iban : Iban} {bic : Option Bic}
      (hiban : Iban.parse rules.sandbox raw = .ok iban)
      (hholder : holderName .accountHolder name = .ok holder) (hbic : optionalBic code = .ok bic) :
      Accepts rules (.directDebit raw name code) (.directDebit iban holder bic)
  | ideal {code : Option String} {issuer : Option Bic} (hissuer : optionalBic code = .ok issuer) :
      Accepts rules (.ideal code) (.ideal issuer)
  | bankTransfer : Accepts rules .bankTransfer .bankTransfer
  | bizum {raw : String} {phone : PhoneNumber}
      (hphone : PhoneNumber.parseMobile .spain raw = .ok phone) :
      Accepts rules (.bizum raw) (.bizum phone)
  | mbWay {raw : String} {phone : PhoneNumber}
      (hphone : PhoneNumber.parseMobile .portugal raw = .ok phone) :
      Accepts rules (.mbWay raw) (.mbWay phone)

theorem ok_bind {α β : Type} (a : α) (f : α → Except PaymentFault β) : (.ok a >>= f) = f a := rfl

/-- A step that gives a result has had one from the step before. -/
theorem bind_eq_ok_iff {α β : Type} {x : Except PaymentFault α} {f : α → Except PaymentFault β}
    {b : β} : (x >>= f) = .ok b ↔ ∃ a, x = .ok a ∧ f a = .ok b := by
  cases x with
  | error fault => simp [bind, Except.bind]
  | ok a => simp [bind, Except.bind]

theorem check_eq_ok_iff : rules.check entry = .ok method ↔ rules.Accepts entry method := by
  constructor
  · intro h
    cases entry with
    | creditCard raw code month year name =>
      simp only [check, bind_eq_ok_iff] at h
      obtain ⟨number, hnumber, ⟨⟩, hcode, expiry, hexpiry, holder, hholder, hmethod⟩ := h
      cases hmethod
      exact .card hnumber hcode hexpiry hholder
    | directDebit raw name code =>
      simp only [check, bind_eq_ok_iff] at h
      obtain ⟨iban, hiban, holder, hholder, bic, hbic, hmethod⟩ := h
      cases hmethod
      exact .directDebit hiban hholder hbic
    | ideal code =>
      simp only [check, bind_eq_ok_iff] at h
      obtain ⟨issuer, hissuer, hmethod⟩ := h
      cases hmethod
      exact .ideal hissuer
    | bankTransfer =>
      cases h
      exact .bankTransfer
    | bizum raw =>
      simp only [check, bind_eq_ok_iff] at h
      obtain ⟨phone, hphone, hmethod⟩ := h
      cases hmethod
      exact .bizum hphone
    | mbWay raw =>
      simp only [check, bind_eq_ok_iff] at h
      obtain ⟨phone, hphone, hmethod⟩ := h
      cases hmethod
      exact .mbWay hphone
  · intro h
    cases h with
    | card hnumber hcode hexpiry hholder =>
      rw [check, hnumber, ok_bind, hcode, ok_bind, hexpiry, ok_bind, hholder]
      rfl
    | directDebit hiban hholder hbic =>
      rw [check, hiban, ok_bind, hholder, ok_bind, hbic]
      rfl
    | ideal hissuer =>
      rw [check, hissuer]
      rfl
    | bankTransfer => rfl
    | bizum hphone =>
      rw [check, hphone]
      rfl
    | mbWay hphone =>
      rw [check, hphone]
      rfl

end PaymentRules

end RentalGuard
