import RentalGuard.Proofs.Bank.AccountNumber
import RentalGuard.Proofs.Calendar.Days
import RentalGuard.Proofs.Payment.Acceptance

/-! # What is accepted stays accepted under wider rules

A longer list of exempt account numbers and an earlier time never lead to a refusal, nor to another
result. Only cards depend on the time, and only direct debits on the list.
-/

namespace RentalGuard

/-- A number that is exempt stays so when others are added to the list. -/
theorem SandboxIbans.has_ofList_mono {listed listed' : List String} (h : listed ⊆ listed')
    {text : String} (hhas : (ofList listed).has text = true) :
    (ofList listed').has text = true := by
  obtain ⟨hne, entry, hentry, heq⟩ := Iban.has_ofList_iff.mp hhas
  exact Iban.has_ofList_iff.mpr ⟨hne, entry, h hentry, heq⟩

theorem Iban.parse_mono {sandbox sandbox' : SandboxIbans}
    (hsandbox : ∀ text, sandbox.has text = true → sandbox'.has text = true) {raw : String}
    {iban : Iban} (h : Iban.parse sandbox raw = .ok iban) : Iban.parse sandbox' raw = .ok iban := by
  obtain ⟨htext, hform, hlength, hcheck⟩ := Iban.parse_eq_ok_iff.mp h
  exact Iban.parse_eq_ok_iff.mpr ⟨htext, hform, hlength, hcheck.imp_left (hsandbox _)⟩

/-- A card that has not expired had not expired earlier. -/
theorem YearMonth.before_eq_false_trans {a b c : YearMonth} (hab : a.before b = false)
    (hbc : b.before c = false) : a.before c = false := by
  rw [← Bool.not_eq_true, before_iff] at hab hbc ⊢
  omega

theorem CardExpiry.parse_mono {now now' : Instant} (hnow : now' ≤ now) {month : Nat} {year : Int}
    {expiry : CardExpiry} (h : CardExpiry.parse month year now = .ok expiry) :
    CardExpiry.parse month year now' = .ok expiry := by
  obtain ⟨hmonth, hyear, hgood⟩ := CardExpiry.parse_eq_ok_iff.mp h
  exact CardExpiry.parse_eq_ok_iff.mpr
    ⟨hmonth, hyear, YearMonth.before_eq_false_trans hgood (Instant.yearMonth_mono hnow)⟩

namespace PaymentRules

variable {entry : PaymentEntry} {method : PaymentMethod}

/-- Wider rules accept what narrower ones do, part by part. -/
theorem Accepts.mono {rules rules' : PaymentRules} (hnow : rules'.now ≤ rules.now)
    (hsandbox : ∀ text, rules.sandbox.has text = true → rules'.sandbox.has text = true)
    (h : rules.Accepts entry method) : rules'.Accepts entry method := by
  cases h with
  | card hnumber hcode hexpiry hholder =>
    exact .card hnumber hcode (CardExpiry.parse_mono hnow hexpiry) hholder
  | directDebit hiban hholder hbic =>
    exact .directDebit (Iban.parse_mono hsandbox hiban) hholder hbic
  | ideal hissuer => exact .ideal hissuer
  | bankTransfer => exact .bankTransfer
  | bizum hphone => exact .bizum hphone
  | mbWay hphone => exact .mbWay hphone

/-- Only for a card does it matter what time it is. -/
theorem check_now (hkind : entry.kind ≠ "credit_card") (sandbox : SandboxIbans)
    (now now' : Instant) : check ⟨sandbox, now⟩ entry = check ⟨sandbox, now'⟩ entry := by
  cases entry with
  | creditCard => exact absurd rfl hkind
  | _ => rfl

/-- Only for a direct debit does it matter which numbers are exempt. -/
theorem check_sandbox (hkind : entry.kind ≠ "direct_debit") (sandbox sandbox' : SandboxIbans)
    (now : Instant) : check ⟨sandbox, now⟩ entry = check ⟨sandbox', now⟩ entry := by
  cases entry with
  | directDebit => exact absurd rfl hkind
  | _ => rfl

/-- An entry that is accepted is accepted with the same result if more numbers are exempt and if it
is presented earlier. The time makes no difference to any result but that of a card, and the list of
exempt numbers to none but that of a direct debit. -/
theorem acceptance_is_monotone {listed listed' : List String} {now now' : Instant}
    (hlisted : listed ⊆ listed') (hnow : now' ≤ now) (entry : PaymentEntry) :
    (∀ method, check ⟨.ofList listed, now⟩ entry = .ok method →
      check ⟨.ofList listed', now'⟩ entry = .ok method) ∧
    (entry.kind ≠ "credit_card" → ∀ (sandbox : SandboxIbans) (t t' : Instant),
      check ⟨sandbox, t⟩ entry = check ⟨sandbox, t'⟩ entry) ∧
    (entry.kind ≠ "direct_debit" → ∀ (sandbox sandbox' : SandboxIbans) (t : Instant),
      check ⟨sandbox, t⟩ entry = check ⟨sandbox', t⟩ entry) := by
  refine ⟨?_, check_now, check_sandbox⟩
  intro method h
  exact check_eq_ok_iff.mpr ((check_eq_ok_iff.mp h).mono hnow fun text =>
    SandboxIbans.has_ofList_mono hlisted)

/-- A card in the last second of its month and one in the year before, and a number of the sandbox
when another number is listed before it. -/
theorem acceptance_is_monotone_at_end_of_month :
    let lastSecond : Instant := ⟨1861919999, 999999999, by decide, by decide⟩
    let yearBefore : Instant := ⟨1830297599, 0, by decide, by decide⟩
    let listed := ["nl87 abna 0000 0000 01"]
    let listed' := ["DE00 1234", "nl87 abna 0000 0000 01"]
    let card : PaymentEntry := .creditCard "4111 1111 1111 1111" "123" 12 28 "J. Jansen"
    let debit : PaymentEntry := .directDebit "NL87ABNA0000000001" "J. Jansen" none
    listed ⊆ listed' ∧ yearBefore ≤ lastSecond ∧
      (∃ method, check ⟨.ofList listed, lastSecond⟩ card = .ok method ∧
        check ⟨.ofList listed', yearBefore⟩ card = .ok method) ∧
      (∃ method, check ⟨.ofList listed, lastSecond⟩ debit = .ok method ∧
        check ⟨.ofList listed', yearBefore⟩ debit = .ok method) ∧
      check ⟨.empty, lastSecond⟩ debit = check ⟨.empty, yearBefore⟩ debit ∧
      check ⟨.empty, lastSecond⟩ card = check ⟨.ofList listed, lastSecond⟩ card := by
  intro lastSecond yearBefore listed listed' card debit
  have hlisted : listed ⊆ listed' := List.subset_cons_self _ _
  have hnow : yearBefore ≤ lastSecond := .inl (by decide)
  have hgood : YearMonth.before ⟨2028, 12⟩ lastSecond.yearMonth = false := by decide
  have hcard : check ⟨.ofList listed, lastSecond⟩ card =
      .ok (.card ⟨"4111111111111111", by decide, by decide⟩ ⟨⟨2028, 12⟩, by decide, by decide⟩
        "J. Jansen") := check_eq_ok_iff.mpr
          (.card rfl rfl (CardExpiry.parse_eq_ok_iff.mpr ⟨rfl, rfl, hgood⟩) rfl)
  have hdebit : check ⟨.ofList listed, lastSecond⟩ debit =
      .ok (.directDebit ⟨"NL87ABNA0000000001", by decide⟩ "J. Jansen" none) := rfl
  obtain ⟨hmono, -, hsandbox⟩ := acceptance_is_monotone hlisted hnow card
  obtain ⟨hmono', htime, -⟩ := acceptance_is_monotone hlisted hnow debit
  exact ⟨hlisted, hnow, ⟨_, hcard, hmono _ hcard⟩, ⟨_, hdebit, hmono' _ hdebit⟩,
    htime (by decide) .empty lastSecond yearBefore, hsandbox (by decide) _ _ lastSecond⟩

end PaymentRules

end RentalGuard
