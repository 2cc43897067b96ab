import RentalGuard.Bank.Bic
import RentalGuard.Bank.Iban
import RentalGuard.Card.Expiry
import RentalGuard.Card.Number
import RentalGuard.Phone.Number

/-! Payment methods: what a customer enters, and what is kept of it once it has been checked. -/

namespace RentalGuard

/-- A payment method as a customer enters it. -/
inductive PaymentEntry where
  | creditCard (number securityCode : String) (expiryMonth : Nat) (expiryYear : Int)
      (holder : String)
  | directDebit (iban accountHolder : String) (bic : Option String)
  | ideal (issuer : Option String)
  | bankTransfer
  | bizum (phone : String)
  | mbWay (phone : String)
deriving DecidableEq, Repr

namespace PaymentEntry

/-- The name of the kind of method. -/
def kind : PaymentEntry → String
  | creditCard .. => "credit_card"
  | directDebit .. => "direct_debit"
  | ideal .. => "ideal"
  | bankTransfer => "bank_transfer"
  | bizum .. => "bizum"
  | mbWay .. => "mb_way"

/-- The text for diagnostics, which tells the kind only. -/
def describe (entry : PaymentEntry) : String :=
  "PaymentMethodDetails \x7b kind: " ++ Text.quoted entry.kind ++ ", .. \x7d"

end PaymentEntry

/-- A payment method that has been checked. The security code of a card is not kept. -/
inductive PaymentMethod where
  | card (number : CardNumber) (expiry : CardExpiry) (holder : String)
  | directDebit (iban : Iban) (accountHolder : String) (bic : Option Bic)
  | ideal (issuer : Option Bic)
  | bankTransfer
  | bizum (phone : PhoneNumber)
  | mbWay (phone : PhoneNumber)

/-- The code by which the payment gateway knows the method. For a card it tells the brand. -/
def PaymentMethod.gatewayCode : PaymentMethod → String
  | card number _ _ => number.brand.gatewayCode
  | directDebit .. => "DIRDEB"
  | ideal _ => "IDEAL"
  | bankTransfer => "BANKTRANS"
  | bizum _ => "BIZUM"
  | mbWay _ => "MBWAY"

/-- What a check depends on besides the entry. -/
structure PaymentRules where
  sandbox : SandboxIbans
  now : Instant

namespace PaymentRules

/-- The text for diagnostics. -/
def describe (rules : PaymentRules) : String :=
  "PaymentMethodValidator \x7b iban_validator: " ++ rules.sandbox.describe ++ ", .. \x7d"

/-- A name without the blanks around it. -/
def holderName (entry : RequiredEntry) (raw : String) : Except PaymentFault String :=
  if Text.isBlankText raw then .error (.missing entry) else .ok (Text.trimmed raw)

/-- A bank identifier code that may be left blank. -/
def optionalBic : Option String → Except PaymentFault (Option Bic)
  | some raw => if Text.isBlankText raw then .ok none else (Bic.parse raw).map some
  | none => .ok none

/-- Checks an entry part by part. The first fault is reported. -/
def check (rules : PaymentRules) : PaymentEntry → Except PaymentFault PaymentMethod
  | .creditCard number securityCode expiryMonth expiryYear holder => do
    let number ← CardNumber.parse number
    checkSecurityCode securityCode number.brand
    let expiry ← CardExpiry.parse expiryMonth expiryYear rules.now
    let holder ← holderName .cardHolder holder
    return .card number expiry holder
  | .directDebit iban accountHolder bic => do
    let iban ← Iban.parse rules.sandbox iban
    let accountHolder ← holderName .accountHolder accountHolder
    let bic ← optionalBic bic
    return .directDebit iban accountHolder bic
  | .ideal issuer => do
    let issuer ← optionalBic issuer
    return .ideal issuer
  | .bankTransfer => return .bankTransfer
  | .bizum phone => do
    let phone ← PhoneNumber.parseMobile .spain phone
    return .bizum phone
  | .mbWay phone => do
    let phone ← PhoneNumber.parseMobile .portugal phone
    return .mbWay phone

end PaymentRules

end RentalGuard
