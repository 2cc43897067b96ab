import RentalGuard.Card.Brand
import RentalGuard.Card.Luhn
import RentalGuard.Payment.Fault
import RentalGuard.Text.Blank
import RentalGuard.Text.Quoted

/-! Card numbers. A number is secret: whatever is shown of it shows the last four digits only. -/

namespace RentalGuard

/-- A card number that has been checked. -/
structure CardNumber where
  digits : String
  lengthInRange :
    cardDigitRange.1 ≤ digits.toList.length ∧ digits.toList.length ≤ cardDigitRange.2
  luhn : Luhn.isValid digits.toList = true

namespace CardNumber

/-- Leaves out blanks and hyphens. -/
def cleaned (raw : String) : String :=
  String.ofList (raw.toList.filter fun c => !Text.isBlank c && c != '-')

def parse (raw : String) : Except PaymentFault CardNumber :=
  let digits := cleaned raw
  if digits.toList.isEmpty then .error (.missing .cardNumber)
  else if !digits.toList.all Char.isDigit then .error .cardNumberCharacters
  else if hl : cardDigitRange.1 ≤ digits.toList.length ∧
      digits.toList.length ≤ cardDigitRange.2 then
    if hs : Luhn.isValid digits.toList = true then .ok ⟨digits, hl, hs⟩
    else .error .cardNumberChecksum
  else .error .cardNumberLength

def brand (number : CardNumber) : CardBrand := CardBrand.detect number.digits

def lastFour (number : CardNumber) : String :=
  String.ofList (number.digits.toList.drop (number.digits.toList.length - 4))

/-- The text that stands for the number. -/
def masked (number : CardNumber) : String := "**** " ++ number.lastFour

/-- The text for diagnostics. -/
def describe (number : CardNumber) : String :=
  "CardNumber \x7b brand: " ++ number.brand.label ++ ", last4: " ++ Text.quoted number.lastFour ++
    " \x7d"

end CardNumber

/-- Checks the security code of a card. The code itself is not kept. -/
def checkSecurityCode (code : String) (brand : CardBrand) : Except PaymentFault Unit :=
  let digits := Text.trim code.toList
  if digits.isEmpty then .error (.missing .securityCode)
  else if !digits.all Char.isDigit then .error .securityCodeCharacters
  else if digits.length != brand.securityCodeLength then
    .error (.securityCodeLength brand.securityCodeLength)
  else .ok ()

end RentalGuard
