import RentalGuard.Bank.BicCountry
import RentalGuard.Bank.Compact
import RentalGuard.Payment.Fault

/-! Bank identifier codes: four letters for the bank, two for the country, two characters for the
location and, if the code is not that of the head office, three for the branch. -/

namespace RentalGuard

namespace Bic

def isCodeChar (c : Char) : Bool := c.isUpper || c.isDigit

/-- The first character of a location is neither 0 nor 1. -/
def isLocationStart (c : Char) : Bool := isCodeChar c && c != '0' && c != '1'

/-- The second character of a location is not the letter O. -/
def isLocationEnd (c : Char) : Bool := isCodeChar c && c != 'O'

/-- Six letters, the location, and three characters or none for the branch. -/
def isWellFormed (cs : List Char) : Bool :=
  (cs.length == 8 || cs.length == 11) && (cs.take 6).all Char.isUpper &&
    ((cs.drop 6).take 1).all isLocationStart && ((cs.drop 7).take 1).all isLocationEnd &&
    (cs.drop 8).all isCodeChar

end Bic

/-- A bank identifier code that has been checked, in compact form. -/
structure Bic where
  text : String
  wellFormed : Bic.isWellFormed text.toList = true
deriving DecidableEq

namespace Bic

def countryOf (text : String) : String := String.ofList ((text.toList.drop 4).take 2)

def parse (raw : String) : Except PaymentFault Bic :=
  let text := compactForm raw
  if text.toList.isEmpty then .error (.missing .bic)
  else if text.toList.length != 8 && text.toList.length != 11 then .error .bicLength
  else if h : isWellFormed text.toList = true then
    if isBicCountry (countryOf text) then .ok ⟨text, h⟩
    else .error (.bicCountry (countryOf text))
  else .error .bicFormat

/-- The branch of a code that names none. -/
def headOffice : String := "XXX"

def bank (bic : Bic) : String := String.ofList (bic.text.toList.take 4)

def country (bic : Bic) : String := countryOf bic.text

def location (bic : Bic) : String := String.ofList ((bic.text.toList.drop 6).take 2)

def branch (bic : Bic) : String :=
  if bic.text.toList.length == 8 then headOffice else String.ofList (bic.text.toList.drop 8)

end Bic

end RentalGuard
