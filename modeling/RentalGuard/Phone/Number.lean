import RentalGuard.Payment.Fault
import RentalGuard.Text.Blank

/-! Phone numbers. Any number may be given in the international form or in a looser one. The
payment rails of a country take mobile numbers of that country only and keep them in the
international form. -/

namespace RentalGuard

/-- A phone number that has been checked. The country is known if a rail has checked it. -/
structure PhoneNumber where
  number : String
  country : Option MobileCountry
deriving DecidableEq, Repr

namespace PhoneNumber

/-- A character that only helps the eye. -/
def isPunctuation (c : Char) : Bool :=
  Text.isBlank c || c == '-' || c == '.' || c == '(' || c == ')' || c == '/'

/-- Leaves out blanks and punctuation. -/
def cleaned (raw : String) : String :=
  String.ofList (raw.toList.filter fun c => !isPunctuation c)

/-- The text without one leading plus sign. -/
def withoutPlus : List Char → List Char
  | '+' :: rest => rest
  | cs => cs

/-- The international form: a plus sign and seven to fifteen digits, of which the first is not
zero. -/
def isInternational (cs : List Char) : Bool :=
  match cs with
  | '+' :: first :: rest =>
    first.isDigit && first != '0' && rest.all Char.isDigit && 6 ≤ rest.length && rest.length ≤ 14
  | _ => false

/-- A character of the looser form. -/
def isLooseChar (c : Char) : Bool :=
  c.isDigit || Text.isBlank c || c == '-' || c == '(' || c == ')' || c == '.'

/-- The looser form: a plus sign or none, and seven to twenty digits, blanks, hyphens, points and
parentheses. -/
def isLoose (cs : List Char) : Bool :=
  let body := withoutPlus cs
  7 ≤ body.length && body.length ≤ 20 && body.all isLooseChar

/-- Reads a phone number of any country. -/
def parse (raw : String) : Except PaymentFault PhoneNumber :=
  let trimmed := Text.trimmed raw
  let text := cleaned trimmed
  let digits := withoutPlus text.toList
  if trimmed.toList.isEmpty then .error (.missing .phone)
  else if digits.isEmpty || !digits.all Char.isDigit then .error .phoneCharacters
  else if digits.length < phoneDigitRange.1 || phoneDigitRange.2 < digits.length then
    .error .phoneLength
  else if !isInternational text.toList && !isLoose trimmed.toList then .error .phoneFormat
  else .ok ⟨text, none⟩

/-- Whether these are the nine digits of a mobile subscriber. -/
def isSubscriber (country : MobileCountry) (cs : List Char) : Bool :=
  cs.length == 9 && cs.all Char.isDigit &&
    country.mobileStarts.any fun start => start.toList.isPrefixOf cs

/-- The subscriber's digits after one of the prefixes that the country allows. -/
def subscriber? (country : MobileCountry) (cs : List Char) : Option (List Char) :=
  country.dialPrefixes.findSome? fun dial =>
    let rest := cs.drop dial.toList.length
    if dial.toList.isPrefixOf cs && isSubscriber country rest then some rest else none

/-- Reads a mobile number of one country and writes it in the international form. -/
def parseMobile (country : MobileCountry) (raw : String) : Except PaymentFault PhoneNumber :=
  let text := cleaned raw
  if text.toList.isEmpty then .error (.missing .phone)
  else match subscriber? country text.toList with
    | some digits => .ok ⟨"+" ++ country.callingCode ++ String.ofList digits, some country⟩
    | none => .error (.foreignMobile country)

def digitCount (phone : PhoneNumber) : Nat := phone.number.toList.countP Char.isDigit

end PhoneNumber

end RentalGuard
