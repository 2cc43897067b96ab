import RentalGuard.Text.Bytes
import RentalGuard.Text.Numeral

/-! Card brands, recognised by the first digits of the number. The brand decides how long the
security code is; whether a number is valid does not depend on it. -/

namespace RentalGuard

inductive CardBrand where
  | visa
  | mastercard
  | amex
  | discover
  | dinersClub
  | jcb
  | maestro
  | unknown
deriving DecidableEq, Repr

/-- The first `length` characters, read as a number, lie between `least` and `greatest`. -/
structure PrefixRule where
  length : Nat
  least : Nat
  greatest : Nat

/-- Whether a number starts as the rule says. A plus sign is read as part of the numeral. -/
def PrefixRule.admits (rule : PrefixRule) (cs : List Char) : Bool :=
  rule.length ≤ cs.length &&
    match Text.unsigned? 0x100000000 (cs.take rule.length) with
    | some n => rule.least ≤ n && n ≤ rule.greatest
    | none => false

/-- The same test on the bytes of a number. A start that would end inside a character is none. -/
def PrefixRule.admitsBytes (rule : PrefixRule) (digits : String) : Bool :=
  match (Text.before? digits rule.length).bind fun start =>
      Text.unsigned? 0x100000000 start.toList with
  | some n => rule.least ≤ n && n ≤ rule.greatest
  | none => false

namespace CardBrand

/-- The brands that have prefixes of their own. -/
def recognised : List CardBrand := [amex, visa, mastercard, discover, dinersClub, jcb, maestro]

/-- All brands, and the unknown one last. -/
def all : List CardBrand := recognised ++ [unknown]

/-- The prefixes of a brand. -/
def prefixRules : CardBrand → List PrefixRule
  | amex => [⟨2, 34, 34⟩, ⟨2, 37, 37⟩]
  | visa => [⟨1, 4, 4⟩]
  | mastercard => [⟨2, 51, 55⟩, ⟨4, 2221, 2720⟩]
  | discover => [⟨4, 6011, 6011⟩, ⟨3, 644, 649⟩, ⟨2, 65, 65⟩]
  | dinersClub => [⟨3, 300, 305⟩, ⟨2, 36, 36⟩, ⟨2, 38, 38⟩]
  | jcb => [⟨4, 3528, 3589⟩]
  | maestro =>
    [⟨2, 50, 50⟩, ⟨2, 56, 58⟩, ⟨4, 6304, 6304⟩, ⟨4, 6759, 6759⟩, ⟨6, 676770, 676770⟩,
      ⟨6, 676774, 676774⟩]
  | unknown => []

/-- Whether one of the brand's prefixes fits. -/
def admits (brand : CardBrand) (cs : List Char) : Bool := brand.prefixRules.any (·.admits cs)

/-- The brand of a number, or of the beginning of one. -/
def detect (digits : String) : CardBrand :=
  (recognised.find? (·.admits digits.toList)).getD unknown

/-- The brand that is found on the bytes, if the brands are tried in the order of the list. -/
def detectAmong (order : List CardBrand) (digits : String) : CardBrand :=
  (order.find? fun brand => brand.prefixRules.any (·.admitsBytes digits)).getD unknown

/-- The name in records. -/
def name : CardBrand → String
  | visa => "visa"
  | mastercard => "mastercard"
  | amex => "amex"
  | discover => "discover"
  | dinersClub => "diners_club"
  | jcb => "jcb"
  | maestro => "maestro"
  | unknown => "unknown"

def ofName? (s : String) : Option CardBrand := all.find? (·.name == s)

/-- The name in diagnostics. -/
def label : CardBrand → String
  | visa => "Visa"
  | mastercard => "Mastercard"
  | amex => "Amex"
  | discover => "Discover"
  | dinersClub => "DinersClub"
  | jcb => "Jcb"
  | maestro => "Maestro"
  | unknown => "Unknown"

/-- The number of digits of the security code. -/
def securityCodeLength : CardBrand → Nat
  | amex => 4
  | _ => 3

/-- The code by which the payment gateway knows the brand. -/
def gatewayCode : CardBrand → String
  | visa => "VISA"
  | mastercard => "MASTERCARD"
  | amex => "AMEX"
  | maestro => "MAESTRO"
  | discover | dinersClub | jcb | unknown => "CREDITCARD"

end CardBrand

end RentalGuard
