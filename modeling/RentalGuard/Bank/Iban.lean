import RentalGuard.Bank.Checksum
import RentalGuard.Bank.Compact
import RentalGuard.Bank.IbanLength
import RentalGuard.Distinct
import RentalGuard.Payment.Fault
import RentalGuard.Text.Quoted

/-! International bank account numbers: two letters for the country, two check digits and up to
thirty characters for the account. -/

namespace RentalGuard

/-- The numbers whose check digits are not looked at, as a payment gateway hands them out for
trials. -/
structure SandboxIbans where
  /-- In compact form, none of them empty and none twice. -/
  entries : List String
  nonempty : "" ∉ entries
  unrepeated : entries.Nodup

namespace SandboxIbans

/-- No number is exempt. -/
def empty : SandboxIbans := ⟨[], by simp, by simp⟩

/-- The texts in compact form, without blank ones. -/
def ofList (texts : List String) : SandboxIbans :=
  ⟨distinct ((texts.map compactForm).filter (· ≠ "")), by simp, nodup_distinct _⟩

/-- Whether a text, taken as it is, is among them. -/
def has (sandbox : SandboxIbans) (text : String) : Bool := sandbox.entries.contains text

/-- The text for diagnostics. -/
def describe (sandbox : SandboxIbans) : String :=
  "IbanValidator \x7b sandbox_ibans: \x7b" ++
    ", ".intercalate (sandbox.entries.map Text.quoted) ++ "\x7d \x7d"

end SandboxIbans

namespace Iban

/-- An upper-case letter or a digit. -/
def isAccountChar (c : Char) : Bool := c.isUpper || c.isDigit

/-- Country, check digits, and one to thirty characters of one kind for the account. -/
def hasShape (kind : Char → Bool) (cs : List Char) : Bool :=
  5 ≤ cs.length && cs.length ≤ 34 && (cs.take 2).all Char.isUpper &&
    ((cs.drop 2).take 2).all Char.isDigit && (cs.drop 4).all kind

/-- The shape of an account number. -/
def isWellFormed (cs : List Char) : Bool := hasShape isAccountChar cs

/-- The shape that is asked for. Letters of either case may stand in the account. -/
def isPlausible (cs : List Char) : Bool := hasShape Char.isAlphanum cs

theorem hasShape_of_imp {kind other : Char → Bool} {cs : List Char}
    (h : ∀ c ∈ cs, kind c = true → other c = true) (hshape : hasShape kind cs = true) :
    hasShape other cs = true := by
  simp only [hasShape, Bool.and_eq_true, List.all_eq_true] at hshape ⊢
  exact ⟨hshape.1, fun c hc => h c (List.mem_of_mem_drop hc) (hshape.2 c hc)⟩

/-- A compact form has no letters in lower case, so it is enough that it is plausible. -/
theorem isWellFormed_compactForm {raw : String}
    (h : isPlausible (compactForm raw).toList = true) :
    isWellFormed (compactForm raw).toList = true := by
  refine hasShape_of_imp (fun c hc hkind => ?_) h
  rw [Text.isAlphanum_iff, isLower_of_mem_compactForm hc] at hkind
  rw [isAccountChar, Bool.or_eq_true]
  exact hkind.imp_right fun hrest => hrest.resolve_left Bool.false_ne_true

theorem isPlausible_of_isWellFormed {cs : List Char} (h : isWellFormed cs = true) :
    isPlausible cs = true :=
  hasShape_of_imp (fun _ _ hkind =>
    Text.isAlphanum_iff.mpr ((Bool.or_eq_true_iff.mp hkind).imp_right .inr)) h

end Iban

/-- An account number that has been checked, in compact form. -/
structure Iban where
  text : String
  wellFormed : Iban.isWellFormed text.toList = true
deriving DecidableEq

namespace Iban

def countryOf (text : String) : String := String.ofList (text.toList.take 2)

/-- Reads an account number. Only the check of the check digits is waived for the numbers of the
sandbox. -/
def parse (sandbox : SandboxIbans) (raw : String) : Except PaymentFault Iban :=
  let text := compactForm raw
  if text.toList.isEmpty then .error (.missing .iban)
  else if h : isPlausible text.toList = true then
    match ibanLength? (countryOf text) with
    | some expected =>
      if text.toList.length == expected then accept text (isWellFormed_compactForm h)
      else .error (.ibanLength (countryOf text) expected)
    | none => accept text (isWellFormed_compactForm h)
  else .error .ibanFormat
where
  accept (text : String) (h : isWellFormed text.toList = true) : Except PaymentFault Iban :=
    if sandbox.has text || Checksum.remainder? text.toList == some 1 then .ok ⟨text, h⟩
    else .error .ibanChecksum

def country (iban : Iban) : String := countryOf iban.text

def checkDigits (iban : Iban) : String := String.ofList ((iban.text.toList.drop 2).take 2)

/-- The part for the account. -/
def account (iban : Iban) : String := String.ofList (iban.text.toList.drop 4)

/-- Blocks of four characters; the last one may be shorter. -/
def blocks : List Char → List (List Char)
  | a :: b :: c :: d :: rest => [a, b, c, d] :: blocks rest
  | [] => []
  | rest => [rest]

/-- A text in blocks of four characters with spaces between. -/
def grouped (text : String) : String :=
  String.ofList ([' '].intercalate (blocks text.toList))

def formatted (iban : Iban) : String := grouped iban.text

/-- The text for diagnostics: the country and the last four characters. -/
def describe (iban : Iban) : String :=
  let cs := iban.text.toList
  "Iban(" ++
    Text.quoted (iban.country ++ "…" ++ String.ofList (cs.drop (cs.length - 4))) ++ ")"

end Iban

end RentalGuard
