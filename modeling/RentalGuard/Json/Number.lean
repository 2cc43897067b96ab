import RentalGuard.Json.Basic

/-! Numbers in a JSON text. A number without fraction and exponent that fits in 64 bits is exact.
Any other number is a double, which is found in steps: the digits that 64 bits can hold, rounded to
a double, times or by a power of ten, which is a double too. The roundings add up, so the double is
not always the one next to the number as written, and some numbers a little below the greatest
double are refused. -/

namespace RentalGuard.Json

/-! ## Digits -/

/-- The digits before the point: a single zero, or no zero in front. -/
def wholeDigits? : List Char → Option (List Char)
  | ['0'] => some ['0']
  | '0' :: _ => none
  | [] => none
  | ds => if ds.all Char.isDigit then some ds else none

/-- A minus sign, if there is one, and what follows it. -/
def splitMinus : List Char → Bool × List Char
  | '-' :: rest => (true, rest)
  | cs => (false, cs)

/-- A point, if there is one, with digits after it, and what follows them. -/
def splitFraction? : List Char → Option (List Char × List Char)
  | '.' :: rest =>
    let digits := rest.takeWhile Char.isDigit
    if digits.isEmpty then none else some (digits, rest.dropWhile Char.isDigit)
  | cs => some ([], cs)

/-- The exponent after the letter e: a sign or none, then digits. -/
def exponent? (cs : List Char) : Option Int :=
  let (negative, ds) : Bool × List Char := match cs with
    | '-' :: ds => (true, ds)
    | '+' :: ds => (false, ds)
    | ds => (false, ds)
  if ds.isEmpty || !ds.all Char.isDigit then none
  else
    let n : Int := Nat.ofDigitChars 10 ds 0
    some (if negative then -n else n)

/-- An exponent with its letter, or nothing. -/
def exponentPart? : List Char → Option (Option Int)
  | [] => some none
  | e :: rest => if e == 'e' || e == 'E' then (exponent? rest).map some else none

/-- The parts of a number as it is written. -/
structure Numeral where
  negative : Bool
  /-- The digits before the point. -/
  whole : List Char
  /-- The digits after the point. Without them there is no point. -/
  fraction : List Char
  exponent : Option Int

/-- Reads the characters of a number. -/
def numeral? (cs : List Char) : Option Numeral := do
  let (negative, body) := splitMinus cs
  let whole ← wholeDigits? (body.takeWhile Char.isDigit)
  let (fraction, rest) ← splitFraction? (body.dropWhile Char.isDigit)
  let exponent ← exponentPart? rest
  return ⟨negative, whole, fraction, exponent⟩

/-! ## Values -/

/-- Appends digits to a number as long as it fits in 64 bits. The second part says how many digits
are left then. -/
def appendDigits : Nat → List Char → Nat × Nat
  | n, [] => (n, 0)
  | n, d :: rest =>
    let more := n * 10 + (d.toNat - '0'.toNat)
    if more < 0x10000000000000000 then appendDigits more rest else (n, rest.length + 1)

/-- A number of 64 bits times a power of ten. -/
structure Scaled where
  significand : Nat
  exponent : Int

/-- The number with these digits before and after the point and this exponent. Of the digits that
are left over, those before the point move the point and those after it are dropped. -/
def Scaled.ofDigits (whole fraction : List Char) (exponent : Int) : Scaled :=
  let (n, leftWhole) := appendDigits 0 whole
  let (significand, leftFraction) := appendDigits n fraction
  ⟨significand, exponent + leftWhole - (fraction.length - leftFraction : Nat)⟩

/-- The double next to a power of ten. Those above the 308th are not doubles. -/
def tenTo (places : Nat) : Nat := nearest (Nat.pow 10 places) 1

/-- A double after so many divisions by the 308th power of ten. Zero is not divided any more. -/
def scaledDown : Nat → Nat → Nat
  | 0, units => units
  | times + 1, units => if units = 0 then 0 else scaledDown times (nearest units (tenTo 308))

/-- The double for a scaled number, unless it is too large. -/
def Scaled.double? (negative : Bool) (s : Scaled) : Option Double :=
  let units := nearest (s.significand * unitsOfOne) 1
  match s.exponent with
  | .ofNat places =>
    if s.significand = 0 then some (.zero negative)
    else if 308 < places then none
    else Double.nearest? negative (units * tenTo places) 1
  | .negSucc n => Double.nearest? negative (scaledDown (n / 308) units) (tenTo (n % 308 + 1))

namespace Numeral

/-- The number, if it is written without fraction and exponent and fits in 64 bits. Zero with a
sign does not. -/
def integer? (n : Numeral) : Option Int :=
  let magnitude := Nat.ofDigitChars 10 n.whole 0
  if n.fraction.isEmpty && n.exponent.isNone then
    if n.negative then
      if magnitude ≠ 0 ∧ magnitude ≤ 0x8000000000000000 then some (-(magnitude : Int)) else none
    else if magnitude < 0x10000000000000000 then some magnitude
    else none
  else none

def double? (n : Numeral) : Option Double :=
  (Scaled.ofDigits n.whole n.fraction (n.exponent.getD 0)).double? n.negative

def value (n : Numeral) : Json :=
  match n.integer?, n.double? with
  | some i, _ => integer i
  | none, some d => double d
  | none, none => unreadable

end Numeral

/-- The value of the characters of a number. -/
def number? (cs : List Char) : Option Json := (numeral? cs).map Numeral.value

end RentalGuard.Json
