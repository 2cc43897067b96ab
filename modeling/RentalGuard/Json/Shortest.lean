import RentalGuard.Json.Number

/-! The text of a double: of the decimals next to it one with the fewest digits. It is searched for
on ever finer grids of decimals. -/

namespace RentalGuard

/-- A whole number times a power of ten. -/
structure Decimal where
  coefficient : Nat
  exponent : Int
deriving DecidableEq

namespace Decimal

/-- The double next to the decimal, in units. -/
def units (d : Decimal) : Nat :=
  nearest (d.coefficient * unitsOfOne * Nat.pow 10 d.exponent.toNat)
    (Nat.pow 10 (-d.exponent).toNat)

/-- The whole numbers on either side of a quotient, the nearer one first. -/
def neighbours (num den : Nat) : List Nat :=
  let near := roundedQuotient num den
  [near, if near = num / den then near + 1 else num / den]

/-- A decimal with this exponent that has the double next to it. Only the two on either side of the
double can have. -/
def onGrid? (units : Nat) (exponent : Int) : Option Decimal :=
  let num := units * Nat.pow 10 (-exponent).toNat
  let den := unitsOfOne * Nat.pow 10 exponent.toNat
  ((neighbours num den).map fun m => ⟨m, exponent⟩).find? fun d : Decimal => d.units == units

/-- The exponent of the grid that has all doubles. -/
def finest : Int := -(unitPlaces : Int)

/-- The decimal on the first grid that has one, from the grid so many places above the finest one
on. -/
def shortest (units : Nat) : Nat → Decimal
  | 0 => ⟨units * Nat.pow 5 unitPlaces, finest⟩
  | places + 1 => (onGrid? units (finest + (places + 1 : Nat))).getD (shortest units places)

/-- The parts of the written number. The digits are filled up with zeros, or have a point in them or
zeros in front, as long as the point is not too far away. -/
def numeral (negative : Bool) (d : Decimal) : Json.Numeral :=
  let digits := (toString d.coefficient).toList
  let point := digits.length + d.exponent
  if 0 ≤ d.exponent ∧ point ≤ 16 then
    ⟨negative, digits ++ List.replicate d.exponent.toNat '0', ['0'], none⟩
  else if 0 < point ∧ point ≤ 16 then
    ⟨negative, digits.take point.toNat, digits.drop point.toNat, none⟩
  else if -5 < point ∧ point ≤ 0 then
    ⟨negative, ['0'], List.replicate (-point).toNat '0' ++ digits, none⟩
  else ⟨negative, digits.take 1, digits.drop 1, some (point - 1)⟩

end Decimal

namespace Json.Numeral

def fractionChars : List Char → List Char
  | [] => []
  | ds => '.' :: ds

def exponentChars : Option Int → List Char
  | none => []
  | some n => 'e' :: (if n < 0 then '-' else '+') :: (toString n.natAbs).toList

/-- The characters with which the number is written. -/
def chars (n : Numeral) : List Char :=
  (if n.negative then ['-'] else []) ++ n.whole ++ fractionChars n.fraction ++
    exponentChars n.exponent

end Json.Numeral

namespace Double

/-- The decimal for which the double is written. It does not have more places before the point than
the double has binary ones. -/
def decimal (d : Double) : Decimal :=
  if d.units = 0 then ⟨0, 0⟩
  else .shortest d.units ((d.units / unitsOfOne).log2 + unitPlaces)

/-- The parts of the written double. -/
def numeral (d : Double) : Json.Numeral := d.decimal.numeral d.negative

/-- The characters of the double. -/
def chars (d : Double) : List Char := d.numeral.chars

end Double

end RentalGuard
