import RentalGuard.Text.Numeral

/-! The check number of an account number (MOD 97-10). The first four characters move to the end,
each letter becomes its number from 10 to 35, and the digits so written make one number, of which
the remainder by 97 is taken. -/

namespace RentalGuard.Checksum

/-- Appends the number of one character to the digits before it. -/
def append (n value : Nat) : Nat := if value < 10 then n * 10 + value else n * 100 + value

/-- The remainder after one more character. Taking it at each step keeps the number small. -/
def step? (remainder : Nat) (c : Char) : Option Nat :=
  (Text.digit36? c).map fun value => append remainder value % 97

/-- The text with its first four characters at the end. -/
def rotated (cs : List Char) : List Char := cs.drop 4 ++ cs.take 4

/-- The remainder by 97; `none` for a text that is too short or has a character that is neither
a letter nor a digit. -/
def remainder? (cs : List Char) : Option Nat :=
  if cs.length < 4 then none else (rotated cs).foldlM step? 0

end RentalGuard.Checksum
