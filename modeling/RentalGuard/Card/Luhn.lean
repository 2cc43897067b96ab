/-! The Luhn checksum: from the right, every second digit counts double, a doubled digit above nine
counts nine less, and the sum is a multiple of ten. -/

namespace RentalGuard.Luhn

/-- What a doubled digit counts. -/
def doubled (d : Nat) : Nat := if d * 2 > 9 then d * 2 - 9 else d * 2

/-- The sum over digits that stand in the order from right to left. `double` tells whether the
first of them counts double. -/
def sum : Bool → List Nat → Nat
  | _, [] => 0
  | double, d :: rest => (if double then doubled d else d) + sum (!double) rest

def digitValue (c : Char) : Nat := c.toNat - 48

/-- Whether the text consists of digits, has at least one, and the sum is a multiple of ten. -/
def isValid (digits : List Char) : Bool :=
  !digits.isEmpty && digits.all Char.isDigit && sum false (digits.reverse.map digitValue) % 10 == 0

theorem isValid_iff {digits : List Char} : isValid digits = true ↔
    digits ≠ [] ∧ (∀ c ∈ digits, c.isDigit = true) ∧
      sum false (digits.reverse.map digitValue) % 10 = 0 := by
  rw [isValid, Bool.and_eq_true, Bool.and_eq_true, Bool.not_eq_true', List.isEmpty_eq_false_iff,
    List.all_eq_true, beq_iff_eq, and_assoc]

end RentalGuard.Luhn
