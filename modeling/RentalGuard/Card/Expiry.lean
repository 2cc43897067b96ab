import RentalGuard.Calendar.Instant
import RentalGuard.Payment.Fault

/-! When a card expires. A card is good until its month has ended. -/

namespace RentalGuard

/-- The month at whose end a card expires. -/
structure CardExpiry extends YearMonth where
  monthInRange : 1 ≤ month ∧ month ≤ 12
  yearInRange : 1000 ≤ year ∧ year ≤ 9999
deriving DecidableEq

namespace CardExpiry

/-- The year that is meant: two digits belong to this century. -/
def fullYear (year : Int) : Int := if 0 ≤ year ∧ year ≤ 99 then 2000 + year else year

/-- Reads the month and year of a card that is presented at the time `now`. -/
def parse (month : Nat) (year : Int) (now : Instant) : Except PaymentFault CardExpiry :=
  if hm : 1 ≤ month ∧ month ≤ 12 then
    if hy : 1000 ≤ fullYear year ∧ fullYear year ≤ 9999 then
      let expiry : CardExpiry := ⟨⟨fullYear year, month⟩, hm, hy⟩
      if expiry.toYearMonth.before now.yearMonth then .error .cardExpired else .ok expiry
    else .error .expiryYear
  else .error .expiryMonth

end CardExpiry

end RentalGuard
