import RentalGuard.Calendar.Instant
import RentalGuard.Text.Numeral

/-! Instants in text. Years from 0 to 9999 have four digits and no sign, other years a sign and at
least four digits. A fraction is written with three, six or nine digits, the fewest that are
exact, and a leap second as second 60. -/

namespace RentalGuard.Timestamp

open Text

def yearChars (year : Int) : List Char :=
  if 0 ≤ year ∧ year ≤ 9999 then padded 4 year.toNat
  else (if year < 0 then '-' else '+') :: padded 4 year.natAbs

def dateChars (d : Date) : List Char :=
  yearChars d.year ++ '-' :: padded 2 d.month ++ '-' :: padded 2 d.day

/-- The fraction of a second. Nothing is written for a whole one. -/
def fractionChars (nanos : Nat) : List Char :=
  if nanos == 0 then []
  else if nanos % 1000000 == 0 then '.' :: padded 3 (nanos / 1000000)
  else if nanos % 1000 == 0 then '.' :: padded 6 (nanos / 1000)
  else '.' :: padded 9 nanos

def timeChars (t : Instant) : List Char :=
  let s := t.secondOfDay
  padded 2 (s / 3600) ++ ':' :: padded 2 (s / 60 % 60) ++
    ':' :: padded 2 (s % 60 + t.nanos / 1000000000) ++ fractionChars (t.nanos % 1000000000)

/-- The form in records, such as `2026-01-15T09:30:00Z`. -/
def chars (t : Instant) : List Char := dateChars t.date ++ 'T' :: timeChars t ++ ['Z']

def write (t : Instant) : String := String.ofList (chars t)

/-- The form for people, such as `2026-01-15 09:30:00 UTC`. -/
def display (t : Instant) : String :=
  String.ofList (dateChars t.date ++ ' ' :: timeChars t ++ [' ', 'U', 'T', 'C'])

end RentalGuard.Timestamp
