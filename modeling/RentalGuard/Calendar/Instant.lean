import RentalGuard.Calendar.Date

/-! Points in time, to the nanosecond. Seconds are counted from 1970-01-01T00:00:00 UTC without
leap seconds. A leap second has the number of the second before it and a fraction of one or more. -/

namespace RentalGuard

/-- The first second of the year -262143. -/
def firstSecond : Int := -8334601228800

/-- The last second of the year 262142. -/
def lastSecond : Int := 8210266876799

structure Instant where
  seconds : Int
  nanos : Nat
  inRange : firstSecond ≤ seconds ∧ seconds ≤ lastSecond
  fraction : nanos < 1000000000 ∨ nanos < 2000000000 ∧ seconds % 60 = 59
deriving DecidableEq

namespace Instant

/-- The instant with these parts, if there is one. -/
def ofParts? (seconds : Int) (nanos : Nat) : Option Instant :=
  if h : firstSecond ≤ seconds ∧ seconds ≤ lastSecond then
    if hn : nanos < 1000000000 ∨ nanos < 2000000000 ∧ seconds % 60 = 59 then
      some ⟨seconds, nanos, h, hn⟩
    else none
  else none

def date (t : Instant) : Date := Date.ofDays (t.seconds / 86400)

/-- The seconds since midnight. -/
def secondOfDay (t : Instant) : Nat := (t.seconds % 86400).toNat

def yearMonth (t : Instant) : YearMonth := t.date.yearMonth

end Instant

end RentalGuard
