/-! Dates of the proleptic Gregorian calendar. Days are counted from 1970-01-01. Years are counted
from March inside, so that the leap day ends its year. -/

namespace RentalGuard

structure Date where
  year : Int
  month : Nat
  day : Nat
deriving DecidableEq, Repr

/-- A month of a year. -/
structure YearMonth where
  year : Int
  month : Nat
deriving DecidableEq, Repr

/-- Whether `a` is earlier than `b`. -/
def YearMonth.before (a b : YearMonth) : Bool :=
  a.year < b.year || (a.year == b.year && a.month < b.month)

namespace Date

def isLeapYear (year : Int) : Bool := year % 4 == 0 && (year % 100 != 0 || year % 400 == 0)

def daysInMonth (year : Int) (month : Nat) : Nat :=
  if month == 2 then if isLeapYear year then 29 else 28
  else if month == 4 || month == 6 || month == 9 || month == 11 then 30
  else 31

/-- Whether the calendar has this date. -/
def isValid (d : Date) : Bool :=
  1 ≤ d.month && d.month ≤ 12 && 1 ≤ d.day && d.day ≤ daysInMonth d.year d.month

/-- The days from 0000-03-01 to 1970-01-01. -/
def epochOffset : Int := 719468

/-- The days from 1970-01-01, negative before it. -/
def toDays (d : Date) : Int :=
  let year := if d.month ≤ 2 then d.year - 1 else d.year
  let fromMarch := (d.month + 9) % 12
  let dayOfYear : Int := (153 * fromMarch + 2) / 5 + d.day - 1
  365 * year + year / 4 - year / 100 + year / 400 + dayOfYear - epochOffset

/-- The year and the day within it, both counted from March, of a day counted from
0000-03-01. Cycles of 400, 100 and 4 years are taken off one after the other; the last day of a
cycle belongs to its last part. -/
def yearAndDay (n : Int) : Int × Nat :=
  let inCycle := (n % 146097).toNat
  let century := min (inCycle / 36524) 3
  let inCentury := inCycle - century * 36524
  let quad := inCentury / 1461
  let inQuad := inCentury - quad * 1461
  let single := min (inQuad / 365) 3
  (400 * (n / 146097) + (100 * century + 4 * quad + single : Nat), inQuad - single * 365)

/-- The date of a day counted from 1970-01-01. -/
def ofDays (days : Int) : Date :=
  let (year, dayOfYear) := yearAndDay (days + epochOffset)
  let fromMarch := (5 * dayOfYear + 2) / 153
  let day := dayOfYear - (153 * fromMarch + 2) / 5 + 1
  let month := if fromMarch < 10 then fromMarch + 3 else fromMarch - 9
  ⟨if month ≤ 2 then year + 1 else year, month, day⟩

def yearMonth (d : Date) : YearMonth := ⟨d.year, d.month⟩

end Date

end RentalGuard
