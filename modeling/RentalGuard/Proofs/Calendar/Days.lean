import RentalGuard.Calendar.Instant

/-! # Days and dates

Every day has one date, which the calendar has, and the day can be computed from the date. A later
day is never in an earlier month. Years are counted from March here, so that the day that is added
in some years is the last one.
-/

namespace RentalGuard

theorem YearMonth.before_iff {a b : YearMonth} :
    a.before b = true ↔ a.year < b.year ∨ a.year = b.year ∧ a.month < b.month := by
  simp only [before, Bool.or_eq_true, Bool.and_eq_true, decide_eq_true_eq, beq_iff_eq]

namespace Date

/-! ## Years that begin in March -/

theorem isLeapYear_iff {year : Int} :
    isLeapYear year = true ↔ year % 4 = 0 ∧ (year % 100 ≠ 0 ∨ year % 400 = 0) := by
  simp only [isLeapYear, Bool.and_eq_true, Bool.or_eq_true, beq_iff_eq, bne_iff_ne]

/-- The days from 0000-03-01 to the first of March of a year. -/
def daysBefore (year : Int) : Int := 365 * year + year / 4 - year / 100 + year / 400

/-- A year that begins in March ends with the February of the next year. -/
theorem daysBefore_succ (year : Int) :
    daysBefore (year + 1) = daysBefore year + if isLeapYear (year + 1) then 366 else 365 := by
  unfold daysBefore
  split
  · rename_i hleap
    have := isLeapYear_iff.mp hleap
    omega
  · rename_i hcommon
    have := mt isLeapYear_iff.mpr hcommon
    omega

theorem daysBefore_mono {year other : Int} (h : year ≤ other) :
    daysBefore year ≤ daysBefore other := by
  unfold daysBefore
  omega

/-- The days before a year, which is told by cycles of 400, 100 and 4 years. -/
theorem daysBefore_cycles (cycles : Int) {centuries quads singles : Nat} (hc : centuries ≤ 3)
    (hq : quads ≤ 24) (hs : singles ≤ 3) :
    daysBefore (400 * cycles + (100 * centuries + 4 * quads + singles : Nat)) =
      146097 * cycles + 36524 * centuries + 1461 * quads + 365 * singles := by
  generalize hy : 400 * cycles + ((100 * centuries + 4 * quads + singles : Nat) : Int) = year
  have h4 : year / 4 = 100 * cycles + 25 * centuries + quads := by omega
  have h100 : year / 100 = 4 * cycles + centuries := by omega
  have h400 : year / 400 = cycles := by omega
  unfold daysBefore
  omega

/-- A day is in the year that it is given, and before the end of this year. -/
theorem yearAndDay_spec (n : Int) :
    n = daysBefore (yearAndDay n).1 + (yearAndDay n).2 ∧
      n < daysBefore ((yearAndDay n).1 + 1) := by
  unfold yearAndDay
  simp only
  have hcycle : n = 146097 * (n / 146097) + (n % 146097).toNat ∧ (n % 146097).toNat < 146097 := by
    omega
  generalize n / 146097 = cycles at hcycle ⊢
  generalize (n % 146097).toNat = inCycle at hcycle ⊢
  -- the last century of a cycle and the last year of four can be one day longer than the others
  have hcentury : ∃ century inCentury, min (inCycle / 36524) 3 = century ∧
      inCycle - century * 36524 = inCentury ∧ inCycle = 36524 * century + inCentury ∧
      (century < 3 ∧ inCentury < 36524 ∨ century = 3 ∧ inCentury ≤ 36524) :=
    ⟨_, _, rfl, rfl, by omega, by omega⟩
  obtain ⟨century, inCentury, hc, hin, hsplit, hlast⟩ := hcentury
  rw [hc, hin]
  have hquad : ∃ quad inQuad, inCentury / 1461 = quad ∧ inCentury - quad * 1461 = inQuad ∧
      inCentury = 1461 * quad + inQuad ∧ quad ≤ 24 ∧ inQuad < 1461 :=
    ⟨_, _, rfl, rfl, by omega, by omega, by omega⟩
  obtain ⟨quad, inQuad, hq, hinq, hsplitq, hquadle, hinlt⟩ := hquad
  rw [hq, hinq]
  have hsingle : ∃ single day, min (inQuad / 365) 3 = single ∧ inQuad - single * 365 = day ∧
      inQuad = 365 * single + day ∧ (single < 3 ∧ day < 365 ∨ single = 3 ∧ day ≤ 365) :=
    ⟨_, _, rfl, rfl, by omega, by omega⟩
  obtain ⟨single, day, hs, hday, hsplits, hends⟩ := hsingle
  rw [hs, hday, daysBefore_succ, daysBefore_cycles cycles (by omega) hquadle (by omega)]
  refine ⟨by omega, ?_⟩
  split
  · omega
  · -- the last day of four years is missing only at the end of three centuries out of four
    rename_i hcommon
    have hleap := mt isLeapYear_iff.mpr hcommon
    have hshort : day < 365 := by omega
    omega

/-! ## Months -/

/-- The month that is counted from March as number `m`, from zero on. -/
def monthFromMarch (m : Nat) : Nat := if m < 10 then m + 3 else m - 9

/-- The days from the first of March to the first of month `m`. -/
def daysBeforeMonth (m : Nat) : Nat := (153 * m + 2) / 5

theorem daysInMonth_of_ne {month : Nat} (h : month ≠ 2) (year other : Int) :
    daysInMonth year month = daysInMonth other month := by
  simp [daysInMonth, h]

/-- The months from March to January are as long in every year. -/
theorem daysInMonth_monthFromMarch (year : Int) {m : Nat} (hm : m ≤ 10) :
    daysBeforeMonth m + daysInMonth year (monthFromMarch m) = daysBeforeMonth (m + 1) := by
  have hcases : ∀ m ≤ 10, daysBeforeMonth m + daysInMonth 0 (monthFromMarch m) =
      daysBeforeMonth (m + 1) ∧ monthFromMarch m ≠ 2 := by decide
  obtain ⟨hdays, hne⟩ := hcases m hm
  rw [daysInMonth_of_ne hne year 0, hdays]

/-- A year that begins in March ends with February. -/
theorem daysBefore_february (year : Int) :
    daysBefore year + daysBeforeMonth 11 + daysInMonth (year + 1) 2 = daysBefore (year + 1) := by
  have hfebruary : daysInMonth (year + 1) 2 = if isLeapYear (year + 1) then 29 else 28 := rfl
  have hbefore : daysBeforeMonth 11 = 337 := rfl
  rw [daysBefore_succ, hfebruary, hbefore]
  split <;> omega

/-- The year that begins in March to which a date belongs. -/
def marchYear (d : Date) : Int := if d.month ≤ 2 then d.year - 1 else d.year

/-- The number of the month of a date, counted from March. -/
def marchMonth (d : Date) : Nat := (d.month + 9) % 12

theorem toDays_eq (d : Date) : d.toDays =
    daysBefore d.marchYear + daysBeforeMonth d.marchMonth + d.day - 1 - epochOffset := by
  have hmonth : ((daysBeforeMonth d.marchMonth : Nat) : Int) =
      (153 * ((d.month + 9) % 12 : Nat) + 2) / 5 := by
    unfold daysBeforeMonth marchMonth
    omega
  rw [hmonth]
  unfold toDays daysBefore marchYear
  simp only
  omega

theorem isValid_iff {d : Date} : d.isValid = true ↔
    1 ≤ d.month ∧ d.month ≤ 12 ∧ 1 ≤ d.day ∧ d.day ≤ daysInMonth d.year d.month := by
  simp only [isValid, Bool.and_eq_true, decide_eq_true_eq, and_assoc]

/-! ## From days to dates and back -/

/-- The month of a day of the year is the one that has begun and has not ended. -/
theorem month_spec {day : Nat} (h : day ≤ 365) : (5 * day + 2) / 153 ≤ 11 ∧
    daysBeforeMonth ((5 * day + 2) / 153) ≤ day ∧
    day < daysBeforeMonth ((5 * day + 2) / 153 + 1) := by
  unfold daysBeforeMonth
  omega

/-- The date of a day has the year, the month and the day of the month that the day is in. -/
theorem ofDays_spec (days : Int) : ∃ (year : Int) (m day : Nat),
    ofDays days = ⟨if monthFromMarch m ≤ 2 then year + 1 else year, monthFromMarch m, day + 1⟩ ∧
    m ≤ 11 ∧ days + epochOffset = daysBefore year + daysBeforeMonth m + day ∧
    daysBeforeMonth m + day < daysBeforeMonth (m + 1) ∧
    days + epochOffset < daysBefore (year + 1) := by
  obtain ⟨hsum, hend⟩ := yearAndDay_spec (days + epochOffset)
  cases hsplit : yearAndDay (days + epochOffset) with
  | mk year dayOfYear =>
    rw [hsplit] at hsum hend
    simp only at hsum hend
    have hlength := daysBefore_succ year
    have hle : dayOfYear ≤ 365 := by
      split at hlength <;> omega
    obtain ⟨hm, hbegun, hended⟩ := month_spec hle
    refine ⟨year, (5 * dayOfYear + 2) / 153,
      dayOfYear - daysBeforeMonth ((5 * dayOfYear + 2) / 153), ?_, hm, ?_, ?_, hend⟩
    · unfold ofDays
      rw [hsplit]
      rfl
    · omega
    · omega

theorem monthFromMarch_spec {m : Nat} (hm : m ≤ 11) :
    1 ≤ monthFromMarch m ∧ monthFromMarch m ≤ 12 ∧ (monthFromMarch m + 9) % 12 = m := by
  unfold monthFromMarch
  split <;> omega

/-- The day can be computed from its date. -/
theorem toDays_ofDays (days : Int) : (ofDays days).toDays = days := by
  obtain ⟨year, m, day, hdate, hm, hsum, -, -⟩ := ofDays_spec days
  have hyear : (ofDays days).marchYear = year := by
    rw [hdate, marchYear]
    simp only
    split <;> omega
  have hmonth : (ofDays days).marchMonth = m := by
    rw [hdate]
    exact (monthFromMarch_spec hm).2.2
  have hday : (ofDays days).day = day + 1 := by rw [hdate]
  rw [toDays_eq, hyear, hmonth, hday]
  omega

/-- The date of a day is one of the calendar. -/
theorem isValid_ofDays (days : Int) : (ofDays days).isValid = true := by
  obtain ⟨year, m, day, hdate, hm, hsum, hmonth, hend⟩ := ofDays_spec days
  obtain ⟨hfirst, hlast, -⟩ := monthFromMarch_spec hm
  rw [hdate, isValid_iff]
  refine ⟨hfirst, hlast, Nat.succ_pos day, ?_⟩
  rcases Nat.lt_or_eq_of_le hm with hlt | rfl
  · have hlength := daysInMonth_monthFromMarch
      (if monthFromMarch m ≤ 2 then year + 1 else year) (Nat.le_of_lt_succ hlt)
    simp only
    omega
  · -- February ends the year
    have hlength := daysBefore_february year
    show day + 1 ≤ daysInMonth (year + 1) 2
    omega

/-! ## The order of months -/

section

variable {d : Date} (hd : 1 ≤ d.month ∧ d.month ≤ 12)

include hd

theorem monthFromMarch_marchMonth : monthFromMarch d.marchMonth = d.month := by
  unfold monthFromMarch marchMonth
  split <;> omega

/-- The months from March to January end before the next month begins. -/
theorem daysInMonth_of_marchMonth_le (h : d.marchMonth ≤ 10) :
    daysBeforeMonth d.marchMonth + daysInMonth d.year d.month =
      daysBeforeMonth (d.marchMonth + 1) := by
  rw [← monthFromMarch_marchMonth hd]
  exact daysInMonth_monthFromMarch d.year h

/-- February ends with the year. -/
theorem daysInMonth_of_marchMonth_eq (h : d.marchMonth = 11) :
    daysBefore d.marchYear + daysBeforeMonth d.marchMonth + daysInMonth d.year d.month =
      daysBefore (d.marchYear + 1) := by
  have hmonth : d.month = 2 := by
    rw [← monthFromMarch_marchMonth hd, h]
    rfl
  have hyear : d.marchYear + 1 = d.year := by
    rw [marchYear, hmonth, if_pos (by decide)]
    omega
  rw [h, hmonth, ← daysBefore_february, hyear]

end

/-- A month ends before a later one begins. -/
theorem daysInMonth_le_of_before {a b : Date} (ha : 1 ≤ a.month ∧ a.month ≤ 12)
    (hb : 1 ≤ b.month ∧ b.month ≤ 12) (h : a.yearMonth.before b.yearMonth = true) :
    daysBefore a.marchYear + daysBeforeMonth a.marchMonth + daysInMonth a.year a.month ≤
      daysBefore b.marchYear + daysBeforeMonth b.marchMonth := by
  have horder : a.year < b.year ∨ a.year = b.year ∧ a.month < b.month := YearMonth.before_iff.mp h
  have hmarch : a.marchYear < b.marchYear ∨
      a.marchYear = b.marchYear ∧ a.marchMonth + 1 ≤ b.marchMonth := by
    unfold marchYear marchMonth
    split <;> split <;> omega
  have hmono : ∀ {m n : Nat}, m ≤ n → daysBeforeMonth m ≤ daysBeforeMonth n := by
    unfold daysBeforeMonth
    omega
  have hlast : a.marchMonth ≤ 11 ∧ b.marchMonth ≤ 11 := by
    unfold marchMonth
    omega
  rcases hmarch with hyear | ⟨hyear, hmonth⟩
  · -- all of the year of `a` is over
    have hnext := daysBefore_mono (Int.add_one_le_of_lt hyear)
    rcases Nat.lt_or_eq_of_le hlast.1 with hlt | heq
    · have hend := daysInMonth_of_marchMonth_le ha (Nat.le_of_lt_succ hlt)
      have hjanuary : daysBeforeMonth (a.marchMonth + 1) ≤ 337 := hmono hlt
      have hlength := daysBefore_succ a.marchYear
      split at hlength <;> omega
    · have hend := daysInMonth_of_marchMonth_eq ha heq
      omega
  · have hend := daysInMonth_of_marchMonth_le ha (by omega)
    have hbegin := hmono hmonth
    rw [hyear]
    omega

theorem toDays_lt_of_before {a b : Date} (ha : a.isValid = true) (hb : b.isValid = true)
    (h : a.yearMonth.before b.yearMonth = true) : a.toDays < b.toDays := by
  obtain ⟨hfirst, hlast, -, hday⟩ := isValid_iff.mp ha
  obtain ⟨hfirst', hlast', hday', -⟩ := isValid_iff.mp hb
  have hmonth := daysInMonth_le_of_before ⟨hfirst, hlast⟩ ⟨hfirst', hlast'⟩ h
  rw [toDays_eq, toDays_eq]
  omega

end Date

/-! ## The order of instants -/

namespace Instant

/-- The order of time. A leap second is later than the second that has the same number. -/
instance : LE Instant :=
  ⟨fun a b => a.seconds < b.seconds ∨ a.seconds = b.seconds ∧ a.nanos ≤ b.nanos⟩

theorem le_iff {a b : Instant} :
    a ≤ b ↔ a.seconds < b.seconds ∨ a.seconds = b.seconds ∧ a.nanos ≤ b.nanos := Iff.rfl

/-- Time does not go back to an earlier month. -/
theorem yearMonth_mono {a b : Instant} (h : a ≤ b) : b.yearMonth.before a.yearMonth = false := by
  rw [← Bool.not_eq_true]
  intro hbefore
  have hdays := Date.toDays_lt_of_before (Date.isValid_ofDays (b.seconds / 86400))
    (Date.isValid_ofDays (a.seconds / 86400)) hbefore
  rw [Date.toDays_ofDays, Date.toDays_ofDays] at hdays
  have hseconds := le_iff.mp h
  omega

end Instant

end RentalGuard
