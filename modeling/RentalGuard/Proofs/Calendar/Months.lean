import RentalGuard.Proofs.Calendar.Days

/-! # When months begin

Month follows month without a gap, each as long as the calendar has it, and January 1970 begins with
the day from which the days are counted. A day is before a month just if it is before its first day.
-/

namespace RentalGuard.YearMonth

/-- The month that comes after this one. -/
def next (a : YearMonth) : YearMonth :=
  if a.month = 12 then ⟨a.year + 1, 1⟩ else ⟨a.year, a.month + 1⟩

def firstDate (a : YearMonth) : Date := ⟨a.year, a.month, 1⟩

/-- The first day, counted from 1970-01-01. -/
def firstDay (a : YearMonth) : Int := a.firstDate.toDays

/-- The second with which the first day begins, counted from 1970-01-01T00:00:00 UTC. -/
def firstSecond (a : YearMonth) : Int := a.firstDay * 86400

variable {a b : YearMonth}

/-- A month is not over just if the next one is still to come. -/
theorem before_next_iff (hb : 1 ≤ b.month ∧ b.month ≤ 12) :
    b.before a.next = true ↔ a.before b = false := by
  rw [← Bool.not_eq_true, before_iff, before_iff]
  unfold next
  split <;> simp only <;> omega

theorem eq_of_not_before (hab : ¬a.before b = true) (hba : ¬b.before a = true) : a = b := by
  rw [before_iff] at hab hba
  rw [YearMonth.mk.injEq]
  omega

theorem firstDay_eq (a : YearMonth) : a.firstDay = Date.daysBefore a.firstDate.marchYear +
    Date.daysBeforeMonth a.firstDate.marchMonth - Date.epochOffset := by
  have hday : ((a.firstDate.day : Nat) : Int) = 1 := rfl
  rw [firstDay, Date.toDays_eq, hday]
  omega

theorem firstDay_yearMonth (d : Date) : d.yearMonth.firstDay + d.day = d.toDays + 1 := by
  have hfirst : d.yearMonth.firstDay =
      Date.daysBefore d.marchYear + Date.daysBeforeMonth d.marchMonth - Date.epochOffset :=
    firstDay_eq d.yearMonth
  rw [hfirst, Date.toDays_eq]
  omega

section

variable (ha : 1 ≤ a.month ∧ a.month ≤ 12)

include ha

theorem month_next : 1 ≤ a.next.month ∧ a.next.month ≤ 12 := by
  unfold next
  split <;> simp only <;> omega

theorem isValid_firstDate : a.firstDate.isValid = true := by
  have hlength : 1 ≤ Date.daysInMonth a.year a.month := by
    unfold Date.daysInMonth
    repeat' split
    all_goals decide
  exact Date.isValid_iff.mpr ⟨ha.1, ha.2, Nat.le_refl 1, hlength⟩

/-- Only March begins another year, if years are counted from March. -/
theorem march_next (hne : a.month ≠ 2) :
    a.next.firstDate.marchYear = a.firstDate.marchYear ∧
      a.next.firstDate.marchMonth = a.firstDate.marchMonth + 1 := by
  by_cases hlast : a.month = 12
  · simp [next, firstDate, Date.marchYear, Date.marchMonth, hlast]
  · have hsame : a.month + 1 ≤ 2 ↔ a.month ≤ 2 := by omega
    simp only [next, if_neg hlast, firstDate, Date.marchYear, Date.marchMonth, hsame]
    omega

/-- The next month begins as many days later as the calendar gives this one. -/
theorem firstDay_next :
    a.next.firstDay = a.firstDay + Date.daysInMonth a.year a.month := by
  have hlength : Date.daysInMonth a.year a.month =
      Date.daysInMonth a.firstDate.year a.firstDate.month := rfl
  rw [firstDay_eq, firstDay_eq]
  by_cases hfebruary : a.month = 2
  · have hend := Date.daysInMonth_of_marchMonth_eq (d := a.firstDate) ha
      (by simp [Date.marchMonth, firstDate, hfebruary])
    have hmarch : a.next.firstDate.marchYear = a.firstDate.marchYear + 1 ∧
        a.next.firstDate.marchMonth = 0 := by
      simp [next, firstDate, Date.marchYear, Date.marchMonth, hfebruary]
    have hzero : Date.daysBeforeMonth 0 = 0 := rfl
    rw [hmarch.1, hmarch.2, hzero, ← hend, hlength]
    omega
  · have hmarch := march_next ha hfebruary
    have hend := Date.daysInMonth_of_marchMonth_le (d := a.firstDate) ha (by
      simp only [Date.marchMonth, firstDate]
      omega)
    rw [hmarch.1, hmarch.2, ← hend, hlength]
    omega

/-- A day is in this month or later just if this month has begun. -/
theorem firstDay_le_iff {days : Int} :
    a.firstDay ≤ days ↔ (Date.ofDays days).yearMonth.before a = false := by
  have hvalid := Date.isValid_ofDays days
  have hdays := Date.toDays_ofDays days
  rw [← Bool.not_eq_true]
  constructor
  · intro hbegun hbefore
    have hearly := Date.toDays_lt_of_before (b := a.firstDate) hvalid (isValid_firstDate ha) hbefore
    rw [hdays] at hearly
    exact absurd hbegun (Int.not_le.mpr hearly)
  · intro hnot
    by_cases hlate : a.before (Date.ofDays days).yearMonth = true
    · have hlater := Date.toDays_lt_of_before (a := a.firstDate) (isValid_firstDate ha) hvalid hlate
      rw [hdays] at hlater
      exact Int.le_of_lt hlater
    · have hsame : (Date.ofDays days).yearMonth = a := eq_of_not_before hnot hlate
      have hfirst := firstDay_yearMonth (Date.ofDays days)
      have hday : 1 ≤ (Date.ofDays days).day := (Date.isValid_iff.mp hvalid).2.2.1
      rw [hsame, hdays] at hfirst
      omega

/-- A month is over as soon as the next one has begun. -/
theorem before_yearMonth_iff {t : Instant} :
    a.before t.yearMonth = true ↔ a.next.firstSecond ≤ t.seconds := by
  have hmonth : 1 ≤ t.yearMonth.month ∧ t.yearMonth.month ≤ 12 := by
    obtain ⟨hfirst, hlast, -⟩ := Date.isValid_iff.mp (Date.isValid_ofDays (t.seconds / 86400))
    exact ⟨hfirst, hlast⟩
  have hover : a.before t.yearMonth = true ↔ t.yearMonth.before a.next = false := by
    rw [← Bool.not_eq_true, before_next_iff hmonth, Bool.not_eq_false]
  have hbegun : a.next.firstDay ≤ t.seconds / 86400 ↔ t.yearMonth.before a.next = false :=
    firstDay_le_iff (month_next ha)
  rw [hover, ← hbegun, firstSecond]
  omega

end

end RentalGuard.YearMonth
