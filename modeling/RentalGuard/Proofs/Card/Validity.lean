import RentalGuard.Proofs.Calendar.Months
import RentalGuard.Proofs.Calendar.Timestamps
import RentalGuard.Proofs.Payment.Acceptance

/-! # How long a card is good

A card is good as long as the month after the one that it names has not begun, and from this instant
on it has expired. Months and years are compared where the clock shows them; the calendar turns this
into an order of instants. Words of 32 bits are wide enough for every year on the card and on the
clock.
-/

namespace RentalGuard.CardExpiry

variable {month : Nat} {year : Int} {now : Instant}

/-! ## Well-formed entries -/

theorem fullYear_inRange_iff : 1000 ≤ fullYear year ∧ fullYear year ≤ 9999 ↔
    0 ≤ year ∧ year ≤ 99 ∨ 1000 ≤ year ∧ year ≤ 9999 := by
  unfold fullYear
  split <;> omega

/-- Of a well-formed entry only the month of the clock decides. -/
theorem parse_of_wellFormed (hmonth : 1 ≤ month ∧ month ≤ 12)
    (hyear : 1000 ≤ fullYear year ∧ fullYear year ≤ 9999) (now : Instant) :
    parse month year now =
      if YearMonth.before ⟨fullYear year, month⟩ now.yearMonth then .error .cardExpired
      else .ok ⟨⟨fullYear year, month⟩, hmonth, hyear⟩ := by
  unfold parse
  rw [dif_pos hmonth, dif_pos hyear]

theorem parse_of_not_wellFormed
    (h : ¬((1 ≤ month ∧ month ≤ 12) ∧ 1000 ≤ fullYear year ∧ fullYear year ≤ 9999)) :
    ∃ fault, parse month year now = .error fault ∧ fault.kind = .invalidFormat := by
  unfold parse
  by_cases hmonth : 1 ≤ month ∧ month ≤ 12
  · rw [dif_pos hmonth, dif_neg fun hyear => h ⟨hmonth, hyear⟩]
    exact ⟨.expiryYear, rfl, rfl⟩
  · rw [dif_neg hmonth]
    exact ⟨.expiryMonth, rfl, rfl⟩

/-- Two digits stand for a year of this century. -/
theorem parse_two_digits (month : Nat) (hyear : 0 ≤ year ∧ year ≤ 99) (now : Instant) :
    parse month year now = parse month (2000 + year) now := by
  have hfull : fullYear year = fullYear (2000 + year) := by
    unfold fullYear
    rw [if_pos hyear, if_neg (by omega)]
  unfold parse
  rw [hfull]

/-! ## Words of the machine -/

/-- The year that is meant, in words of 32 bits. -/
def wordYear (year : Int32) : Int32 := if 0 ≤ year ∧ year ≤ 99 then 2000 + year else year

/-- Whether the month of a card is before that of the clock, in words of 32 bits. -/
def wordBefore (month : UInt32) (year : Int32) (clock : YearMonth) : Bool :=
  let clockYear := Int32.ofInt clock.year
  wordYear year < clockYear ||
    (wordYear year == clockYear && month < UInt32.ofNat clock.month)

theorem toInt_wordYear (year : Int32) : (wordYear year).toInt = fullYear year.toInt := by
  have htwo : (0 ≤ year ∧ year ≤ 99) ↔ (0 ≤ year.toInt ∧ year.toInt ≤ 99) := by
    rw [Int32.le_iff_toInt_le, Int32.le_iff_toInt_le]
    exact Iff.rfl
  unfold wordYear fullYear
  by_cases hyear : 0 ≤ year.toInt ∧ year.toInt ≤ 99
  · have hcentury : (2000 : Int32).toInt = 2000 := rfl
    rw [if_pos (htwo.mpr hyear), if_pos hyear, Int32.toInt_add, hcentury]
    exact Int.bmod_eq_of_le (by omega) (by omega)
  · rw [if_neg (mt htwo.mp hyear), if_neg hyear]

/-- The years of the clock are few enough for a word. -/
theorem wordBefore_eq (month : UInt32) (year : Int32) (now : Instant) :
    wordBefore month year now.yearMonth =
      YearMonth.before ⟨fullYear year.toInt, month.toNat⟩ now.yearMonth := by
  obtain ⟨hfirst, hlast⟩ := Timestamp.date_year now
  obtain ⟨-, hmonth, -⟩ := Date.isValid_iff.mp (Date.isValid_ofDays (now.seconds / 86400))
  have hclock : (Int32.ofInt now.yearMonth.year).toInt = now.yearMonth.year :=
    Int32.toInt_ofInt_of_le (show _ ≤ now.date.year by omega) (show now.date.year < _ by omega)
  have hword : (UInt32.ofNat now.yearMonth.month).toNat = now.yearMonth.month :=
    UInt32.toNat_ofNat_of_lt' (show now.date.month < _ from Nat.lt_of_le_of_lt hmonth (by decide))
  rw [Bool.eq_iff_iff, YearMonth.before_iff]
  simp only [wordBefore, Bool.or_eq_true, Bool.and_eq_true, decide_eq_true_iff, beq_iff_eq,
    Int32.lt_iff_toInt_lt, ← Int32.toInt_inj, UInt32.lt_iff_toNat_lt, toInt_wordYear, hclock, hword]

/-! ## The end of the month -/

/-- The month after that of a card begins at an instant that the clock can show. -/
theorem exists_lapse (card : YearMonth) (hmonth : 1 ≤ card.month ∧ card.month ≤ 12)
    (hyear : 1000 ≤ card.year ∧ card.year ≤ 9999) :
    ∃ lapse : Instant, lapse.seconds = card.next.firstSecond ∧ lapse.nanos = 0 := by
  have hnext : 1000 ≤ card.next.year ∧ card.next.year ≤ 10000 := by
    unfold YearMonth.next
    split <;> simp only <;> omega
  have hvalid := YearMonth.isValid_firstDate (YearMonth.month_next hmonth)
  have hfirst : (⟨999, 12, 31⟩ : Date).toDays = -354286 := by decide
  have hlast : (⟨10001, 1, 1⟩ : Date).toDays = 2933263 := by decide
  have hafter : (⟨999, 12, 31⟩ : Date).toDays < card.next.firstDay :=
    Date.toDays_lt_of_before (by decide) hvalid (YearMonth.before_iff.mpr (.inl (by
      show (999 : Int) < card.next.year
      omega)))
  have hbefore : card.next.firstDay < (⟨10001, 1, 1⟩ : Date).toDays :=
    Date.toDays_lt_of_before hvalid (by decide) (YearMonth.before_iff.mpr (.inl (by
      show card.next.year < 10001
      omega)))
  have hrange : firstSecond ≤ card.next.firstSecond ∧ card.next.firstSecond ≤ lastSecond := by
    unfold firstSecond lastSecond YearMonth.firstSecond
    omega
  exact ⟨⟨card.next.firstSecond, 0, hrange, .inl (by decide)⟩, rfl, rfl⟩

/-- Whether the month and the year of a card are such as can be printed on it. -/
def IsWellFormed (month : Nat) (year : Int) : Prop :=
  (1 ≤ month ∧ month ≤ 12) ∧ (0 ≤ year ∧ year ≤ 99 ∨ 1000 ≤ year ∧ year ≤ 9999)

/-- A card is good, has expired, or is malformed. -/
theorem parse_cases (month : Nat) (year : Int) (now : Instant) :
    let card : YearMonth := ⟨fullYear year, month⟩
    (IsWellFormed month year ∧ now.seconds < card.next.firstSecond ∧
      ∃ expiry, parse month year now = .ok expiry ∧ expiry.toYearMonth = card) ∨
    (IsWellFormed month year ∧ card.next.firstSecond ≤ now.seconds ∧
      parse month year now = .error .cardExpired) ∨
    (¬IsWellFormed month year ∧
      ∃ fault, parse month year now = .error fault ∧ fault.kind = .invalidFormat) := by
  intro card
  by_cases hform : IsWellFormed month year
  · have hparse := parse_of_wellFormed hform.1 (fullYear_inRange_iff.mpr hform.2) now
    have hover : card.before now.yearMonth = true ↔ card.next.firstSecond ≤ now.seconds :=
      YearMonth.before_yearMonth_iff hform.1
    by_cases hbefore : card.before now.yearMonth = true
    · exact .inr (.inl ⟨hform, hover.mp hbefore, hparse.trans (if_pos hbefore)⟩)
    · exact .inl ⟨hform, Int.not_le.mp (mt hover.mpr hbefore), _,
        hparse.trans (if_neg hbefore), rfl⟩
  · refine .inr (.inr ⟨hform, parse_of_not_wellFormed fun h => hform ?_⟩)
    exact ⟨h.1, fullYear_inRange_iff.mp h.2⟩

/-- A card is taken just if its month and its year are well-formed and the month after has not
begun; then it is kept with the year that is meant. It has expired just if they are well-formed and
the month after has begun, at its first instant or later. All other entries are malformed, whatever
the time. Two digits are as good as the year of this century that they stand for. Months begin where
the calendar says: one after the other, each as long as it is in its year, and January 1970 where
the seconds are counted from. Nothing overflows in words of 32 bits. -/
theorem cards_are_good_until_their_month_has_ended (month : Nat) (year : Int) (now : Instant) :
    let card : YearMonth := ⟨if 0 ≤ year ∧ year ≤ 99 then 2000 + year else year, month⟩
    let lapse := card.next.firstSecond
    let answer := parse month year now
    ((∃ expiry, answer = .ok expiry) ↔ IsWellFormed month year ∧ now.seconds < lapse) ∧
    (∀ expiry, answer = .ok expiry → expiry.toYearMonth = card) ∧
    ((∃ fault, answer = .error fault ∧ fault.kind = .expired) ↔
      IsWellFormed month year ∧ lapse ≤ now.seconds) ∧
    (¬IsWellFormed month year → ∃ fault, answer = .error fault ∧ fault.kind = .invalidFormat) ∧
    (0 ≤ year ∧ year ≤ 99 → answer = parse month (2000 + year) now) ∧
    (IsWellFormed month year → ∃ first : Instant, first.seconds = lapse ∧ first.nanos = 0 ∧
      (first ≤ now ↔ lapse ≤ now.seconds)) ∧
    ((⟨1970, 1⟩ : YearMonth).firstSecond = 0 ∧ ∀ a : YearMonth, 1 ≤ a.month ∧ a.month ≤ 12 →
      a.next.firstSecond = a.firstSecond + Date.daysInMonth a.year a.month * 86400) ∧
    ∀ (m : UInt32) (y : Int32), (wordYear y).toInt = fullYear y.toInt ∧
      wordBefore m y now.yearMonth =
        YearMonth.before ⟨fullYear y.toInt, m.toNat⟩ now.yearMonth := by
  intro card lapse answer
  have hcases := parse_cases month year now
  refine ⟨?taken, ?kept, ?expired, ?malformed, fun hyear => parse_two_digits month hyear now,
    ?first, ⟨by decide, ?months⟩, fun m y => ⟨toInt_wordYear y, wordBefore_eq m y now⟩⟩
  case taken =>
    obtain ⟨hform, hearly, expiry, hok, -⟩ | ⟨-, hlate, hexpired⟩ | ⟨hform, fault, hfault, -⟩ :=
      hcases
    · exact iff_of_true ⟨expiry, hok⟩ ⟨hform, hearly⟩
    · exact iff_of_false (by simp [answer, hexpired]) fun h => Int.not_lt.mpr hlate h.2
    · simp [answer, hfault, hform]
  case kept =>
    intro expiry hok
    obtain ⟨hmonth, hyear, -⟩ := parse_eq_ok_iff.mp hok
    exact (YearMonth.mk.injEq ..).mpr ⟨hyear, hmonth⟩
  case expired =>
    obtain ⟨-, hearly, expiry, hok, -⟩ | ⟨hform, hlate, hexpired⟩ | ⟨hform, fault, hfault, hkind⟩ :=
      hcases
    · exact iff_of_false (by simp [answer, hok]) fun h => Int.not_le.mpr hearly h.2
    · exact iff_of_true ⟨_, hexpired, rfl⟩ ⟨hform, hlate⟩
    · simp [answer, hfault, hkind, hform]
  case malformed =>
    obtain ⟨hform, -⟩ | ⟨hform, -⟩ | ⟨-, hmalformed⟩ := hcases
    · exact fun hother => absurd hform hother
    · exact fun hother => absurd hform hother
    · exact fun _ => hmalformed
  case first =>
    rintro ⟨hmonth, hyear⟩
    obtain ⟨first, hseconds, hnanos⟩ :=
      exists_lapse card hmonth (fullYear_inRange_iff.mpr hyear)
    refine ⟨first, hseconds, hnanos, ?_⟩
    rw [Instant.le_iff, hseconds, hnanos]
    omega
  case months =>
    intro a ha
    simp only [YearMonth.firstSecond, YearMonth.firstDay_next ha, Int.add_mul]

/-- A card of February in a leap year, in the leap second after the last one of the month and in the
first second of March, and a thirteenth month. -/
theorem cards_are_good_until_their_month_has_ended_on_leap_day :
    let leapSecond : Instant := ⟨1835481599, 1999999999, by decide, by decide⟩
    let march : Instant := ⟨1835481600, 0, by decide, by decide⟩
    (YearMonth.next ⟨2028, 2⟩).firstSecond = 1835481600 ∧
      (∃ expiry, parse 2 28 leapSecond = .ok expiry ∧ expiry.toYearMonth = ⟨2028, 2⟩) ∧
      (∃ fault, parse 2 28 march = .error fault ∧ fault.kind = .expired) ∧
      parse 2 28 march = parse 2 2028 march ∧
      (∃ fault, parse 13 2028 march = .error fault ∧ fault.kind = .invalidFormat) ∧
      (wordYear 28).toInt = 2028 := by
  intro leapSecond march
  have hform : IsWellFormed 2 28 := ⟨by decide, .inl (by decide)⟩
  have hlapse : (YearMonth.next ⟨2028, 2⟩).firstSecond = 1835481600 := by decide
  obtain ⟨hgood, hmeant, -⟩ := cards_are_good_until_their_month_has_ended 2 28 leapSecond
  obtain ⟨-, -, hexpired, -, htwo, -, -, hwords⟩ :=
    cards_are_good_until_their_month_has_ended 2 28 march
  obtain ⟨-, -, -, hmalformed, -⟩ := cards_are_good_until_their_month_has_ended 13 2028 march
  obtain ⟨expiry, hok⟩ := hgood.mpr ⟨hform, by decide⟩
  exact ⟨hlapse, ⟨expiry, hok, hmeant expiry hok⟩, hexpired.mpr ⟨hform, by decide⟩,
    htwo (by decide), hmalformed fun h => absurd h.1.2 (by decide), (hwords 2 28).1⟩

end RentalGuard.CardExpiry
