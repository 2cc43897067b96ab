import RentalGuard.Calendar.TimestampReader
import RentalGuard.Proofs.Calendar.Days
import RentalGuard.Text.Parts

/-! # Timestamps are read as they are written

Every instant comes back from its text, in every year that there is, to the nanosecond, and with its
leap second if it is in one. The form for people tells no less.
-/

namespace RentalGuard.Timestamp

open Text

/-! ## Numbers -/

/-- A run of digits is taken up to its end or up to the greatest number of digits. -/
theorem takeWhile_take_append {most : Nat} {ds rest : List Char}
    (hds : ∀ c ∈ ds, c.isDigit = true) (hlength : ds.length ≤ most)
    (hrest : ds.length = most ∨ EndsRun Char.isDigit rest) :
    ((ds ++ rest).take most).takeWhile Char.isDigit = ds := by
  rw [List.take_append, List.take_of_length_le hlength]
  refine takeWhile_run hds ?_
  rcases hrest with hfull | hends
  · rw [hfull, Nat.sub_self, List.take_zero]
    exact endsRun_nil
  · intro c hc
    rw [List.head?_take] at hc
    split at hc
    · cases hc
    · exact hends c hc

theorem digits?_append {most n : Nat} {ds rest : List Char} (hds : IsUnsigned ds n)
    (hlength : ds.length ≤ most) (hrest : ds.length = most ∨ EndsRun Char.isDigit rest) :
    digits? most (ds ++ rest) = some (n, rest) := by
  unfold digits?
  simp only [takeWhile_take_append hds.isDigit hlength hrest, natural?_eq_some_iff.mpr hds,
    Option.bind_eq_bind, Option.bind_some, List.drop_left]
  rfl

theorem isBlank_of_isDigit {c : Char} (h : c.isDigit = true) : isBlank c = false := by
  have hc := Char.isDigit_iff_toNat.mp h
  have hzero : '0'.toNat = 48 := rfl
  have hnine : '9'.toNat = 57 := rfl
  exact isBlank_of_visible (by omega) (by omega)

theorem isDigit_of_mem_head? {ds rest : List Char} {n : Nat} (hds : IsUnsigned ds n) {c : Char}
    (hc : c ∈ (ds ++ rest).head?) : c.isDigit = true := by
  cases ds with
  | nil => exact absurd rfl hds.ne_nil
  | cons d more =>
    cases hc
    exact hds.isDigit _ List.mem_cons_self

theorem trimStart_digits {ds rest : List Char} {n : Nat} (hds : IsUnsigned ds n) :
    trimStart (ds ++ rest) = ds ++ rest :=
  trimStart_eq_self fun _ hc => isBlank_of_isDigit (isDigit_of_mem_head? hds hc)

/-- A number that is filled up to its width is read, whatever comes after it. -/
theorem number?_padded {width n : Nat} {rest : List Char} (hwidth : 0 < width)
    (hn : n < Nat.pow 10 width) (hbound : n < 0x8000000000000000) :
    number? width (padded width n ++ rest) = some (n, rest) := by
  have hlength := length_padded_of_lt hwidth hn
  unfold number?
  rw [trimStart_digits (isUnsigned_padded width n), digits?_append (isUnsigned_padded width n)
    (Nat.le_of_eq hlength) (.inl hlength), Option.bind_eq_bind, Option.bind_some]
  exact if_pos hbound

theorem number?_two {n : Nat} {rest : List Char} (hn : n < 100) :
    number? 2 (padded 2 n ++ rest) = some (n, rest) :=
  number?_padded (by decide) hn (by omega)

theorem after?_cons {c : Char} {rest : List Char} (hc : isBlank c = false) :
    after? c (c :: rest) = some rest := by
  unfold after?
  rw [trimStart_eq_self fun d hd => by cases hd; exact hc]
  exact if_pos (beq_self_eq_true c)

/-! ## Dates -/

/-- Without a sign a year is read like any other number. -/
theorem year?_digits {ds rest : List Char} {n : Nat} (hds : IsUnsigned ds n) :
    year? (ds ++ rest) = (number? 4 (ds ++ rest)).map fun p => ((p.1 : Int), p.2) := by
  have hsign : ∀ c, c.isDigit = false → (ds ++ rest).head? ≠ some c := by
    intro c hc hhead
    rw [isDigit_of_mem_head? hds hhead] at hc
    cases hc
  unfold year?
  rw [trimStart_digits hds]
  split
  · rename_i more hcs
    exact absurd (congrArg List.head? hcs) (hsign '-' rfl)
  · rename_i more hcs
    exact absurd (congrArg List.head? hcs) (hsign '+' rfl)
  · cases number? 4 (ds ++ rest) <;> rfl

theorem signed?_digits {ds rest : List Char} {n : Nat} (hds : IsUnsigned ds n)
    (hrest : EndsRun Char.isDigit rest) (hn : n < 0x8000000000000000) :
    year?.signed? (ds ++ rest) = some (n, rest) := by
  have hlength : ds.length ≤ (ds ++ rest).length := by
    rw [List.length_append]
    exact Nat.le_add_right _ _
  unfold year?.signed?
  rw [digits?_append hds hlength (.inr hrest), Option.bind_eq_bind, Option.bind_some]
  exact if_pos hn

theorem year?_yearChars {year : Int} (hlow : -262143 ≤ year) (hhigh : year ≤ 262142)
    {rest : List Char} (hrest : EndsRun Char.isDigit rest) :
    year? (yearChars year ++ rest) = some (year, rest) := by
  have hpadded := isUnsigned_padded 4
  unfold yearChars
  split
  · rename_i hshort
    have hfour : year.toNat < Nat.pow 10 4 := by
      show year.toNat < 10000
      omega
    rw [year?_digits (hpadded _), number?_padded (by decide) hfour (by omega), Option.map_some,
      Int.toNat_of_nonneg hshort.1]
  · have hsigned := signed?_digits (hpadded year.natAbs) hrest (by omega)
    split
    · rename_i hnegative
      show (do let p ← year?.signed? (padded 4 year.natAbs ++ rest); return (-(p.1 : Int), p.2)) = _
      rw [hsigned, Option.bind_eq_bind, Option.bind_some]
      have hyear : -(year.natAbs : Int) = year := by omega
      rw [hyear]
      rfl
    · rename_i hpositive
      show (do let p ← year?.signed? (padded 4 year.natAbs ++ rest); return ((p.1 : Int), p.2)) = _
      rw [hsigned, Option.bind_eq_bind, Option.bind_some]
      have hyear : (year.natAbs : Int) = year := by omega
      rw [hyear]
      rfl

theorem date?_dateChars {d : Date} (hd : d.isValid = true) (hlow : -262143 ≤ d.year)
    (hhigh : d.year ≤ 262142) {rest : List Char} :
    date? (dateChars d ++ rest) = some (d, rest) := by
  obtain ⟨-, hmonth, -, hday⟩ := Date.isValid_iff.mp hd
  have hlength : Date.daysInMonth d.year d.month ≤ 31 := by
    unfold Date.daysInMonth
    repeat' split
    all_goals omega
  have hends : ∀ cs, EndsRun Char.isDigit ('-' :: cs) := fun cs => endsRun_cons rfl
  unfold date? dateChars
  rw [List.append_assoc, List.append_assoc, List.cons_append, List.cons_append,
    year?_yearChars hlow hhigh (hends _)]
  simp only [Option.bind_eq_bind, Option.bind_some, after?_cons (show isBlank '-' = false from rfl),
    number?_two (show d.month < 100 by omega), number?_two (show d.day < 100 by omega)]
  exact if_pos (by simp [hd, hlow, hhigh])

/-! ## Times -/

theorem fraction?_padded {width n : Nat} (hwidth : 0 < width) (hnine : width ≤ 9)
    (hn : n < Nat.pow 10 width) {rest : List Char} (hrest : EndsRun Char.isDigit rest) :
    fraction? ('.' :: padded width n ++ rest) = some (n * Nat.pow 10 (9 - width), rest) := by
  have hlength := length_padded_of_lt hwidth hn
  have hends : rest.dropWhile Char.isDigit = rest :=
    show ([] ++ rest).dropWhile Char.isDigit = rest from
      dropWhile_run (fun c hc => by cases hc) hrest
  have hrun : ((padded width n ++ rest).take 9).takeWhile Char.isDigit = padded width n :=
    takeWhile_take_append (isUnsigned_padded width n).isDigit (by omega) (.inr hrest)
  rw [List.cons_append, fraction?]
  simp only [hrun, natural?_eq_some_iff.mpr (isUnsigned_padded width n), hlength,
    Option.bind_eq_bind, Option.bind_some, List.drop_left' hlength, hends]
  rfl

/-- The digits that a fraction is written with are enough to read it. -/
theorem fraction?_fractionChars {nanos : Nat} (hnanos : nanos < 1000000000) :
    fraction? (fractionChars nanos ++ ['Z']) = some (nanos, ['Z']) := by
  have hends : EndsRun Char.isDigit ['Z'] := endsRun_cons rfl
  unfold fractionChars
  simp only [beq_iff_eq]
  split
  · rename_i hzero
    rw [hzero]
    rfl
  · split
    · rename_i hmilli
      rw [fraction?_padded (by decide) (by decide) (show nanos / 1000000 < 1000 by omega) hends]
      have hvalue : nanos / 1000000 * 1000000 = nanos := by omega
      exact congrArg (fun n => some (n, ['Z'])) hvalue
    · split
      · rename_i hmicro
        rw [fraction?_padded (by decide) (by decide) (show nanos / 1000 < 1000000 by omega) hends]
        have hvalue : nanos / 1000 * 1000 = nanos := by omega
        exact congrArg (fun n => some (n, ['Z'])) hvalue
      · rw [fraction?_padded (by decide) (by decide) hnanos hends]
        exact congrArg (fun n => some (n, ['Z'])) (Nat.mul_one nanos)

/-- The second and the fraction show whether the instant is in a leap second. -/
theorem time?_timeChars (t : Instant) :
    time? (timeChars t ++ ['Z']) = some (t.secondOfDay, t.nanos, ['Z']) := by
  have hday : t.secondOfDay < 86400 := by
    unfold Instant.secondOfDay
    omega
  have hsixty : (t.secondOfDay : Int) % 60 = t.seconds % 60 := by
    unfold Instant.secondOfDay
    omega
  have hfraction := t.fraction
  -- the written second is 60 in a leap second only
  have hsecond : t.secondOfDay % 60 + t.nanos / 1000000000 ≤ 60 := by omega
  have hleap : t.secondOfDay % 60 + t.nanos / 1000000000 = 60 ↔ 1000000000 ≤ t.nanos := by omega
  unfold time? timeChars
  simp only [List.append_assoc, List.cons_append, Option.bind_eq_bind, Option.bind_some,
    number?_two (show t.secondOfDay / 3600 < 100 by omega),
    number?_two (show t.secondOfDay / 60 % 60 < 100 by omega),
    number?_two (show t.secondOfDay % 60 + t.nanos / 1000000000 < 100 by omega),
    after?_cons (show isBlank ':' = false from rfl),
    fraction?_fractionChars (Nat.mod_lt t.nanos (by decide : 0 < 1000000000)), beq_iff_eq, hleap]
  rw [if_pos (by simp; omega)]
  simp only [Option.some.injEq, Prod.mk.injEq, and_true]
  by_cases hl : 1000000000 ≤ t.nanos
  · rw [if_pos hl, if_pos hl]
    omega
  · rw [if_neg hl, if_neg hl]
    omega

/-! ## Instants -/

/-- The years of all instants are between the first and the last year that can be written. -/
theorem date_year (t : Instant) : -262143 ≤ t.date.year ∧ t.date.year ≤ 262142 := by
  have hvalid := Date.isValid_ofDays (t.seconds / 86400)
  have hdays := Date.toDays_ofDays (t.seconds / 86400)
  have hrange := t.inRange
  unfold firstSecond lastSecond at hrange
  have hfirst : (⟨-262143, 1, 1⟩ : Date).toDays = -96465292 := by decide
  have hlast : (⟨262142, 12, 31⟩ : Date).toDays = 95026236 := by decide
  constructor
  · refine Int.not_lt.mp fun hearly => ?_
    have hbefore := Date.toDays_lt_of_before (b := ⟨-262143, 1, 1⟩) hvalid (by decide)
      (YearMonth.before_iff.mpr (.inl hearly))
    omega
  · refine Int.not_lt.mp fun hlate => ?_
    have hbefore := Date.toDays_lt_of_before (a := ⟨262142, 12, 31⟩) (by decide) hvalid
      (YearMonth.before_iff.mpr (.inl hlate))
    omega

/-- The day and the second of the day are all that there is to the seconds. -/
theorem seconds_eq (t : Instant) : t.date.toDays * 86400 + t.secondOfDay = t.seconds := by
  have hdays := Date.toDays_ofDays (t.seconds / 86400)
  unfold Instant.date Instant.secondOfDay
  omega

theorem date?_date (t : Instant) {rest : List Char} :
    date? (dateChars t.date ++ rest) = some (t.date, rest) :=
  date?_dateChars (Date.isValid_ofDays _) (date_year t).1 (date_year t).2

/-- Every instant is read back from its text. -/
theorem read?_write (t : Instant) : read? (write t) = some t := by
  have hoffset : offset? (trimStart ['Z']) = some (0, []) := by decide
  unfold read? write
  rw [String.toList_ofList]
  unfold readChars? chars
  rw [List.append_assoc, date?_date]
  simp only [Option.bind_eq_bind, Option.bind_some, List.cons_append, time?_timeChars, hoffset]
  rw [Int.sub_zero, seconds_eq]
  simp only [Instant.ofParts?, dif_pos t.inRange, dif_pos t.fraction]
  rfl

/-- Two instants are shown alike only if they are the same. -/
theorem display_inj {t u : Instant} : display t = display u ↔ t = u := by
  refine ⟨fun h => ?_, congrArg display⟩
  have hchars := congrArg String.toList h
  simp only [display, String.toList_ofList, List.append_assoc] at hchars
  -- what is read first is the date, whatever stands behind it
  have hdate := congrArg date? hchars
  simp only [date?_date, Option.some.injEq, Prod.mk.injEq, List.cons_append, List.cons.injEq,
    true_and] at hdate
  obtain ⟨hday, htext⟩ := hdate
  have htime := congrArg (fun cs => time? (cs ++ ['Z'])) (List.append_cancel_right htext)
  simp only [time?_timeChars, Option.some.injEq, Prod.mk.injEq, and_true] at htime
  obtain ⟨hsecond, hnanos⟩ := htime
  have hseconds : t.seconds = u.seconds := by rw [← seconds_eq t, ← seconds_eq u, hday, hsecond]
  cases t
  cases u
  cases hseconds
  cases hnanos
  rfl

end RentalGuard.Timestamp
