import RentalGuard.Proofs.Webhook.Standing

/-! # The window for signed notifications

What is signed is read as what it is, so the window alone decides about it. The distance between the
times is exact: two times in 64 bits can lie further apart than 64 bits with a sign can say, and a
subtraction that wraps around still finds their distance.
-/

namespace RentalGuard.WebhookVerifier

/-! ## Words of the machine -/

/-- The distance of two words with a sign, by a subtraction that wraps around. -/
def absDiff (a b : Int64) : UInt64 :=
  if a < b then b.toUInt64 - a.toUInt64 else a.toUInt64 - b.toUInt64

theorem toNat_toUInt64 (a : Int64) :
    (a.toUInt64.toNat : Int) =
      if a.toInt < 0 then a.toInt + 0x10000000000000000 else a.toInt := by
  have hword : a.toInt = if 2 * a.toUInt64.toNat < 2 ^ 64 then (a.toUInt64.toNat : Int)
      else (a.toUInt64.toNat : Int) - (2 ^ 64 : Nat) := BitVec.toInt_eq_toNat_cond a.toBitVec
  have hlt := a.toUInt64.toNat_lt
  split at hword <;> split <;> omega

/-- The difference is below `2 ^ 64`, so wrapping changes nothing. -/
theorem toNat_toUInt64_sub {a b : Int64} (h : b.toInt ≤ a.toInt) :
    ((a.toUInt64 - b.toUInt64).toNat : Int) = a.toInt - b.toInt := by
  have ha := toNat_toUInt64 a
  have hb := toNat_toUInt64 b
  have haword := a.toUInt64.toNat_lt
  have hbword := b.toUInt64.toNat_lt
  have hlast := a.toInt_lt
  have hfirst := b.le_toInt
  rw [UInt64.toNat_sub]
  split at ha <;> split at hb <;> omega

theorem toNat_absDiff (a b : Int64) : (absDiff a b).toNat = (a.toInt - b.toInt).natAbs := by
  unfold absDiff
  split
  · rename_i hless
    have hle := Int.le_of_lt (Int64.lt_iff_toInt_lt.mp hless)
    have hdiff := toNat_toUInt64_sub hle
    omega
  · rename_i hless
    have hle := Int.not_lt.mp fun h => hless (Int64.lt_iff_toInt_lt.mpr h)
    have hdiff := toNat_toUInt64_sub hle
    omega

/-- The longest tolerance that can be given, in nanoseconds: as many milliseconds as 63 bits can
count. -/
def longestTolerance : Nat := 0x7FFFFFFFFFFFFFFF * 1000000

def wordNow (now : Instant) : Int64 := Int64.ofInt now.seconds

def wordTolerance (v : WebhookVerifier) : Int64 := Int64.ofNat v.toleranceSeconds

/-- The answer to an authentic header, computed in words of 64 bits. -/
def wordVerdict (v : WebhookVerifier) (timestamp : Int64) (now : Instant) :
    Except SignatureError Int64 :=
  if absDiff (wordNow now) timestamp > absDiff v.wordTolerance 0 then
    .error (.expired timestamp)
  else .ok timestamp

theorem toInt_wordNow (now : Instant) : (wordNow now).toInt = now.seconds := by
  obtain ⟨hfirst, hlast⟩ := now.inRange
  unfold firstSecond at hfirst
  unfold lastSecond at hlast
  exact Int64.toInt_ofInt_of_le (by omega) (by omega)

theorem toInt_wordTolerance {v : WebhookVerifier} (h : v.tolerance ≤ longestTolerance) :
    v.wordTolerance.toInt = v.toleranceSeconds := by
  unfold longestTolerance at h
  refine Int64.toInt_ofNat_of_lt ?_
  unfold toleranceSeconds second
  omega

/-- Nothing overflows. -/
theorem wordVerdict_eq {v : WebhookVerifier} (h : v.tolerance ≤ longestTolerance)
    (timestamp : Int64) (now : Instant) : v.wordVerdict timestamp now = v.verdict timestamp now := by
  unfold wordVerdict verdict
  simp only [gt_iff_lt, UInt64.lt_iff_toNat_lt, toNat_absDiff, toInt_wordNow,
    toInt_wordTolerance h, ← Nat.not_le, ite_not, Int64.toInt_zero, Int.sub_zero, Int.natAbs_natCast]

/-! ## The window -/

theorem exists_ofKey {key : String} (h : Text.isBlankText key = false) :
    ∃ v, ofKey key = .ok v := by
  unfold ofKey
  rw [h]
  exact ⟨_, rfl⟩

/-- Whoever signs a notification with a key that is not blank finds it taken by the same key as
long as its time is at most the whole seconds of the tolerance away, before or after, and called too
old beyond that. The sign of the tolerance makes no difference, and words of 64 bits hold all that is
computed. -/
theorem signed_notifications_are_taken_in_the_window (key : String)
    (hkey : Text.isBlankText key = false) :
    ∃ v, ofKey key = .ok v ∧
      ∀ (tolerance : Int) (timestamp : Int64) (body : List UInt8) (now : Instant),
        let w := v.withTolerance tolerance
        let answer := (w.verify (w.sign timestamp body) body now).1
        answer =
          (if (now.seconds - timestamp.toInt).natAbs ≤ tolerance.natAbs / second then
            .ok timestamp
          else .error (.expired timestamp)) ∧
        v.withTolerance (-tolerance) = w ∧
        (tolerance.natAbs ≤ longestTolerance →
          (wordNow now).toInt = now.seconds ∧
          w.wordTolerance.toInt = (tolerance.natAbs / second : Nat) ∧
          (absDiff (wordNow now) timestamp).toNat = (now.seconds - timestamp.toInt).natAbs ∧
          answer = w.wordVerdict timestamp now) := by
  obtain ⟨v, hv⟩ := exists_ofKey hkey
  refine ⟨v, hv, fun tolerance timestamp body now => ?_⟩
  intro w answer
  have hanswer : answer = w.verdict timestamp now :=
    (fst_verify ..).trans (check_of_authentic (rates_sign w timestamp body) now)
  refine ⟨hanswer, ?_, fun hlongest => ⟨toInt_wordNow now, toInt_wordTolerance hlongest, ?_, ?_⟩⟩
  · exact congrArg (WebhookVerifier.mk v.key) (Int.natAbs_neg tolerance)
  · rw [toNat_absDiff, toInt_wordNow]
  · rw [hanswer, wordVerdict_eq hlongest]

/-- Ten whole seconds are allowed, before and after. The earliest time of all is far enough away. -/
theorem signed_notifications_are_taken_in_the_window_of_ten_seconds :
    let epoch : Instant := ⟨0, 0, by decide, by decide⟩
    let body : List UInt8 := [0x3A]
    Text.isBlankText " k" = false ∧ ∃ v, ofKey " k" = .ok v ∧
      let w := v.withTolerance (-10999999999)
      (w.verify (w.sign (-10) body) body epoch).1 = .ok (-10) ∧
      (w.verify (w.sign 11 body) body epoch).1 = .error (.expired 11) ∧
      (w.verify (w.sign Int64.minValue body) body epoch).1 =
        .error (.expired Int64.minValue) ∧
      (absDiff (wordNow epoch) Int64.minValue).toNat = 0x8000000000000000 := by
  intro epoch body
  have hkey : Text.isBlankText " k" = false := by decide
  obtain ⟨v, hv, hwindow⟩ := signed_notifications_are_taken_in_the_window " k" hkey
  obtain ⟨hbefore, -⟩ := hwindow (-10999999999) (-10) body epoch
  obtain ⟨hafter, -⟩ := hwindow (-10999999999) 11 body epoch
  obtain ⟨hearliest, -, hwords⟩ := hwindow (-10999999999) Int64.minValue body epoch
  obtain ⟨-, -, hdistance, -⟩ := hwords (by decide)
  exact ⟨hkey, v, hv, hbefore.trans (if_pos (by decide)), hafter.trans (if_neg (by decide)),
    hearliest.trans (if_neg (by decide)), hdistance.trans (by decide)⟩

end RentalGuard.WebhookVerifier
