/-! Doubles: binary fractions with a sign, 53 significant digits and an exponent of 11 bits. A double
is a whole multiple of the smallest one, so all of them are counted in that unit, and rounding is
division of whole numbers. Only finite doubles can be written in JSON. -/

namespace RentalGuard

/-- The place after the point where the smallest double has its digit. -/
@[irreducible]
def unitPlaces : Nat := 1074

/-- How many of the smallest doubles make one. -/
def unitsOfOne : Nat := Nat.pow 2 unitPlaces

/-- From here on there are no finite doubles. -/
def unitsLimit : Nat := Nat.pow 2 (1024 + unitPlaces)

/-- A finite double. Zero has a sign too. -/
@[ext]
structure Double where
  negative : Bool
  /-- The absolute value, counted in the smallest double. -/
  units : Nat
  /-- All but 53 binary digits are zeros at the end. -/
  exact : Nat.pow 2 (units.log2 - 52) ∣ units
  finite : units < unitsLimit
deriving DecidableEq, Repr

/-- The quotient as a whole number, the nearest one, and of two that are equally near the even
one. -/
def roundedQuotient (num den : Nat) : Nat :=
  let low := num / den
  if 2 * (num % den) < den ∨ 2 * (num % den) = den ∧ low % 2 = 0 then low else low + 1

/-- The quotient, rounded to 53 binary digits. They start at the first digit of the quotient, or
they are those before the point if there are not as many. -/
def nearest (num den : Nat) : Nat :=
  let place := Nat.pow 2 ((num / den).log2 - 52)
  roundedQuotient num (den * place) * place

section

variable {n num den : Nat}

theorem roundedQuotient_le_succ : roundedQuotient num den ≤ num / den + 1 := by
  unfold roundedQuotient
  dsimp only
  split <;> omega

/-- What is written with 53 digits and zeros after them is exact, and so is the number after all
such numbers. -/
theorem pow_log2_dvd {m places : Nat} (hm : m ≤ Nat.pow 2 53) :
    Nat.pow 2 ((m * Nat.pow 2 places).log2 - 52) ∣ m * Nat.pow 2 places := by
  rcases Nat.lt_or_eq_of_le hm with hlt | rfl
  · have hbound : m * Nat.pow 2 places < Nat.pow 2 (53 + places) := by
      have hsum : Nat.pow 2 (53 + places) = Nat.pow 2 53 * Nat.pow 2 places := Nat.pow_add 2 53 places
      rw [hsum]
      exact (Nat.mul_lt_mul_right (Nat.pow_pos (by decide))).mpr hlt
    have hlog : (m * Nat.pow 2 places).log2 - 52 ≤ places := by
      by_cases hzero : m * Nat.pow 2 places = 0
      · rw [hzero]
        exact Nat.zero_le _
      · have := (Nat.log2_lt hzero).mpr hbound
        omega
    exact Nat.dvd_trans (Nat.pow_dvd_pow 2 hlog) (Nat.dvd_mul_left _ _)
  · have hsum : Nat.pow 2 53 * Nat.pow 2 places = Nat.pow 2 (53 + places) :=
      (Nat.pow_add 2 53 places).symm
    rw [hsum]
    exact Nat.pow_dvd_pow 2 (Nat.le_trans (Nat.sub_le _ _) (Nat.le_of_eq Nat.log2_two_pow))

theorem nearest_exact : Nat.pow 2 ((nearest num den).log2 - 52) ∣ nearest num den := by
  refine pow_log2_dvd ?_
  have hquotient : num / (den * Nat.pow 2 ((num / den).log2 - 52)) < Nat.pow 2 53 := by
    rw [← Nat.div_div_eq_div_mul]
    refine Nat.div_lt_of_lt_mul (Nat.lt_of_lt_of_le Nat.lt_log2_self ?_)
    have hsum : Nat.pow 2 ((num / den).log2 - 52) * Nat.pow 2 53 =
        Nat.pow 2 ((num / den).log2 - 52 + 53) := (Nat.pow_add 2 _ 53).symm
    rw [hsum]
    exact Nat.pow_le_pow_right (by decide) (by omega)
  exact Nat.le_trans roundedQuotient_le_succ hquotient

theorem roundedQuotient_of_dvd (hden : 0 < den) (h : den ∣ num) :
    roundedQuotient num den = num / den := by
  unfold roundedQuotient
  rw [Nat.mod_eq_zero_of_dvd h]
  exact if_pos (.inl hden)

/-- A number that fits in 53 digits is not changed. -/
theorem nearest_of_dvd (h : Nat.pow 2 (n.log2 - 52) ∣ n) : nearest n 1 = n := by
  have hquotient : roundedQuotient n (Nat.pow 2 (n.log2 - 52)) = n / Nat.pow 2 (n.log2 - 52) :=
    roundedQuotient_of_dvd (Nat.pow_pos (by decide)) h
  unfold nearest
  dsimp only
  rw [Nat.div_one, Nat.one_mul, hquotient]
  exact Nat.div_mul_cancel h

theorem roundedQuotient_mul {c : Nat} (hc : 0 < c) :
    roundedQuotient (num * c) (den * c) = roundedQuotient num den := by
  have hlt : 2 * (num % den * c) < den * c ↔ 2 * (num % den) < den := by
    rw [← Nat.mul_assoc]
    exact Nat.mul_lt_mul_right hc
  have heq : 2 * (num % den * c) = den * c ↔ 2 * (num % den) = den := by
    rw [← Nat.mul_assoc]
    exact Nat.mul_left_inj (Nat.ne_of_gt hc)
  simp only [roundedQuotient, Nat.mul_div_mul_right _ _ hc, Nat.mul_mod_mul_right, hlt, heq]

theorem nearest_mul {c : Nat} (hc : 0 < c) : nearest (num * c) (den * c) = nearest num den := by
  unfold nearest
  dsimp only
  rw [Nat.mul_div_mul_right _ _ hc, Nat.mul_right_comm, roundedQuotient_mul hc]

theorem nearest_mul_self {c : Nat} (h : Nat.pow 2 (n.log2 - 52) ∣ n) (hc : 0 < c) :
    nearest (n * c) c = n := by
  have hscale : nearest (n * c) (1 * c) = nearest n 1 := nearest_mul hc
  rwa [Nat.one_mul, nearest_of_dvd h] at hscale

/-- Equal fractions are rounded alike. -/
theorem nearest_congr {num' den' : Nat} (hden : 0 < den) (hden' : 0 < den')
    (h : num * den' = num' * den) : nearest num den = nearest num' den' := by
  rw [← nearest_mul hden', h, Nat.mul_comm den, nearest_mul hden]

end

namespace Double

/-- The double next to a fraction of the smallest one, unless it is too large. -/
def nearest? (negative : Bool) (num den : Nat) : Option Double :=
  if h : nearest num den < unitsLimit then some ⟨negative, nearest num den, nearest_exact, h⟩
  else none

def zero (negative : Bool) : Double :=
  ⟨negative, 0, Nat.dvd_zero _, Nat.pow_pos (by decide)⟩

/-- The numbers are equal. The sign of zero does not count. -/
def SameValue (d e : Double) : Prop := d = e ∨ d.units = 0 ∧ e.units = 0

instance (d e : Double) : Decidable (d.SameValue e) := inferInstanceAs (Decidable (_ ∨ _))

end Double

end RentalGuard
