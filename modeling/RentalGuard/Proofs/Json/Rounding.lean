import RentalGuard.Json.Shortest
import Mathlib.Data.Nat.Dist

/-! # Rounding to doubles, and the decimals for which they are written

Rounding gives a double that is as near as any. The decimal for which a double is written has the
double next to it, and no decimal on a coarser grid has.
-/

namespace RentalGuard

/-! ## Rounding -/

section

variable {num den : Nat}

theorem roundedQuotient_cases :
    roundedQuotient num den = num / den ∨ roundedQuotient num den = num / den + 1 := by
  unfold roundedQuotient
  dsimp only
  split
  · exact .inl rfl
  · exact .inr rfl

/-- No multiple is nearer than the rounded quotient. -/
theorem roundedQuotient_closest (hden : 0 < den) (k : Nat) :
    Nat.dist num (roundedQuotient num den * den) ≤ Nat.dist num (k * den) := by
  have hdiv := Nat.div_add_mod' num den
  have hrest := Nat.mod_lt num hden
  have hside : k * den ≤ num / den * den ∨ num / den * den + den ≤ k * den := by
    rcases Nat.lt_or_ge (num / den) k with hlt | hle
    · refine .inr ?_
      rw [← Nat.succ_mul]
      exact Nat.mul_le_mul_right den hlt
    · exact .inl (Nat.mul_le_mul_right den hle)
  unfold roundedQuotient Nat.dist
  dsimp only
  split
  · omega
  · rw [Nat.succ_mul]
    omega

/-- A rounded quotient with the place of its last digit is as near as any other with that place. -/
theorem nearest_closest_of_place (num : Nat) (hden : 0 < den) (k : Nat) :
    Nat.dist num (nearest num den * den) ≤
      Nat.dist num (k * Nat.pow 2 ((num / den).log2 - 52) * den) := by
  have hplace : 0 < Nat.pow 2 ((num / den).log2 - 52) := Nat.pow_pos (by decide)
  unfold nearest
  dsimp only
  rw [Nat.mul_right_comm, Nat.mul_right_comm k, Nat.mul_assoc, Nat.mul_assoc]
  exact roundedQuotient_closest (Nat.mul_pos hden hplace) k

/-- No double is nearer. -/
theorem nearest_closest (hden : 0 < den) {g : Nat} (hg : Nat.pow 2 (g.log2 - 52) ∣ g) :
    Nat.dist num (nearest num den * den) ≤ Nat.dist num (g * den) := by
  have hround := nearest_closest_of_place num hden
  by_cases hquotient : num / den = 0
  · have hplace : Nat.pow 2 ((num / den).log2 - 52) = 1 := by
      rw [hquotient]
      rfl
    have hclosest := hround g
    rwa [hplace, Nat.mul_one] at hclosest
  rcases Nat.lt_or_ge g (Nat.pow 2 (num / den).log2) with hlt | hge
  · -- the first digit of the quotient lies between it and all smaller numbers
    have hfirst : Nat.pow 2 (num / den).log2 * den ≤ num :=
      Nat.le_trans (Nat.mul_le_mul_right den (Nat.log2_self_le hquotient)) (Nat.div_mul_le_self ..)
    have hless : g * den ≤ Nat.pow 2 (num / den).log2 * den :=
      Nat.mul_le_mul_right den (Nat.le_of_lt hlt)
    obtain ⟨k, hk⟩ : Nat.pow 2 ((num / den).log2 - 52) ∣ Nat.pow 2 (num / den).log2 :=
      Nat.pow_dvd_pow 2 (Nat.sub_le ..)
    have hclosest := hround k
    rw [Nat.mul_comm k, ← hk] at hclosest
    unfold Nat.dist at hclosest ⊢
    omega
  · have hne : g ≠ 0 := by
      rintro rfl
      exact absurd hge (Nat.not_le_of_lt (Nat.pow_pos (by decide)))
    have hlog : (num / den).log2 ≤ g.log2 := (Nat.le_log2 hne).mpr hge
    obtain ⟨k, hk⟩ : Nat.pow 2 ((num / den).log2 - 52) ∣ g :=
      Nat.dvd_trans (Nat.pow_dvd_pow 2 (Nat.sub_le_sub_right hlog 52)) hg
    have hclosest := hround k
    rwa [Nat.mul_comm k, ← hk] at hclosest

theorem nearest_pow_two (places : Nat) : nearest (Nat.pow 2 places) 1 = Nat.pow 2 places := by
  have hexact : Nat.pow 2 ((1 * Nat.pow 2 places).log2 - 52) ∣ 1 * Nat.pow 2 places :=
    pow_log2_dvd Nat.one_le_two_pow
  rw [Nat.one_mul] at hexact
  exact nearest_of_dvd hexact

/-- A greater number is not rounded to a smaller one. -/
theorem nearest_mono {num' : Nat} (hden : 0 < den) (h : num ≤ num') :
    nearest num den ≤ nearest num' den := by
  rcases Nat.lt_or_ge (nearest num' den) (nearest num den) with hlt | hle
  · -- each of the two would be nearer to the other number
    have hclosest : Nat.dist num _ ≤ Nat.dist num (nearest num' den * den) :=
      nearest_closest hden nearest_exact
    have hclosest' : Nat.dist num' _ ≤ Nat.dist num' (nearest num den * den) :=
      nearest_closest hden nearest_exact
    have hless := (Nat.mul_lt_mul_right hden).mpr hlt
    have hsame : num = num' := by
      unfold Nat.dist at hclosest hclosest'
      omega
    rw [hsame]
  · exact hle

end

/-! ## Decimals -/

namespace Decimal

theorem pow_add_ten (m n : Nat) : Nat.pow 10 m * Nat.pow 10 n = Nat.pow 10 (m + n) :=
  (Nat.pow_add 10 m n).symm

theorem pow_ten_pos (n : Nat) : 0 < Nat.pow 10 n := Nat.pow_pos (by decide)

/-- Zeros at the end can be counted in the exponent instead. -/
theorem units_mul_pow (coefficient places : Nat) (exponent : Int) :
    units ⟨coefficient * Nat.pow 10 places, exponent - places⟩ = units ⟨coefficient, exponent⟩ := by
  have hplaces : places + (exponent - places).toNat + (-exponent).toNat =
      exponent.toNat + (-(exponent - places)).toNat := by omega
  refine nearest_congr (pow_ten_pos _) (pow_ten_pos _) ?_
  dsimp only
  rw [Nat.mul_right_comm coefficient, Nat.mul_assoc (coefficient * unitsOfOne), Nat.mul_assoc,
    Nat.mul_assoc (coefficient * unitsOfOne), pow_add_ten, pow_add_ten, hplaces, pow_add_ten]

/-- With so many zeros at the end, a decimal has as many binary places before the point. -/
theorem pow_two_le_units {d : Decimal} {n : Nat} (hne : d.coefficient ≠ 0)
    (h : (n : Int) ≤ d.exponent) : Nat.pow 2 n * unitsOfOne ≤ d.units := by
  have hplaces : n ≤ d.exponent.toNat := by omega
  have hnone : (-d.exponent).toNat = 0 := by omega
  have hsum : Nat.pow 2 n * unitsOfOne = Nat.pow 2 (n + unitPlaces) :=
    (Nat.pow_add 2 n unitPlaces).symm
  have hpow : Nat.pow 2 n ≤ Nat.pow 10 d.exponent.toNat :=
    Nat.le_trans (Nat.pow_le_pow_left (by decide) n) (Nat.pow_le_pow_right (by decide) hplaces)
  have hcoefficient : unitsOfOne ≤ d.coefficient * unitsOfOne :=
    Nat.le_mul_of_pos_left _ (Nat.pos_of_ne_zero hne)
  rw [Decimal.units, hnone, hsum, ← nearest_pow_two, ← hsum, Nat.mul_comm]
  exact nearest_mono (by decide) (Nat.mul_le_mul hcoefficient hpow)

section

variable {units : Nat}

theorem eq_of_onGrid? {exponent : Int} {d : Decimal} (h : onGrid? units exponent = some d) :
    d.units = units ∧ d.exponent = exponent := by
  unfold onGrid? at h
  refine ⟨beq_iff_eq.mp (List.find?_some h :), ?_⟩
  obtain ⟨m, -, rfl⟩ := List.mem_map.mp (List.mem_of_find?_eq_some h)
  rfl

/-- Every double is on the finest grid. -/
theorem units_finest (hunits : Nat.pow 2 (units.log2 - 52) ∣ units) :
    Decimal.units ⟨units * Nat.pow 5 unitPlaces, finest⟩ = units := by
  have hten : Nat.pow 5 unitPlaces * unitsOfOne = Nat.pow 10 unitPlaces :=
    (Nat.mul_pow 5 2 unitPlaces).symm
  have hpositive : finest.toNat = 0 := by unfold finest; omega
  have hnegative : (-finest).toNat = unitPlaces := by unfold finest; omega
  unfold Decimal.units
  dsimp only
  rw [hpositive, hnegative, Nat.mul_assoc units, hten, show Nat.pow 10 0 = 1 from rfl, Nat.mul_one]
  exact nearest_mul_self hunits (pow_ten_pos unitPlaces)

/-- The decimal that is found has the double next to it. -/
theorem units_shortest (hunits : Nat.pow 2 (units.log2 - 52) ∣ units) (places : Nat) :
    (shortest units places).units = units := by
  induction places with
  | zero =>
    rw [shortest]
    exact units_finest hunits
  | succ places ih =>
    rw [shortest]
    cases h : onGrid? units (finest + (places + 1 : Nat)) with
    | none => exact ih
    | some d => exact (eq_of_onGrid? h).1

theorem mem_neighbours {num den : Nat} :
    num / den ∈ neighbours num den ∧ num / den + 1 ∈ neighbours num den := by
  unfold neighbours
  dsimp only
  rcases (roundedQuotient_cases : roundedQuotient num den = _ ∨ _) with heq | heq
  · simp [heq]
  · simp [heq]

/-- If a multiple of the step is rounded like a number, then so is one of the two multiples on either
side of the number. -/
theorem exists_neighbour {num step scale c : Nat} (hstep : 0 < step) (hscale : 0 < scale)
    (h : nearest (c * step) scale = nearest num scale) :
    ∃ m ∈ neighbours num step, nearest (m * step) scale = nearest num scale := by
  rcases Nat.lt_or_ge (num / step) c with hlt | hle
  · refine ⟨num / step + 1, mem_neighbours.2, Nat.le_antisymm ?_ (nearest_mono hscale ?_)⟩
    · rw [← h]
      exact nearest_mono hscale (Nat.mul_le_mul_right step hlt)
    · exact Nat.le_of_lt (Nat.lt_mul_of_div_lt (Nat.lt_succ_self _) hstep)
  · refine ⟨num / step, mem_neighbours.1, Nat.le_antisymm (nearest_mono hscale ?_) ?_⟩
    · exact Nat.div_mul_le_self num step
    · rw [← h]
      exact nearest_mono hscale (Nat.mul_le_mul_right step hle)

/-- If a decimal of the grid has the double next to it, then one is found. -/
theorem onGrid?_isSome {d : Decimal} (hunits : Nat.pow 2 (units.log2 - 52) ∣ units)
    (h : d.units = units) : (onGrid? units d.exponent).isSome = true := by
  have hself : nearest (units * Nat.pow 10 (-d.exponent).toNat) (Nat.pow 10 (-d.exponent).toNat) =
      units := nearest_mul_self hunits (pow_ten_pos _)
  have hgrid : ∀ m, Decimal.units ⟨m, d.exponent⟩ =
      nearest (m * (unitsOfOne * Nat.pow 10 d.exponent.toNat)) (Nat.pow 10 (-d.exponent).toNat) :=
    fun m => by rw [Decimal.units, Nat.mul_assoc]
  have hstep : 0 < unitsOfOne * Nat.pow 10 d.exponent.toNat :=
    Nat.mul_pos (Nat.pow_pos (by decide)) (pow_ten_pos _)
  obtain ⟨m, hm, hround⟩ := exists_neighbour hstep (pow_ten_pos _)
    (((hgrid d.coefficient).symm.trans h).trans hself.symm)
  refine List.find?_isSome.mpr ⟨⟨m, d.exponent⟩, List.mem_map_of_mem hm, beq_iff_eq.mpr ?_⟩
  rw [hgrid, hround, hself]

/-- No decimal on a coarser grid has. -/
theorem exponent_le_shortest (hunits : Nat.pow 2 (units.log2 - 52) ∣ units) {d : Decimal}
    (h : d.units = units) {places : Nat} (hplaces : d.exponent ≤ finest + places) :
    d.exponent ≤ (shortest units places).exponent := by
  induction places with
  | zero =>
    rw [shortest]
    simpa using hplaces
  | succ places ih =>
    rw [shortest]
    cases hgrid : onGrid? units (finest + (places + 1 : Nat)) with
    | some e =>
      rw [Option.getD_some, (eq_of_onGrid? hgrid).2]
      exact hplaces
    | none =>
      have hne : d.exponent ≠ finest + (places + 1 : Nat) := fun heq => by
        have hsome := onGrid?_isSome hunits h
        rw [heq, hgrid] at hsome
        cases hsome
      exact ih (by omega)

end

end Decimal

end RentalGuard
