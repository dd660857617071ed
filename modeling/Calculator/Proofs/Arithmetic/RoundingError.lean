import Calculator.Proofs.Arithmetic.Nearest

/-!
# How far rounding moves a number

Rounding to the nearest double moves a number by half of its unit at most. The sums and the
differences of doubles are multiples of the least unit, and so are their products with integers.
Such numbers are moved by a share of themselves, however small they are. No double lies between the
largest one and the limit, and no number is rounded to the limit from farther away than half a unit.
-/

namespace Calculator

open Binary

namespace Binary

variable {q r : ℚ}

theorem unitExponent_abs (q : ℚ) : unitExponent |q| = unitExponent q := by
  rw [unitExponent, unitExponent, abs_abs]

/-! ## Multiples of the least unit -/

/-- A multiple of the least unit. -/
def IsMultiple (q : ℚ) : Prop :=
  ∃ n : ℤ, q = n * 2 ^ (-1074 : ℤ)

theorem IsMultiple.add (left : IsMultiple q) (right : IsMultiple r) : IsMultiple (q + r) := by
  obtain ⟨n, rfl⟩ := left
  obtain ⟨m, rfl⟩ := right
  exact ⟨n + m, by rw [Int.cast_add, add_mul]⟩

theorem IsMultiple.sub (left : IsMultiple q) (right : IsMultiple r) : IsMultiple (q - r) := by
  obtain ⟨n, rfl⟩ := left
  obtain ⟨m, rfl⟩ := right
  exact ⟨n - m, by rw [Int.cast_sub, sub_mul]⟩

theorem IsMultiple.mul_intCast (multiple : IsMultiple q) (n : ℤ) : IsMultiple (q * n) := by
  obtain ⟨m, rfl⟩ := multiple
  exact ⟨m * n, by rw [Int.cast_mul, mul_right_comm]⟩

/-- What a number is rounded to is a multiple of the least unit. -/
theorem isMultiple_nearest (q : ℚ) : IsMultiple (nearest q) := by
  obtain ⟨shift, isShift⟩ : ∃ shift : ℕ, unitExponent q = shift + -1074 := by
    have least := least_le_unitExponent q
    exact ⟨(unitExponent q + 1074).toNat, by omega⟩
  refine ⟨evenRounded (q / 2 ^ unitExponent q) * 2 ^ shift, ?_⟩
  rw [nearest, isShift, zpow_add₀ two_ne_zero, zpow_natCast, Int.cast_mul, Int.cast_pow,
    Int.cast_ofNat, mul_assoc]

/-- An integer is rounded to an integer. -/
theorem exists_nearest_intCast (n : ℤ) : ∃ m : ℤ, nearest n = m := by
  rcases le_or_gt 0 (unitExponent n) with whole | small
  · obtain ⟨power, isPower⟩ := Int.eq_ofNat_of_zero_le whole
    refine ⟨evenRounded (n / 2 ^ unitExponent n) * 2 ^ power, ?_⟩
    rw [nearest, isPower, zpow_natCast]
    push_cast
    rfl
  · obtain ⟨power, isPower⟩ : ∃ power : ℕ, unitExponent n = -power :=
      ⟨(-unitExponent n).toNat, by omega⟩
    have quotient : (n : ℚ) / 2 ^ unitExponent n = (n * 2 ^ power : ℤ) := by
      rw [isPower, zpow_neg, zpow_natCast, div_inv_eq_mul]
      push_cast
      rfl
    refine ⟨n, ?_⟩
    rw [nearest, quotient, evenRounded_intCast, ← quotient, div_mul_cancel₀ _ (by positivity)]

/-! ## Numbers that stay as they are -/

/-- A multiple of a unit stays as it is up to the fifty-third power of two. -/
theorem nearest_mul_zpow_of_le {n exponent : ℤ} (least : -1074 ≤ exponent) (short : |n| ≤ 2 ^ 53) :
    nearest (n * 2 ^ exponent) = n * 2 ^ exponent := by
  rcases short.lt_or_eq with less | isPower
  · exact nearest_mul_zpow least less
  · -- The power is half as large in twice the unit.
    obtain ⟨half, rfl⟩ : ∃ half : ℤ, n = half * 2 := by
      rcases (abs_eq (by norm_num)).mp isPower with rfl | rfl
      · exact ⟨2 ^ 52, by norm_num⟩
      · exact ⟨-2 ^ 52, by norm_num⟩
    have shorter : |half| < 2 ^ 53 := by
      rw [abs_mul, abs_two] at short
      have positive : (0 : ℤ) < 2 ^ 53 := by norm_num
      omega
    have doubled : ((half * 2 : ℤ) : ℚ) * 2 ^ exponent = half * 2 ^ (exponent + 1) := by
      rw [zpow_add_one₀ two_ne_zero, Int.cast_mul, Int.cast_ofNat]
      ring
    rw [doubled]
    exact nearest_mul_zpow (by omega) shorter

/-- What a number is rounded to has at most fifty-three digits in its unit, or is the power of two
above them. -/
theorem exists_nearest_eq_mul (q : ℚ) :
    ∃ n : ℤ, |n| ≤ 2 ^ 53 ∧ nearest q = n * 2 ^ unitExponent q := by
  refine ⟨evenRounded (q / 2 ^ unitExponent q), ?_, rfl⟩
  have positive : (0 : ℚ) < 2 ^ unitExponent q := by positivity
  have inside : |q| ≤ (2 ^ 53 : ℤ) * 2 ^ unitExponent q := by
    rcases eq_or_ne q 0 with rfl | nonzero
    · rw [abs_zero]
      exact mul_nonneg (by norm_num) positive.le
    have above := ((unitExponent_le_iff (abs_pos.mpr nonzero)).mp le_rfl).2
    rw [add_comm, zpow_add₀ two_ne_zero, unitExponent_abs] at above
    exact_mod_cast above.le
  obtain ⟨below, above⟩ := abs_le.mp inside
  have upper := evenRounded_le ((div_le_iff₀ positive).mpr above)
  have lower := evenRounded_le ((le_div_iff₀ positive).mpr ((neg_mul _ _).trans_le below))
  rw [evenRounded_intCast] at upper
  rw [evenRounded_neg, evenRounded_intCast] at lower
  exact abs_le.mpr ⟨lower, upper⟩

theorem nearest_nearest (q : ℚ) : nearest (nearest q) = nearest q := by
  obtain ⟨n, short, isRounded⟩ := exists_nearest_eq_mul q
  rw [isRounded]
  exact nearest_mul_zpow_of_le (least_le_unitExponent q) short

/-- Twice a double is rounded to no other number. -/
theorem nearest_nearest_mul_two (q : ℚ) : nearest (nearest q * 2) = nearest q * 2 := by
  obtain ⟨n, short, isRounded⟩ := exists_nearest_eq_mul q
  have doubled : nearest q * 2 = n * 2 ^ (unitExponent q + 1) := by
    rw [isRounded, zpow_add_one₀ two_ne_zero, mul_assoc]
  rw [doubled]
  have least := least_le_unitExponent q
  exact nearest_mul_zpow_of_le (by omega) short

theorem nearest_natCast {n : ℕ} (short : n < 2 ^ 53) : nearest n = n := by
  have kept : nearest ((n : ℤ) * 2 ^ (0 : ℤ)) = (n : ℤ) * 2 ^ (0 : ℤ) :=
    nearest_mul_zpow (by norm_num) (by rw [Nat.abs_cast]; exact_mod_cast short)
  rwa [zpow_zero, mul_one, Int.cast_natCast] at kept

/-- A number stays at a small integer or above it. -/
theorem natCast_le_nearest {n : ℕ} {q : ℚ} (short : n < 2 ^ 53) (ordered : n ≤ q) :
    n ≤ nearest q :=
  (nearest_natCast short).ge.trans (nearest_mono ordered)

/-! ## The error -/

/-- Rounding moves a number by half of its unit at most. -/
theorem abs_nearest_sub_le (q : ℚ) : |nearest q - q| ≤ 2 ^ unitExponent q / 2 := by
  have positive : (0 : ℚ) < 2 ^ unitExponent q := by positivity
  have near := (isEvenRounding_evenRounded (q / 2 ^ unitExponent q)).near
  rw [nearest]
  generalize (2 : ℚ) ^ unitExponent q = unit at *
  calc |evenRounded (q / unit) * unit - q| = |q / unit - evenRounded (q / unit)| * unit := by
        rw [abs_sub_comm (q / unit), ← abs_of_pos positive, ← abs_mul, abs_of_pos positive,
          sub_mul, div_mul_cancel₀ _ positive.ne']
    _ ≤ 1 / 2 * unit := by gcongr
    _ = unit / 2 := by ring

/-- Less than half of its unit away from a multiple of it a number is rounded there. -/
theorem nearest_eq_of_abs_sub_lt
    {n : ℤ}
    (near : |q - n * 2 ^ unitExponent q| < 2 ^ unitExponent q / 2) :
    nearest q = n * 2 ^ unitExponent q := by
  have positive : (0 : ℚ) < 2 ^ unitExponent q := by positivity
  have nearer : |q / 2 ^ unitExponent q - n| < 1 / 2 := by
    generalize (2 : ℚ) ^ unitExponent q = unit at *
    have scaled : q / unit - n = (q - n * unit) / unit := by
      rw [sub_div, mul_div_cancel_right₀ _ positive.ne']
    rw [scaled, abs_div, abs_of_pos positive, div_lt_iff₀ positive]
    linarith
  rw [nearest, ← IsEvenRounding.eq_evenRounded ⟨nearer.le, fun half => absurd half nearer.ne⟩]

/-- A number above the least unit is moved by a share of itself. -/
theorem abs_nearest_sub_le_of_normal (normal : -1074 < unitExponent q) :
    |nearest q - q| ≤ 2 ^ (-53 : ℤ) * |q| := by
  rcases eq_or_ne q 0 with rfl | nonzero
  · simp
  have below : (2 : ℚ) ^ (unitExponent q + 52) ≤ |q| := by
    rw [← unitExponent_abs] at normal ⊢
    exact ((le_unitExponent_iff (abs_pos.mpr nonzero)).mp le_rfl).resolve_left normal.not_ge
  calc |nearest q - q| ≤ 2 ^ unitExponent q / 2 := abs_nearest_sub_le q
    _ = 2 ^ (-53 : ℤ) * 2 ^ (unitExponent q + 52) := by
        rw [← zpow_add₀ two_ne_zero, div_eq_mul_inv, ← zpow_sub_one₀ two_ne_zero]
        congr 1
        ring
    _ ≤ 2 ^ (-53 : ℤ) * |q| := by gcongr

/-- A multiple of the least unit is moved by a share of itself. -/
theorem abs_nearest_sub_le_of_isMultiple (multiple : IsMultiple q) :
    |nearest q - q| ≤ 2 ^ (-53 : ℤ) * |q| := by
  rcases (least_le_unitExponent q).lt_or_eq with normal | least
  · exact abs_nearest_sub_le_of_normal normal
  · obtain ⟨n, isMultiple⟩ := multiple
    have kept : nearest q = q := by
      rw [nearest, ← least, isMultiple, mul_div_cancel_right₀ _ (by positivity),
        evenRounded_intCast]
    rw [kept, sub_self, abs_zero]
    positivity

/-- A number that is as near to a multiple as rounding would have left it is rounded to another one
that is nearly as near. -/
theorem abs_nearest_sub_le_of_near
    (multiple : IsMultiple r)
    (nonneg : 0 ≤ r)
    (near : |q - r| ≤ 2 ^ (-53 : ℤ) * r) :
    |nearest q - r| ≤ 3 * 2 ^ (-53 : ℤ) * r := by
  have moved : |nearest q - r| ≤ |nearest q - q| + |q - r| := abs_sub_le _ _ _
  rcases (least_le_unitExponent q).lt_or_eq with normal | least
  · have error := abs_nearest_sub_le_of_normal normal
    have size : |q| ≤ |q - r| + r := by
      have split := abs_add_le (q - r) r
      rwa [sub_add_cancel, abs_of_nonneg nonneg] at split
    have small : (2 : ℚ) ^ (-53 : ℤ) ≤ 1 := by norm_num
    have positive : (0 : ℚ) < 2 ^ (-53 : ℤ) := by positivity
    generalize (2 : ℚ) ^ (-53 : ℤ) = u at *
    calc |nearest q - r| ≤ u * (u * r + r) + u * r := by
          refine moved.trans (add_le_add (error.trans ?_) near)
          gcongr
          linarith
      _ = u * (u * r) + 2 * u * r := by ring
      _ ≤ 1 * (u * r) + 2 * u * r := by gcongr
      _ = 3 * u * r := by ring
  · have half : (2 : ℚ) ^ (-53 : ℤ) * 2 ^ (-1022 : ℤ) = 2 ^ unitExponent q / 2 := by
      rw [← least, div_eq_mul_inv, ← zpow_sub_one₀ two_ne_zero, ← zpow_add₀ two_ne_zero]
      rfl
    rcases lt_or_ge r (2 ^ (-1022 : ℤ)) with tiny | normal
    · obtain ⟨n, isMultiple⟩ := multiple
      rw [least] at isMultiple
      have nearer : |q - n * 2 ^ unitExponent q| < 2 ^ unitExponent q / 2 :=
        calc |q - n * 2 ^ unitExponent q| ≤ 2 ^ (-53 : ℤ) * r := isMultiple ▸ near
          _ < 2 ^ (-53 : ℤ) * 2 ^ (-1022 : ℤ) := by gcongr
          _ = 2 ^ unitExponent q / 2 := half
      rw [nearest_eq_of_abs_sub_lt nearer, ← isMultiple, sub_self, abs_zero]
      positivity
    · have error : |nearest q - q| ≤ 2 ^ (-53 : ℤ) * r :=
        calc |nearest q - q| ≤ 2 ^ unitExponent q / 2 := abs_nearest_sub_le q
          _ = 2 ^ (-53 : ℤ) * 2 ^ (-1022 : ℤ) := half.symm
          _ ≤ 2 ^ (-53 : ℤ) * r := by gcongr
      have positive : 0 ≤ 2 ^ (-53 : ℤ) * r := by positivity
      linarith

/-! ## Next to the limit -/

theorem limit_eq_mul : Line.limit = (2 ^ 53 : ℤ) * 2 ^ (971 : ℤ) := by
  have power : (2 : ℚ) ^ (53 + 971 : ℤ) = 2 ^ (53 : ℤ) * 2 ^ (971 : ℤ) := zpow_add₀ two_ne_zero _ _
  exact power.trans (congrArg (· * _) (by norm_num))

theorem unit_eq_two_mul : (2 : ℚ) ^ (971 : ℤ) = 2 * 2 ^ (970 : ℤ) := by
  rw [mul_comm]
  exact zpow_add_one₀ two_ne_zero 970

/-- A number below the limit has at most the unit of the largest double. -/
theorem unitExponent_le_of_lt_limit (positive : 0 < q) (inside : q < Line.limit) :
    unitExponent q ≤ 971 :=
  (unitExponent_le_iff positive).mpr ⟨by norm_num, inside⟩

theorem pos_of_nearest_pos (positive : 0 < nearest q) : 0 < q := by
  by_contra! nonpos
  have rounded := nearest_mono nonpos
  rw [nearest_zero] at rounded
  exact rounded.not_gt positive

/-- What is rounded to less than the limit is less than the limit. -/
theorem lt_limit_of_nearest_lt (inside : nearest q < Line.limit) : q < Line.limit := by
  by_contra! beyond
  have reached := nearest_mono beyond
  rw [Line.nearest_limit] at reached
  exact reached.not_gt inside

/-- A number below the limit is moved by half of the largest unit at most. -/
theorem nearest_sub_le_of_lt_limit (positive : 0 < q) (inside : q < Line.limit) :
    nearest q - q ≤ 2 ^ (970 : ℤ) :=
  calc nearest q - q ≤ 2 ^ unitExponent q / 2 := (le_abs_self _).trans (abs_nearest_sub_le q)
    _ ≤ 2 ^ (971 : ℤ) / 2 := by
        gcongr
        · exact one_le_two
        · exact unitExponent_le_of_lt_limit positive inside
    _ = 2 ^ (970 : ℤ) := by rw [unit_eq_two_mul, mul_div_cancel_left₀ _ two_ne_zero]

/-- A number is rounded to the limit from half a unit below on. -/
theorem sub_le_of_limit_le_nearest (beyond : Line.limit ≤ nearest q) :
    Line.limit - 2 ^ (970 : ℤ) ≤ q := by
  have positive := pos_of_nearest_pos (Line.limit_pos.trans_le beyond)
  rcases le_or_gt Line.limit q with outside | inside
  · exact (sub_le_self _ (by positivity)).trans outside
  · exact sub_le_comm.mp ((sub_le_sub_right beyond q).trans
      (nearest_sub_le_of_lt_limit positive inside))

/-- No number is rounded to less than a unit below the limit. -/
theorem nearest_le_sub_of_lt_limit (inside : nearest q < Line.limit) :
    nearest q ≤ Line.limit - 2 ^ (971 : ℤ) := by
  have last : Line.limit - 2 ^ (971 : ℤ) = ((2 ^ 53 : ℤ) - 1) * 2 ^ (971 : ℤ) := by
    rw [limit_eq_mul, sub_one_mul]
  rw [last]
  rcases le_or_gt (nearest q) 0 with nonpos | nearestPos
  · exact nonpos.trans (mul_nonneg (by norm_num) (by positivity))
  have positive := pos_of_nearest_pos nearestPos
  have below := lt_limit_of_nearest_lt inside
  rcases (unitExponent_le_of_lt_limit positive below).lt_or_eq with smaller | isUnit
  · calc nearest q ≤ (2 ^ 53 : ℤ) * 2 ^ unitExponent q := nearest_le positive
      _ ≤ (2 ^ 53 : ℤ) * 2 ^ (970 : ℤ) := by
          gcongr
          · exact one_le_two
          · omega
      _ ≤ ((2 ^ 53 : ℤ) - 1) * 2 ^ (971 : ℤ) := by
          rw [unit_eq_two_mul, ← mul_assoc]
          gcongr
          norm_num
  · rw [nearest, isUnit] at inside ⊢
    rw [limit_eq_mul] at inside
    have short : evenRounded (q / 2 ^ (971 : ℤ)) < 2 ^ 53 := by
      exact_mod_cast lt_of_mul_lt_mul_right inside (by positivity)
    have atMost : (evenRounded (q / 2 ^ (971 : ℤ)) : ℚ) ≤ (2 ^ 53 : ℤ) - 1 := by
      exact_mod_cast Int.le_sub_one_of_lt short
    gcongr

end Binary

end Calculator
