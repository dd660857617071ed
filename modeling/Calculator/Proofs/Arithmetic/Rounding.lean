import Calculator.Proofs.Arithmetic.Nearest
import Calculator.Proofs.Arithmetic.Sign
import Mathlib.Tactic.NormNum
import Mathlib.Tactic.FieldSimp

/-!
# Rounding of parts

An operation on doubles computes a mantissa with two bits for what lies behind it. Rounding shifts
it to the unit of its size, and what is stored then is the double that is nearest to the number.
-/

namespace Calculator

open Float.Model Float.Model.UnpackedFloat

namespace Double

/-! ## Bits behind the mantissa -/

/-- An extended mantissa stands for a number when that is the mantissa, a half under the round
bit, and a rest below a half that the sticky bit tells from zero. -/
def StandsFor (extended : ExtendedMantissa) (q : ℚ) : Prop :=
  ∃ rest : ℚ, 0 ≤ rest ∧ rest < 1 / 2 ∧ (extended.stickyBit = true ↔ 0 < rest) ∧
    q = extended.mantissa + (if extended.roundBit then 1 / 2 else 0) + rest

theorem standsFor_exact (mantissa : Nat) :
    StandsFor (.ofMantissaAndAccuracy mantissa .exact) mantissa :=
  ⟨0, le_rfl, by norm_num, by simp [ExtendedMantissa.ofMantissaAndAccuracy],
    by simp [ExtendedMantissa.ofMantissaAndAccuracy]⟩

/-- A fraction is told by its order to a half. -/
theorem standsFor_fraction
    {mantissa remainder denominator : Nat}
    (small : remainder < denominator) :
    StandsFor (.ofMantissaAndAccuracy mantissa (accuracyOfFraction remainder denominator))
      (mantissa + remainder / denominator) := by
  have divisor : (0 : ℚ) < denominator := by exact_mod_cast Nat.zero_lt_of_lt small
  have small : (remainder : ℚ) < denominator := by exact_mod_cast small
  rw [accuracyOfFraction]
  split
  · rename_i zero
    rw [zero, Nat.cast_zero, zero_div, add_zero]
    exact standsFor_exact mantissa
  · rename_i nonzero
    have some : (0 : ℚ) < remainder / denominator := by positivity
    rcases lt_trichotomy (2 * remainder) denominator with less | half | greater
    · rw [compare_lt_iff_lt.mpr less]
      have less : 2 * (remainder : ℚ) < denominator := by exact_mod_cast less
      refine ⟨remainder / denominator, some.le, ?_, iff_of_true rfl some, by
        simp [ExtendedMantissa.ofMantissaAndAccuracy]⟩
      rw [div_lt_iff₀ divisor]
      linarith
    · rw [compare_eq_iff_eq.mpr half]
      have half : 2 * (remainder : ℚ) = denominator := by exact_mod_cast half
      refine ⟨0, le_rfl, by norm_num, iff_of_false nofun (lt_irrefl 0), ?_⟩
      rw [← half]
      simp only [ExtendedMantissa.ofMantissaAndAccuracy, if_true, add_zero, add_right_inj]
      field_simp
    · rw [compare_gt_iff_gt.mpr greater]
      have greater : (denominator : ℚ) < 2 * remainder := by exact_mod_cast greater
      refine ⟨remainder / denominator - 1 / 2, ?_, ?_, iff_of_true rfl ?_, by
        simp [ExtendedMantissa.ofMantissaAndAccuracy]⟩
      · rw [sub_nonneg, le_div_iff₀ divisor]
        linarith
      · rw [sub_lt_iff_lt_add, div_lt_iff₀ divisor]
        linarith
      · rw [sub_pos, lt_div_iff₀ divisor]
        linarith

/-- The remainder of a division tells what lies behind the quotient. -/
theorem standsFor_quotient {numerator denominator : Nat} (positive : 0 < denominator) :
    StandsFor
      (.ofMantissaAndAccuracy (numerator / denominator)
        (accuracyOfFraction (numerator % denominator) denominator))
      (numerator / denominator) := by
  have whole : (denominator : ℚ) * (numerator / denominator : Nat) +
      (numerator % denominator : Nat) = numerator := by
    exact_mod_cast Nat.div_add_mod numerator denominator
  have split : (numerator : ℚ) / denominator =
      (numerator / denominator : Nat) + (numerator % denominator : Nat) / denominator := by
    field_simp
    linarith
  rw [split]
  exact standsFor_fraction (Nat.mod_lt numerator positive)

theorem StandsFor.shiftRightOne
    {extended : ExtendedMantissa}
    {q : ℚ}
    (stands : StandsFor extended q) :
    StandsFor extended.shiftRightOne (q / 2) := by
  obtain ⟨rest, nonneg, small, sticky, rfl⟩ := stands
  obtain ⟨mantissa, roundBit, stickyBit⟩ := extended
  have halved : (mantissa : ℚ) / 2 =
      (mantissa / 2 : Nat) + (if mantissa % 2 != 0 then 1 / 2 else 0) := by
    have whole : 2 * ((mantissa / 2 : Nat) : ℚ) + (mantissa % 2 : Nat) = mantissa := by
      exact_mod_cast Nat.div_add_mod mantissa 2
    rcases Nat.mod_two_eq_zero_or_one mantissa with even | odd
    · rw [even] at whole ⊢
      simp only [bne_self_eq_false, Bool.false_eq_true, if_false]
      push_cast at whole
      linarith
    · rw [odd] at whole ⊢
      simp only [Nat.reduceBNe, if_true]
      push_cast at whole
      linarith
  refine ⟨((if roundBit then 1 / 2 else 0) + rest) / 2, ?_, ?_, ?_, ?_⟩
  · split <;> linarith
  · split <;> linarith
  · change (roundBit || stickyBit) = true ↔ _
    change stickyBit = true ↔ _ at sticky
    cases roundBit with
    | false => simpa using sticky
    | true => exact iff_of_true rfl (by simp only [if_true]; linarith)
  · change (mantissa + (if roundBit then 1 / 2 else 0) + rest) / 2 =
      ((mantissa / 2 : Nat) : ℚ) + (if mantissa % 2 != 0 then 1 / 2 else 0) +
        ((if roundBit then 1 / 2 else 0) + rest) / 2
    rw [← halved]
    ring

theorem StandsFor.shiftRight
    {extended : ExtendedMantissa}
    {q : ℚ}
    (stands : StandsFor extended q)
    (count : Nat) :
    StandsFor (extended >>> count) (q / 2 ^ count) := by
  induction count with
  | zero =>
      rw [pow_zero, div_one]
      exact stands
  | succ count countHypothesis =>
      rw [pow_succ, ← div_div]
      exact countHypothesis.shiftRightOne

/-- The two bits decide as the number does. -/
theorem StandsFor.isEvenRounding
    {extended : ExtendedMantissa}
    {q : ℚ}
    (stands : StandsFor extended q) :
    IsEvenRounding q extended.roundedMantissa := by
  obtain ⟨rest, nonneg, small, sticky, rfl⟩ := stands
  obtain ⟨mantissa, roundBit, stickyBit⟩ := extended
  change stickyBit = true ↔ _ at sticky
  change IsEvenRounding (mantissa + (if roundBit then 1 / 2 else 0) + rest) _
  have behind {n : ℤ}
      (distance : |mantissa + (if roundBit then 1 / 2 else 0) + rest - n| < 1 / 2) :
      IsEvenRounding (mantissa + (if roundBit then 1 / 2 else 0) + rest) n :=
    ⟨distance.le, fun atHalf => absurd atHalf distance.ne⟩
  cases roundBit with
  | false =>
      simp only [Bool.false_eq_true, if_false, add_zero] at behind ⊢
      have distance : |(mantissa : ℚ) + rest - (mantissa : ℤ)| < 1 / 2 := by
        rw [Int.cast_natCast, add_sub_cancel_left, abs_of_nonneg nonneg]
        exact small
      cases stickyBit with
      | false => exact behind distance
      | true => exact behind distance
  | true =>
      simp only [if_true] at behind ⊢
      cases stickyBit with
      | false =>
          -- The number lies half way, and the last bit of the mantissa decides.
          have whole : rest = 0 := le_antisymm (not_lt.mp (by simpa using sticky)) nonneg
          subst whole
          change IsEvenRounding _ ((mantissa + mantissa % 2 : Nat) : ℤ)
          rcases Nat.mod_two_eq_zero_or_one mantissa with even | odd
          · rw [even]
            refine ⟨?_, fun _ => ?_⟩
            · norm_num
            · exact_mod_cast Nat.even_iff.mpr even
          · rw [odd]
            refine ⟨?_, fun _ => ?_⟩
            · push_cast
              norm_num [add_sub_add_left_eq_sub]
            · exact_mod_cast (Nat.odd_iff.mpr odd).add_one
      | true =>
          have some : 0 < rest := sticky.mp rfl
          change IsEvenRounding _ ((mantissa + 1 : Nat) : ℤ)
          refine behind ?_
          push_cast
          rw [abs_lt]
          constructor <;> linarith

theorem StandsFor.bounds
    {mantissa : Nat}
    {accuracy : Accuracy}
    {q : ℚ}
    (stands : StandsFor (.ofMantissaAndAccuracy mantissa accuracy) q) :
    mantissa ≤ q ∧ q < mantissa + 1 := by
  obtain ⟨rest, nonneg, small, -, rfl⟩ := stands
  have same : (ExtendedMantissa.ofMantissaAndAccuracy mantissa accuracy).mantissa = mantissa := by
    rcases accuracy with _ | _ | _ | _ <;> rfl
  rw [same]
  constructor
  · split <;> linarith
  · split <;> linarith

/-! ## Shifting to the unit -/

/-- A mantissa has enough digits when it is that long, or its unit is small enough for all
doubles. -/
def IsLong (mantissa : Nat) (exponent : Int) : Prop :=
  52 ≤ mantissa.log2 ∨ exponent ≤ -1074

theorem targetExponent_eq (mantissa : Nat) (exponent : Int) :
    Format.binary64.targetExponent (totalExponent mantissa exponent) =
      max (mantissa.log2 + exponent - 52) (-1074) := by
  change max ((mantissa.log2 : Int) + 1 + exponent - 53) (3 - 2 ^ 10 - 53) = _
  omega

/-- The target of the shift is the unit of the number. -/
theorem targetExponent_eq_unitExponent
    {mantissa : Nat}
    {exponent : Int}
    {accuracy : Accuracy}
    {q : ℚ}
    (stands : StandsFor (.ofMantissaAndAccuracy mantissa accuracy) q)
    (positive : 0 < q)
    (long : IsLong mantissa exponent) :
    Format.binary64.targetExponent (totalExponent mantissa exponent) =
      Binary.unitExponent (q * 2 ^ exponent) := by
  obtain ⟨below, above⟩ := stands.bounds
  have scaled : (0 : ℚ) < q * 2 ^ exponent := by positivity
  have digits : (mantissa : ℚ) + 1 ≤ 2 ^ ((mantissa.log2 : Int) + 1) := by
    exact_mod_cast Nat.lt_log2_self (n := mantissa)
  rw [targetExponent_eq]
  apply le_antisymm
  · rw [Binary.le_unitExponent_iff scaled]
    rcases le_or_gt ((mantissa.log2 : Int) + exponent - 52) (-1074) with small | large
    · exact .inl (by omega)
    · right
      have nonzero : mantissa ≠ 0 := by
        rintro rfl
        rcases long with digits | least
        · simp at digits
        · simp at large
          omega
      have leading : (2 : ℚ) ^ (mantissa.log2 : Int) ≤ mantissa := by
        exact_mod_cast Nat.log2_self_le nonzero
      rw [max_eq_left large.le, sub_add_cancel, zpow_add₀ two_ne_zero]
      gcongr
      exact leading.trans below
  · rw [Binary.unitExponent_le_iff scaled]
    refine ⟨le_max_right _ _, ?_⟩
    calc q * 2 ^ exponent < 2 ^ ((mantissa.log2 : Int) + 1) * 2 ^ exponent := by
          gcongr
          exact above.trans_le digits
      _ = 2 ^ ((mantissa.log2 : Int) + 1 + exponent) := (zpow_add₀ two_ne_zero _ _).symm
      _ ≤ 2 ^ (max ((mantissa.log2 : Int) + exponent - 52) (-1074) + 53) := by
          refine zpow_le_zpow_right₀ one_le_two ?_
          omega

/-- A mantissa of at most fifty-three digits is not shifted. -/
theorem shiftToTargetExponent_of_lt
    {mantissa : Nat}
    {exponent : Int}
    (short : mantissa < 2 ^ 53)
    (least : -1074 ≤ exponent) :
    shiftToTargetExponent .binary64 mantissa exponent .exact =
      (⟨mantissa, false, false⟩, exponent) := by
  have digits : mantissa.log2 < 53 := by
    rcases eq_or_ne mantissa 0 with rfl | nonzero
    · decide
    · exact (Nat.log2_lt nonzero).mpr short
  have none : (Format.binary64.targetExponent (totalExponent mantissa exponent) -
      exponent).toNat = 0 := by
    rw [targetExponent_eq]
    omega
  rw [shiftToTargetExponent, shiftToExponent, none]
  exact congrArg (Prod.mk _) (add_zero exponent)

/-- One that is rounded up to the next power of two is shifted once more. -/
theorem shiftToTargetExponent_of_eq {exponent : Int} (least : -1074 ≤ exponent) :
    shiftToTargetExponent .binary64 (2 ^ 53) exponent .exact =
      (⟨2 ^ 52, false, false⟩, exponent + 1) := by
  have once : (Format.binary64.targetExponent (totalExponent (2 ^ 53) exponent) -
      exponent).toNat = 1 := by
    rw [targetExponent_eq, Nat.log2_two_pow]
    omega
  rw [shiftToTargetExponent, shiftToExponent, once]
  rfl

/-- The first shift leaves the multiple of the unit that the number is rounded to. -/
theorem exists_shiftToTargetExponent
    {mantissa : Nat}
    {exponent : Int}
    {accuracy : Accuracy}
    {q : ℚ}
    (stands : StandsFor (.ofMantissaAndAccuracy mantissa accuracy) q)
    (positive : 0 < q)
    (long : IsLong mantissa exponent) :
    ∃ extended unit, shiftToTargetExponent .binary64 mantissa exponent accuracy = (extended, unit) ∧
      Binary.nearest (q * 2 ^ exponent) = extended.roundedMantissa * 2 ^ unit ∧
      extended.roundedMantissa ≤ 2 ^ 53 ∧ -1074 ≤ unit ∧
      (unit = -1074 ∨ 2 ^ 52 ≤ extended.roundedMantissa) := by
  have target := targetExponent_eq_unitExponent stands positive long
  have scaled : (0 : ℚ) < q * 2 ^ exponent := by positivity
  have least := Binary.least_le_unitExponent (q * 2 ^ exponent)
  have shifts : exponent ≤ Binary.unitExponent (q * 2 ^ exponent) := by
    rw [← target, targetExponent_eq]
    rcases long with digits | small <;> omega
  have most := Binary.nearest_le scaled
  have full := Binary.le_nearest scaled
  rw [shiftToTargetExponent, target, shiftToExponent]
  generalize isUnit : Binary.unitExponent (q * 2 ^ exponent) = unit at *
  obtain ⟨count, rfl⟩ : ∃ count : Nat, unit = exponent + count :=
    ⟨(unit - exponent).toNat, by omega⟩
  have rescaled : q * 2 ^ exponent = q / 2 ^ count * 2 ^ (exponent + count : Int) := by
    rw [zpow_add₀ two_ne_zero, zpow_natCast]
    field_simp
  rw [rescaled] at isUnit
  have isNearest :=
    Binary.nearest_of_unitExponent isUnit (stands.shiftRight count).isEvenRounding
  rw [rescaled, isNearest, Int.cast_natCast] at most full
  rw [rescaled, isNearest, Int.cast_natCast, add_sub_cancel_left, Int.toNat_natCast]
  have unit_pos : (0 : ℚ) < 2 ^ (exponent + count : Int) := by positivity
  refine ⟨_, _, rfl, rfl, ?_, least, ?_⟩
  · exact_mod_cast (mul_le_mul_iff_of_pos_right unit_pos).mp most
  · rcases least.eq_or_lt with same | normal
    · exact .inl same.symm
    · exact .inr (by exact_mod_cast (mul_le_mul_iff_of_pos_right unit_pos).mp (full normal))

/-- Parts of a number are rounded to a multiple of its unit, in the form that doubles have. -/
theorem exists_roundWithAccuracy
    {mantissa : Nat}
    {exponent : Int}
    {accuracy : Accuracy}
    {q : ℚ}
    (stands : StandsFor (.ofMantissaAndAccuracy mantissa accuracy) q)
    (positive : 0 < q)
    (long : IsLong mantissa exponent)
    (sign : Sign) :
    Binary.nearest (q * 2 ^ exponent) = 0 ∧
        roundWithAccuracy .binary64 sign mantissa exponent accuracy = .zero sign ∨
      ∃ mantissa' exponent' positive',
        roundWithAccuracy .binary64 sign mantissa exponent accuracy =
            .finite sign mantissa' exponent' positive' ∧
          (Binary.finite false mantissa' exponent').IsCanonical ∧
          Binary.nearest (q * 2 ^ exponent) = mantissa' * 2 ^ exponent' := by
  obtain ⟨extended, unit, shifted, isNearest, short, least, full⟩ :=
    exists_shiftToTargetExponent stands positive long
  rw [roundWithAccuracy, shifted, isNearest]
  dsimp only
  generalize extended.roundedMantissa = rounded at *
  rcases short.lt_or_eq with less | rfl
  · rw [shiftToTargetExponent_of_lt less least]
    dsimp only
    rcases Nat.eq_zero_or_pos rounded with rfl | nonzero
    · exact .inl ⟨by rw [Nat.cast_zero, zero_mul], rfl⟩
    · rw [dif_neg nonzero.ne']
      exact .inr ⟨rounded, _, nonzero, rfl, ⟨less, least, full⟩, rfl⟩
  · rw [shiftToTargetExponent_of_eq least]
    refine .inr ⟨2 ^ 52, _, by decide, rfl, ⟨by decide, by omega, .inr le_rfl⟩, ?_⟩
    rw [zpow_add_one₀ two_ne_zero]
    push_cast
    ring

end Double
end Calculator
