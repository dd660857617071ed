import Calculator.Analysis.Normal
import Calculator.Proofs.Arithmetic.Exact
import Mathlib.Data.Sign.Basic
import Mathlib.Order.Monotone.Odd
import Mathlib.Tactic.Linarith
import Mathlib.Tactic.Positivity
import Mathlib.Tactic.Ring

/-!
# The law of the approximate normal distribution

The approximate error function is one less a polynomial in `t` times a decay, where `t` falls
from one as the magnitude grows. The polynomial rises everywhere and stays below one up to one.
So in exact arithmetic the approximation lies between zero and one and rises, whatever the
exponential function is, and the probabilities rise about one half.
-/

namespace Calculator
namespace Normal

section Definitions

variable {K : Type} [Field K]

/-- The polynomial of the approximation, divided by its argument. -/
def cofactor (t : K) : K :=
  (((1.061405429 * t + -1.453152027) * t + 1.421413741) * t + -0.284496736) * t + 0.254829592

/-- The polynomial of the approximation. -/
def polynomial (t : K) : K :=
  cofactor t * t

/-- The derivative of the polynomial. -/
def polynomialSlope (t : K) : K :=
  (((5.0 * 1.061405429 * t + 4.0 * -1.453152027) * t + 3.0 * 1.421413741) * t
    + 2.0 * -0.284496736) * t + 0.254829592

/-- What the slope of a chord of the polynomial has over the slope at its middle. -/
def chordExcess (middle width : K) : K :=
  (2.5 * 1.061405429 * middle ^ 2 + -1.453152027 * middle + 0.25 * 1.421413741) * width ^ 2
    + 0.0625 * 1.061405429 * width ^ 4

/-- The argument of the polynomial, which falls from one as the magnitude grows. -/
def recess (z : K) : K :=
  1 / (1 + 0.3275911 * z)

/-- The approximate error function of a magnitude, under any exponential function. -/
def error (exp : K → K) (z : K) : K :=
  1 - polynomial (recess z) * exp (-z * z)

variable [LinearOrder K]

/-- The approximate error function on either side of zero, in units of the given size. -/
def signedError (exp : K → K) (unit x : K) : K :=
  SignType.sign x * error exp (|x| / unit)

/-- The share of the values below `x`. -/
def share (exp : K → K) (unit x : K) : K :=
  0.5 * (1 + signedError exp unit x)

/-- The share of the values below `x`, moved into the unit interval. -/
def clampedShare (exp : K → K) (unit x : K) : K :=
  min (max (share exp unit x) 0) 1

/-- A function that is positive, rises, and is one at zero. -/
structure IsExponential (exp : K → K) : Prop where
  pos : ∀ x, 0 < exp x
  strictMono : StrictMono exp
  map_zero : exp 0 = 1

/-- Shares strictly between zero and one that rise about one half. -/
structure RisesAboutHalf (law : K → K) : Prop where
  strictMono : StrictMono law
  pos : ∀ x, 0 < law x
  lt_one : ∀ x, law x < 1
  half_lt_iff : ∀ x, 1 / 2 < law x ↔ 0 < x
  map_neg : ∀ x, law (-x) = 1 - law x

/-- The clamp never acts on such shares. -/
theorem RisesAboutHalf.clampedShare_eq
    {exp : K → K}
    {unit : K}
    (rises : RisesAboutHalf (share exp unit))
    (x : K) :
    clampedShare exp unit x = share exp unit x := by
  rw [clampedShare, max_eq_left (rises.pos x).le, min_eq_left (rises.lt_one x).le]

end Definitions

/-! ## The polynomial -/

section Polynomial

variable {K : Type} [Field K] [LinearOrder K] [IsStrictOrderedRing K]

theorem cofactor_pos (t : K) : 0 < cofactor t := by
  rw [cofactor]
  nlinarith [sq_nonneg (t * (t - 0.7)), sq_nonneg (t - 0.15)]

theorem polynomialSlope_pos (t : K) : 0 < polynomialSlope t := by
  rw [polynomialSlope]
  nlinarith [sq_nonneg (t * (t - 0.55)), sq_nonneg (t - 0.1)]

theorem chordExcess_nonneg (middle width : K) : 0 ≤ chordExcess middle width := by
  have bent : (0 : K) <
      2.5 * 1.061405429 * middle ^ 2 + -1.453152027 * middle + 0.25 * 1.421413741 := by
    nlinarith [sq_nonneg (middle - 0.27)]
  rw [chordExcess]
  positivity

/-- The slope of a chord is the slope at its middle and an excess. -/
theorem polynomial_sub (a b : K) :
    polynomial b - polynomial a =
      (b - a) * (polynomialSlope ((a + b) / 2) + chordExcess ((a + b) / 2) (b - a)) := by
  simp only [polynomial, cofactor, polynomialSlope, chordExcess]
  norm_num
  ring

theorem polynomial_strictMono : StrictMono (polynomial : K → K) := by
  intro a b less
  have slope := polynomialSlope_pos ((a + b) / 2)
  have excess := chordExcess_nonneg ((a + b) / 2) (b - a)
  rw [← sub_pos, polynomial_sub]
  exact mul_pos (sub_pos.mpr less) (by linarith)

theorem polynomial_pos {t : K} (positive : 0 < t) : 0 < polynomial t :=
  mul_pos (cofactor_pos t) positive

theorem polynomial_one_lt : polynomial (1 : K) < 1 := by
  rw [polynomial, cofactor]
  norm_num

theorem recess_pos {z : K} (magnitude : 0 ≤ z) : 0 < recess z := by
  rw [recess]
  positivity

theorem recess_strictAntiOn : StrictAntiOn (recess : K → K) (Set.Ici 0) := by
  intro z (magnitude : 0 ≤ z) w _ less
  have divisor : (0 : K) < 1 + 0.3275911 * z := by positivity
  exact one_div_lt_one_div_of_lt divisor (by linarith)

theorem recess_zero : recess (0 : K) = 1 := by
  simp [recess]

/-- Up to one the polynomial stays below one. -/
theorem polynomial_recess_lt_one {z : K} (magnitude : 0 ≤ z) : polynomial (recess z) < 1 := by
  have bounded : recess z ≤ 1 := by
    rw [← recess_zero]
    exact recess_strictAntiOn.antitoneOn Set.self_mem_Ici magnitude magnitude
  exact (polynomial_strictMono.monotone bounded).trans_lt polynomial_one_lt

end Polynomial

/-! ## The error function -/

section Error

variable {K : Type} [Field K] [LinearOrder K] [IsStrictOrderedRing K] {exp : K → K}

section Magnitude

variable (exponential : IsExponential exp) {z : K}

include exponential

theorem error_lt_one (magnitude : 0 ≤ z) : error exp z < 1 := by
  have left := mul_pos (polynomial_pos (recess_pos magnitude)) (exponential.pos (-z * z))
  rw [error]
  linarith

theorem error_pos (magnitude : 0 ≤ z) : 0 < error exp z := by
  have decayed : exp (-z * z) ≤ 1 := by
    rw [← exponential.map_zero]
    exact exponential.strictMono.monotone (by nlinarith)
  have left : polynomial (recess z) * exp (-z * z) < 1 :=
    mul_lt_one_of_nonneg_of_lt_one_left (polynomial_pos (recess_pos magnitude)).le
      (polynomial_recess_lt_one magnitude) decayed
  rw [error]
  linarith

/-- The polynomial and the decay both fall as the magnitude grows. -/
theorem error_strictMonoOn : StrictMonoOn (error exp) (Set.Ici 0) := by
  intro z (magnitude : 0 ≤ z) w (magnitude' : 0 ≤ w) less
  have polynomials : polynomial (recess w) < polynomial (recess z) :=
    polynomial_strictMono (recess_strictAntiOn magnitude magnitude' less)
  have decays : exp (-w * w) < exp (-z * z) := exponential.strictMono (by nlinarith)
  have products : polynomial (recess w) * exp (-w * w) < polynomial (recess z) * exp (-z * z) :=
    mul_lt_mul'' polynomials decays (polynomial_pos (recess_pos magnitude')).le
      (exponential.pos _).le
  rw [error, error]
  linarith

end Magnitude

variable (exp) (unit x : K)

theorem signedError_zero : signedError exp unit 0 = 0 := by
  simp [signedError]

theorem signedError_neg : signedError exp unit (-x) = -signedError exp unit x := by
  simp [signedError, Left.sign_neg]

theorem share_zero : share exp unit 0 = 1 / 2 := by
  rw [share, signedError_zero]
  norm_num

theorem share_neg : share exp unit (-x) = 1 - share exp unit x := by
  rw [share, share, signedError_neg]
  ring

/-- The clamp keeps opposite shares apart by as much on either side of one half. -/
theorem clampedShare_neg : clampedShare exp unit (-x) = 1 - clampedShare exp unit x := by
  rw [clampedShare, clampedShare, share_neg]
  rcases le_total (share exp unit x) 0 with low | notLow
  · rw [max_eq_right low, max_eq_left (by linarith), min_eq_right (by linarith),
      min_eq_left zero_le_one, sub_zero]
  · rw [max_eq_left notLow]
    rcases le_total (share exp unit x) 1 with notHigh | high
    · rw [max_eq_left (by linarith), min_eq_left (by linarith), min_eq_left notHigh]
    · rw [max_eq_right (by linarith), min_eq_left zero_le_one, min_eq_right high, sub_self]

variable {exp unit x}

theorem signedError_of_pos (positive : 0 < x) : signedError exp unit x = error exp (x / unit) := by
  simp [signedError, sign_pos positive, abs_of_pos positive]

variable (exponential : IsExponential exp) (unit_pos : 0 < unit)

include exponential unit_pos

theorem signedError_strictMono : StrictMono (signedError exp unit) := by
  refine strictMono_of_odd_strictMonoOn_nonneg (signedError_neg exp unit) ?_
  intro x (first : 0 ≤ x) y _ less
  have positive : 0 < y := first.trans_lt less
  have magnitude : 0 < y / unit := div_pos positive unit_pos
  rw [signedError_of_pos positive]
  rcases first.eq_or_lt with rfl | first
  · rw [signedError_zero]
    exact error_pos exponential magnitude.le
  · have magnitudes : x / unit < y / unit := div_lt_div_of_pos_right less unit_pos
    rw [signedError_of_pos first]
    exact error_strictMonoOn exponential (div_pos first unit_pos).le magnitude.le magnitudes

theorem signedError_lt_one (x : K) : signedError exp unit x < 1 := by
  rcases le_or_gt x 0 with notPositive | positive
  · have bounded := (signedError_strictMono exponential unit_pos).monotone notPositive
    rw [signedError_zero] at bounded
    exact bounded.trans_lt one_pos
  · rw [signedError_of_pos positive]
    exact error_lt_one exponential (div_pos positive unit_pos).le

theorem risesAboutHalf_share : RisesAboutHalf (share exp unit) := by
  have rises : StrictMono (share exp unit) := by
    intro x y less
    have errors := signedError_strictMono exponential unit_pos less
    rw [share, share]
    linarith
  have bounded (x : K) : share exp unit x < 1 := by
    have error := signedError_lt_one exponential unit_pos x
    rw [share]
    linarith
  refine ⟨rises, ?_, bounded, ?_, share_neg exp unit⟩
  · intro x
    have opposite := bounded (-x)
    rw [share_neg] at opposite
    linarith
  · intro x
    rw [← share_zero exp unit]
    exact rises.lt_iff_lt

end Error

/-! ## Exact arithmetic -/

section Exact

open Exact

variable {K : Type} [Field K] [LinearOrder K] [IsStrictOrderedRing K] [Functions K]

/-- The clamp moves a scalar to the nearer end of the unit interval. -/
theorem clamped_eq (p : K) : clamped p = min (max p 0) 1 := by
  simp only [clamped, less_iff, ofScientific_eq, zero_eq, one_eq]
  rw [max_def_lt, min_comm, min_def_lt]

theorem errorFunction_eq (z : K) : errorFunction z = error Functions.exp z := by
  simp only [errorFunction, ofScientific_eq, one_eq]
  rfl

/-- In exact arithmetic a probability is a share under the clamp. -/
theorem probability_eq (x : K) :
    probability x = .ok (clampedShare Functions.exp (Functions.sqrt 2) x) := by
  have half : (0.5 : K) = 1 / 2 := by norm_num
  have two : (2.0 : K) = 2 := by norm_num
  rw [probability, isNaN_eq, if_neg Bool.false_ne_true]
  simp only [isZero_iff, isNegative_iff, clamped_eq, errorFunction_eq, ofScientific_eq, half, two,
    one_eq]
  split
  · subst x
    rw [clampedShare, share_zero]
    norm_num
  · next apart =>
    have sign : (if x < 0 then -1 else 1 : K) = SignType.sign x := by
      split
      · next negative => rw [sign_neg negative, SignType.coe_neg_one]
      · next notNegative =>
        rw [sign_pos (lt_of_le_of_ne (not_lt.mp notNegative) (Ne.symm apart)), SignType.coe_one]
    have middle : 1 / 2 * (1 + SignType.sign x * error Functions.exp (|x| / Functions.sqrt 2)) =
        share Functions.exp (Functions.sqrt 2) x := by
      rw [share, signedError]
      ring
    rw [clampedShare, ← middle, ← sign]
    rfl

/-- Under an exponential function that is positive, rises, and is one at zero, the probabilities
are the shares, which the clamp leaves as they are. They rise, lie strictly between zero and one,
exceed one half exactly above zero, and those of opposite bounds add up to one. -/
theorem probability_rises_about_half
    (root_pos : 0 < (Functions.sqrt 2 : K))
    (exponential : IsExponential (Functions.exp : K → K)) :
    (∀ x : K, probability x = .ok (share Functions.exp (Functions.sqrt 2) x)) ∧
      RisesAboutHalf (share (Functions.exp : K → K) (Functions.sqrt 2)) := by
  have rises := risesAboutHalf_share exponential root_pos
  refine ⟨fun x => ?_, rises⟩
  rw [probability_eq, rises.clampedShare_eq]

/-- The real exponential function and the real root of two give more than one half below one. -/
theorem probability_rises_about_half_at_one :
    0 < Real.sqrt 2 ∧ IsExponential Real.exp ∧
      ∃ p, probability (1 : ℝ) = .ok p ∧ 2⁻¹ < p ∧ p < 1 := by
  have root_pos : 0 < Real.sqrt 2 := Real.sqrt_pos.mpr two_pos
  have exponential : IsExponential Real.exp :=
    ⟨Real.exp_pos, Real.exp_strictMono, Real.exp_zero⟩
  obtain ⟨shares, rises⟩ := probability_rises_about_half root_pos exponential
  have above := (rises.half_lt_iff 1).mpr one_pos
  rw [one_div] at above
  exact ⟨root_pos, exponential, _, shares 1, above, rises.lt_one 1⟩

end Exact

end Normal
end Calculator
