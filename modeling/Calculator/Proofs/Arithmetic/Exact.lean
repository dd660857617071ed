import Calculator.Arithmetic.Scalar
import Mathlib.Algebra.Order.Field.Basic
import Mathlib.Analysis.SpecialFunctions.Log.Base
import Mathlib.Analysis.SpecialFunctions.Pow.Real
import Mathlib.Data.Rat.Cast.OfScientific
import Mathlib.Tactic.NormNum.OfScientific

/-!
# Exact arithmetic

Every ordered field is a type of scalars whose operations are exact. All of its elements are
finite and defined, so that the tests for other values never act, and its integers are within
range however large they are. The elementary functions are left open.

A statement that has operations of its own is made where the field is not yet read as scalars,
which would offer each of them a second time.
-/

namespace Calculator
namespace Exact

/-- The elementary functions on the numbers of a field. Nothing is asked of them. -/
class Functions (K : Type) where
  sqrt : K → K
  exp : K → K
  log : K → K
  log10 : K → K
  sin : K → K
  cos : K → K
  tan : K → K
  pow : K → K → K
  /-- Whether a number is an odd integer. -/
  isOdd : K → Bool

open Classical in
/-- The functions of the real numbers. -/
noncomputable scoped instance real : Functions ℝ where
  sqrt := Real.sqrt
  exp := Real.exp
  log := Real.log
  log10 := Real.logb (10 : ℕ)
  sin := Real.sin
  cos := Real.cos
  tan := Real.tan
  pow base exponent := base ^ exponent
  isOdd x := decide (∃ n : ℤ, Odd n ∧ x = n)

variable {K : Type} [Field K] [LinearOrder K]

section Literals

variable [IsStrictOrderedRing K]

theorem zero_eq : (0.0 : K) = 0 := by
  norm_num

theorem one_eq : (1.0 : K) = 1 := by
  norm_num

end Literals

/-- The arithmetic of an ordered field. It has no undefined value and no infinity, and zero
stands in for them where no test lets them come up. -/
scoped instance scalar : Scalar K where
  ofInt n := n
  quotient m n := m / n
  order x y := some (compare x y)
  orderInt x n := some (compare x n)
  isFinite _ := true
  isSigned x := decide (x < 0)
  nan := 0
  infinity := 0
  abs x := |x|

scoped instance elementary [Functions K] : Elementary K where
  sqrt := Functions.sqrt
  exp := Functions.exp
  log := Functions.log
  log10 := Functions.log10
  sin := Functions.sin
  cos := Functions.cos
  tan := Functions.tan
  pow := Functions.pow
  isOdd := Functions.isOdd

/-- A decimal literal is the fraction that it stands for. -/
theorem ofScientific_eq (mantissa : ℕ) (negative : Bool) (exponent : ℕ) :
    (Scalar.toOfScientific.ofScientific mantissa negative exponent : K) =
      NNRatCast.toOfScientific.ofScientific mantissa negative exponent := rfl

theorem ofInt_natCast (n : ℕ) : (Scalar.ofInt n : K) = n :=
  Int.cast_natCast n

@[simp] theorem ofInt?_eq (n : Int) : (Scalar.ofInt? n : Except Fault K) = .ok (n : K) := rfl

@[simp] theorem exp?_eq [Functions K] (x : K) : Elementary.exp? x = .ok (Functions.exp x) := rfl

@[simp] theorem log?_eq [Functions K] (x : K) : Elementary.log? x = .ok (Functions.log x) := rfl

/-- Exact scalars are compared as they are ordered. -/
@[simp] theorem atMost_iff {x y : K} : Scalar.atMost x y = true ↔ x ≤ y := by
  rw [Scalar.atMost, Bool.or_eq_true, beq_iff_eq, beq_iff_eq]
  change some (compare x y) = some .lt ∨ some (compare x y) = some .eq ↔ x ≤ y
  rw [Option.some_inj, Option.some_inj, compare_lt_iff_lt, compare_eq_iff_eq, le_iff_lt_or_eq]

@[simp] theorem isNaN_eq (x : K) : Scalar.isNaN x = false := rfl

@[simp] theorem isFinite_eq (x : K) : Scalar.isFinite x = true := rfl

@[simp] theorem less_iff {x y : K} : Scalar.less x y = true ↔ x < y := by
  rw [Scalar.less, beq_iff_eq]
  change some (compare x y) = some .lt ↔ x < y
  rw [Option.some_inj, compare_lt_iff_lt]

variable [IsStrictOrderedRing K]

@[simp] theorem isZero_iff {x : K} : Scalar.isZero x = true ↔ x = 0 := by
  rw [Scalar.isZero, Scalar.same, ofScientific_eq, zero_eq, beq_iff_eq]
  change some (compare x 0) = some .eq ↔ x = 0
  rw [Option.some_inj, compare_eq_iff_eq]

@[simp] theorem isPositive_iff {x : K} : Scalar.isPositive x = true ↔ 0 < x := by
  rw [Scalar.isPositive, less_iff, ofScientific_eq, zero_eq]

@[simp] theorem isNegative_iff {x : K} : Scalar.isNegative x = true ↔ x < 0 := by
  rw [Scalar.isNegative, less_iff, ofScientific_eq, zero_eq]

end Exact
end Calculator
