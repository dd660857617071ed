import Calculator.Arithmetic.Number
import Mathlib.Algebra.Order.Field.Basic
import Mathlib.Data.Option.NAry
import Mathlib.Data.Rat.Cast.OfScientific
import Mathlib.Tactic.NormNum
import Mathlib.Tactic.NormNum.OfScientific

/-!
# Exact arithmetic with an undefined value

The numbers of an ordered field, and beside them one value that is no number. What is computed
from numbers is exact, a quotient over zero is undefined, and so is all that is computed from an
undefined value. No number is infinite, and the integers are within range however large they are.

The elementary functions are left open but for the powers with whole exponents, which are
products.
-/

namespace Calculator
namespace Lifted

open Scalar

/-- The elementary functions on the numbers of a field. A function has no value outside its
domain, and a power with a whole exponent is a product. -/
class Functions (K : Type) [Field K] where
  sqrt : K → Option K
  exp : K → Option K
  log : K → Option K
  log10 : K → Option K
  sin : K → Option K
  cos : K → Option K
  tan : K → Option K
  pow : K → K → Option K
  /-- Whether a number is an odd integer. -/
  isOdd : K → Bool
  pow_natCast : ∀ (base : K) (exponent : ℕ), pow base exponent = some (base ^ exponent)

/-- The powers with integer exponents, which are all of the functions that the rational numbers
are read with. -/
scoped instance rational : Functions ℚ where
  sqrt _ := none
  exp _ := none
  log _ := none
  log10 _ := none
  sin _ := none
  cos _ := none
  tan _ := none
  pow base exponent :=
    if exponent.isInt && (base != 0 || 0 ≤ exponent) then some (base ^ exponent.num) else none
  isOdd x := x.isInt && x.num % 2 != 0
  pow_natCast base exponent := by simp [Rat.isInt]

variable {K : Type} [Field K] [LinearOrder K]

scoped instance scalar : Scalar (Option K) where
  add := Option.map₂ (· + ·)
  sub := Option.map₂ (· - ·)
  mul := Option.map₂ (· * ·)
  div x y := x.bind fun a => y.bind fun b => if b = 0 then none else some (a / b)
  neg := Option.map (- ·)
  ofScientific mantissa negative exponent :=
    some (OfScientific.ofScientific mantissa negative exponent)
  ofInt n := some n
  quotient m n := if n = 0 then none else some (m / n)
  order := Option.map₂ compare
  orderInt x n := x.map fun a => compare a (n : K)
  isFinite := Option.isSome
  isSigned x := x.any (· < 0)
  nan := none
  infinity := none
  abs := Option.map (|·|)

scoped instance elementary [Functions K] : Elementary (Option K) where
  sqrt := (Option.bind · Functions.sqrt)
  exp := (Option.bind · Functions.exp)
  log := (Option.bind · Functions.log)
  log10 := (Option.bind · Functions.log10)
  sin := (Option.bind · Functions.sin)
  cos := (Option.bind · Functions.cos)
  tan := (Option.bind · Functions.tan)
  pow x y := x.bind fun base => y.bind fun exponent => Functions.pow base exponent
  isOdd x := x.any Functions.isOdd

/-! ## Operations on numbers -/

section Operations

variable (x y : K) (a : Option K)

@[simp] theorem some_add_some : (some x + some y : Option K) = some (x + y) := rfl

@[simp] theorem some_sub_some : (some x - some y : Option K) = some (x - y) := rfl

@[simp] theorem some_mul_some : (some x * some y : Option K) = some (x * y) := rfl

@[simp] theorem neg_some : (-some x : Option K) = some (-x) := rfl

@[simp] theorem abs_some : Scalar.abs (some x) = some |x| := rfl

@[simp] theorem isFinite_eq : isFinite a = a.isSome := rfl

@[simp] theorem ofInt_eq (n : Int) : (ofInt n : Option K) = some (n : K) := rfl

theorem some_div_some {y : K} (apart : y ≠ 0) : (some x / some y : Option K) = some (x / y) :=
  if_neg apart

@[simp] theorem some_div_zero : (some x / some 0 : Option K) = none := if_pos rfl

@[simp] theorem mul_none : (a * none : Option K) = none := by
  cases a <;> rfl

@[simp] theorem none_div : (none / a : Option K) = none := rfl

@[simp] theorem div_none : (a / none : Option K) = none := by
  cases a <;> rfl

@[simp] theorem isFinite_some_mul : isFinite (some x * a) = isFinite a := by
  cases a <;> rfl

theorem some_mul_add (b : Option K) : some x * (a + b) = some x * a + some x * b := by
  cases a with
  | none => rfl
  | some y =>
      cases b with
      | none => rfl
      | some z => exact congrArg some (mul_add x y z)

theorem some_mul_left_comm : some x * (some y * a) = some y * (some x * a) := by
  cases a with
  | none => rfl
  | some z => exact congrArg some (mul_left_comm x y z)

theorem some_mul_div (b : Option K) : some x * a / b = some x * (a / b) := by
  cases b with
  | none => simp
  | some z =>
      cases a with
      | none => simp
      | some y =>
          by_cases zero : z = 0
          · simp [zero]
          · simp [some_div_some _ zero, mul_div_assoc]

@[simp] theorem isZero_none : isZero (none : Option K) = false := rfl

@[simp] theorem isPositive_none : isPositive (none : Option K) = false := rfl

@[simp] theorem isNegative_none : isNegative (none : Option K) = false := rfl

@[simp] theorem toScalar_int (n : Int) : (.int n : Number (Option K)).toScalar = some (n : K) := rfl

@[simp] theorem toScalar_real : (.real a : Number (Option K)).toScalar = a := rfl

/-- Every number is within range. -/
theorem toScalar?_eq (number : Number (Option K)) : number.toScalar? = .ok number.toScalar := by
  cases number <;> rfl

/-- A number with a whole exponent has a power. -/
theorem pow?_natCast [Functions K] (base : K) (exponent : ℕ) :
    Elementary.pow? (some base) (ofInt exponent) = .ok (some (base ^ exponent)) := by
  have power : Elementary.pow (some base) (ofInt exponent) = some (base ^ exponent) := by
    rw [ofInt_eq, Int.cast_natCast]
    exact Functions.pow_natCast base exponent
  have number : isNaN (some (base ^ exponent)) = false := rfl
  rw [Elementary.pow?, power]
  simp [number, isInfinite]

end Operations

variable [IsStrictOrderedRing K]

theorem zero_eq : (0.0 : Option K) = some 0 := by
  have zero : (0.0 : K) = 0 := by norm_num
  exact congrArg some zero

theorem one_eq : (1.0 : Option K) = some 1 := by
  have one : (1.0 : K) = 1 := by norm_num
  exact congrArg some one

/-! ## Comparisons -/

/-- Numbers are compared as they are ordered, and an undefined value with none. -/
theorem order_eq (a b : Number (Option K)) :
    a.order b = Option.map₂ compare a.toScalar b.toScalar := by
  cases a with
  | int m =>
      cases b with
      | int n =>
          have same : compare m n = compare (m : K) (n : K) := by
            rw [← cmp_eq_compare, ← cmp_eq_compare, Int.cast_strictMono.cmp_map_eq]
          exact congrArg some same
      | real y =>
          cases y with
          | none => rfl
          | some y => exact congrArg some Std.OrientedOrd.eq_swap.symm
  | real x =>
      cases b with
      | int n => cases x <;> rfl
      | real y => rfl

theorem less_iff {a b : Number (Option K)} :
    a.less b = true ↔ ∃ x y, a.toScalar = some x ∧ b.toScalar = some y ∧ x < y := by
  rw [Number.less, beq_iff_eq, order_eq, Option.map₂_eq_some_iff]
  simp only [compare_lt_iff_lt, Option.mem_def]

theorem atMost_iff {a b : Number (Option K)} :
    a.atMost b = true ↔ ∃ x y, a.toScalar = some x ∧ b.toScalar = some y ∧ x ≤ y := by
  rw [Number.atMost, order_eq]
  cases a.toScalar with
  | none => simp
  | some x =>
      cases b.toScalar with
      | none => simp
      | some y => simp [compare_lt_iff_lt, le_iff_lt_or_eq]

@[simp] theorem isZero_some (x : K) : isZero (some x) = decide (x = 0) := by
  rw [Bool.eq_iff_iff, decide_eq_true_iff, isZero, same, beq_iff_eq, zero_eq]
  exact Option.some_inj.trans compare_eq_iff_eq

@[simp] theorem isPositive_some (x : K) : isPositive (some x) = decide (0 < x) := by
  rw [Bool.eq_iff_iff, decide_eq_true_iff, isPositive, Scalar.less, beq_iff_eq, zero_eq]
  exact Option.some_inj.trans compare_lt_iff_lt

@[simp] theorem isNegative_some (x : K) : isNegative (some x) = decide (x < 0) := by
  rw [Bool.eq_iff_iff, decide_eq_true_iff, isNegative, Scalar.less, beq_iff_eq, zero_eq]
  exact Option.some_inj.trans compare_lt_iff_lt

/-! ## Multiples -/

theorem some_mul_zero (c : K) : some c * 0.0 = (0.0 : Option K) := by
  rw [zero_eq, some_mul_some, mul_zero]

/-- A quotient of multiples is the quotient, and fails where it does. -/
theorem divide?_some_mul {c : K} (nonzero : c ≠ 0) (a b : Option K) :
    divide? (some c * a) (some c * b) = divide? a b := by
  cases b with
  | none => simp [divide?]
  | some y =>
      by_cases zero : y = 0
      · simp [divide?, zero]
      · have multiple : c * y ≠ 0 := mul_ne_zero nonzero zero
        cases a with
        | none => simp [divide?, zero, multiple]
        | some x =>
            simp [divide?, zero, multiple, some_div_some, mul_div_mul_left _ _ nonzero]

end Lifted
end Calculator
