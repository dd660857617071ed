/-!
# Scalars

The arithmetic that the numeric routines are written over. A scalar type has
the four operations, a partial order in which an undefined value compares with
nothing, and an exact comparison with the unbounded integers. The routines need
nothing else, so they can be read over doubles and over exact fields alike.

The checked operations fail where the plain ones would leave the number line.
-/

namespace Calculator

/-- Why an arithmetic operation has no result. -/
inductive Fault
  | domain
  | range
  | zeroDivisor
  | integerTooLarge
  | undefinedProbability
  deriving DecidableEq, Repr

/-- The wording of a fault. -/
def Fault.message : Fault → String
  | .domain => "math domain error"
  | .range => "math range error"
  | .zeroDivisor => "float division by zero"
  | .integerTooLarge => "int too large to convert to float"
  | .undefinedProbability => "normal_cdf is undefined for NaN"

/-- Arithmetic with an undefined value and a signed infinity. -/
class Scalar (α : Type) extends Add α, Sub α, Mul α, Div α, Neg α, OfScientific α where
  /-- The scalar nearest to an integer, infinite when the integer is too large. -/
  ofInt : Int → α
  /-- The scalar nearest to the quotient of two integers. -/
  quotient : Int → Int → α
  /-- The order of two scalars, absent when one of them is undefined. -/
  order : α → α → Option Ordering
  /-- The exact order of a scalar and an integer. -/
  orderInt : α → Int → Option Ordering
  /-- Whether a scalar is neither infinite nor undefined. -/
  isFinite : α → Bool
  /-- Whether a scalar carries a minus sign, which a zero may do as well. -/
  isSigned : α → Bool
  /-- The undefined value. -/
  nan : α
  /-- Positive infinity. -/
  infinity : α
  /-- The magnitude. -/
  abs : α → α

/-- Scalars with the elementary functions. Outside its domain a function is
undefined, and beyond the largest scalar it is infinite. -/
class Elementary (α : Type) extends Scalar α where
  sqrt : α → α
  exp : α → α
  log : α → α
  log10 : α → α
  sin : α → α
  cos : α → α
  tan : α → α
  pow : α → α → α
  /-- Whether a scalar is an odd integer. -/
  isOdd : α → Bool

namespace Scalar

variable {α : Type} [Scalar α]

/-- Strictly smaller; never true of an undefined value. -/
def less (x y : α) : Bool :=
  order x y == some .lt

/-- Smaller or equal; never true of an undefined value. -/
def atMost (x y : α) : Bool :=
  order x y == some .lt || order x y == some .eq

/-- Equal as numbers; never true of an undefined value. -/
def same (x y : α) : Bool :=
  order x y == some .eq

/-- An undefined value is the one that does not compare with itself. -/
def isNaN (x : α) : Bool :=
  (order x x).isNone

/-- Whether a scalar is one of the two infinities. -/
def isInfinite (x : α) : Bool :=
  !isFinite x && !isNaN x

/-- Whether a scalar is a zero of either sign. -/
def isZero (x : α) : Bool :=
  same x 0.0

/-- Whether a scalar lies strictly above zero. -/
def isPositive (x : α) : Bool :=
  less 0.0 x

/-- Whether a scalar lies strictly below zero. -/
def isNegative (x : α) : Bool :=
  less x 0.0

/-- A magnitude under the sign of another scalar. -/
def withSignOf (sign magnitude : α) : α :=
  if isSigned sign then -magnitude else magnitude

/-- The scalar nearest to an integer within range. -/
def ofInt? (n : Int) : Except Fault α :=
  let x : α := ofInt n
  if isFinite x then .ok x else .error .integerTooLarge

/-- Division that refuses a zero divisor. -/
def divide? (x y : α) : Except Fault α :=
  if isZero y then .error .zeroDivisor else .ok (x / y)

end Scalar

namespace Elementary

open Scalar

variable {α : Type} [Elementary α]

/-- Apply a function and report where it leaves the number line: an undefined
value of a defined argument is outside the domain, and an infinite value of a
finite argument is the given fault. -/
def checked (overflow : Fault) (function : α → α) (x : α) : Except Fault α :=
  let y := function x
  if isNaN y && !isNaN x then .error .domain
  else if isInfinite y && isFinite x then .error overflow
  else .ok y

/-- The exponential function with its overflow reported. -/
def exp? (x : α) : Except Fault α :=
  checked .range exp x

/-- The natural logarithm, which has no value at zero and below. -/
def log? (x : α) : Except Fault α :=
  checked .domain log x

/-- The power of finite scalars fails at a pole and at an undefined value, and
it reports overflow. -/
def pow? (base exponent : α) : Except Fault α :=
  let y := pow base exponent
  if isFinite base && isFinite exponent then
    if isNaN y then .error .domain
    else if isInfinite y then
      .error (if isZero base then .domain else .range)
    else .ok y
  else .ok y

end Elementary

end Calculator
