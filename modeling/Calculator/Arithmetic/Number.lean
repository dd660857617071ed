import Calculator.Arithmetic.Scalar

/-!
# Numbers

A setting may be an unbounded integer or a scalar. Integers stay exact in
comparisons and among themselves; where one meets a scalar it is converted,
which fails when it is too large.
-/

namespace Calculator

/-- An unbounded integer or a scalar. -/
inductive Number (α : Type)
  | int (value : Int)
  | real (value : α)
  deriving Repr

namespace Number

open Scalar

variable {α : Type} [Scalar α]

/-- The scalar nearest to a number within range. -/
def toScalar? : Number α → Except Fault α
  | .int n => ofInt? n
  | .real x => .ok x

/-- The scalar nearest to a number. -/
def toScalar : Number α → α
  | .int n => ofInt n
  | .real x => x

/-- The exact order of two numbers, absent when one is undefined. -/
def order : Number α → Number α → Option Ordering
  | .int m, .int n => some (compare m n)
  | .int m, .real y => (orderInt y m).map Ordering.swap
  | .real x, .int n => orderInt x n
  | .real x, .real y => Scalar.order x y

/-- Strictly smaller; never true of an undefined value. -/
def less (a b : Number α) : Bool :=
  order a b == some .lt

/-- Smaller or equal; never true of an undefined value. -/
def atMost (a b : Number α) : Bool :=
  order a b == some .lt || order a b == some .eq

/-- Whether a number is finite, which only a number within range can answer. -/
def isFinite? (a : Number α) : Except Fault Bool :=
  match a with
  | .int n => (ofInt? n : Except Fault α).map fun _ => true
  | .real x => .ok (isFinite x)

/-- The difference of two numbers, exact between integers. -/
def difference : Number α → Number α → Number α
  | .int m, .int n => .int (m - n)
  | a, b => .real (a.toScalar - b.toScalar)

/-- A number taken a whole number of times, within range. -/
def times? : Number α → Nat → Except Fault (Number α)
  | .int m, n => .ok (.int (m * n))
  | .real x, n => (ofInt? n : Except Fault α).map fun count => .real (x * count)

/-- The given share of a number: `part` of `whole` equal steps. -/
def portion (a : Number α) (part whole : Nat) : α :=
  match a with
  | .int m => quotient (m * part) whole
  | .real x => x * ofInt part / ofInt whole

end Number

end Calculator
