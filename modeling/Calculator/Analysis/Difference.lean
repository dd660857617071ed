import Calculator.Arithmetic.Number

/-!
# Difference quotients and limits

What the values of a function on both sides of a point say about it: its slope
there and its limit. Where the function is undefined the slope is undefined too
and there is no limit. Only the distance to the sides can be refused.
-/

namespace Calculator

/-- Why a distance is refused. -/
inductive DistanceError (α : Type)
  | notPositive (distance : Number α)
  | arithmetic (fault : Fault)

namespace Difference

open Scalar

variable {α ε : Type} [Scalar α]

/-- The distance from a point to its two sides, which has to be positive. -/
def distance (h : Number α) : Except (DistanceError α) α :=
  if Number.less (.int 0) h then h.toScalar?.mapError .arithmetic
  else .error (.notPositive h)

/-- The slope of `f` at `x`: the difference of its values on both sides over the
distance between them. -/
def slope (f : α → Except ε α) (x h : α) : Except ε α := do
  let right ← f (x + h)
  let left ← f (x - h)
  return (right - left) / (2.0 * h)

/-- The two-sided limit of `f` at `x`: the mean of its values on both sides when
they are finite and less than the tolerance apart. -/
def limit (f : α → Except ε α) (x h : α) (tolerance : Number α) : Except ε (Option α) := do
  let left ← f (x - h)
  let right ← f (x + h)
  if !(isFinite left && isFinite right) then return none
  else if Number.atMost tolerance (.real (abs (left - right))) then return none
  else return some ((left + right) / 2.0)

end Difference

end Calculator
