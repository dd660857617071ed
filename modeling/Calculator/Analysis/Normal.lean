import Calculator.Arithmetic.Scalar

/-!
# The standard normal distribution

The probability of a value below a bound, from a rational approximation of the
error function whose absolute error stays under 1.5e-7. The probabilities of a
bound and of its opposite add up to one.
-/

namespace Calculator
namespace Normal

open Scalar Elementary

variable {α : Type} [Elementary α]

/-- The approximation's polynomial in `t`, without its decay. -/
def tail (t : α) : α :=
  ((((1.061405429 * t + -1.453152027) * t + 1.421413741) * t + -0.284496736) * t
    + 0.254829592) * t

/-- The approximate error function of a magnitude. -/
def errorFunction (z : α) : α :=
  let t := 1.0 / (1.0 + 0.3275911 * z)
  1.0 - tail t * exp (-z * z)

/-- Move a scalar into the unit interval. -/
def clamped (p : α) : α :=
  let raised := if less p 0.0 then 0.0 else p
  if less 1.0 raised then 1.0 else raised

/-- The probability of a value below `x`. -/
def probability (x : α) : Except Fault α :=
  if isNaN x then .error .undefinedProbability
  else if isZero x then .ok 0.5
  else
    let sign : α := if isNegative x then -1.0 else 1.0
    let y := errorFunction (abs x / sqrt 2.0)
    .ok (clamped (0.5 * (1.0 + sign * y)))

end Normal
end Calculator
