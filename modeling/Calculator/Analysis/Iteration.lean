import Calculator.Arithmetic.Number

/-!
# Outcomes of iterations

What an iterative search reports: its last estimate, the number of rounds it
took and, when it did not converge, why it stopped.
-/

namespace Calculator

/-- Why a search stopped without converging. -/
inductive StopReason
  | nonFiniteValue
  | zeroDerivative
  | nonFiniteStep
  | iterationLimit
  | noSignChange
  | invalidRate
  | other (label : String)
  deriving DecidableEq, Repr

/-- The label of a reason. -/
def StopReason.label : StopReason → String
  | .nonFiniteValue => "non_finite_value"
  | .zeroDerivative => "zero_derivative"
  | .nonFiniteStep => "non_finite_step"
  | .iterationLimit => "max_iterations"
  | .noSignChange => "no_sign_change"
  | .invalidRate => "invalid_rate"
  | .other label => label

/-- The outcome of an iterative search. -/
structure Iteration (α : Type) where
  value : Number α
  iterations : Int
  converged : Bool
  reason : Option StopReason
  deriving Repr

namespace Iteration

variable {α : Type} [Scalar α]

/-- Whether the estimate may be used: the search converged on a finite one. -/
def isUsable (result : Iteration α) : Bool :=
  result.converged && Scalar.isFinite result.value.toScalar

/-- The usable estimate, or the outcome that has none. -/
def require (result : Iteration α) : Except (Iteration α) α :=
  if result.isUsable then .ok result.value.toScalar else .error result

/-- The estimate in percent, when the search converged. -/
def percentage (result : Iteration α) : Option α :=
  if result.converged then some (result.value.toScalar * 100.0) else none

/-- The wording for an outcome without a usable estimate. -/
def complaint (result : Iteration α) : String :=
  let label := (result.reason.map StopReason.label).getD ""
  "Iteration did not converge: " ++ if label.isEmpty then "unknown" else label

end Iteration

end Calculator
