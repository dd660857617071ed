import Calculator.Analysis.Normal

/-!
# European options

The prices of a European call and put by the formulas of Black and Scholes.
-/

namespace Calculator

/-- The inputs of an option price. -/
inductive OptionInput
  | spot
  | strike
  | years
  | volatility
  | rate
  deriving DecidableEq, Repr

/-- The name of an input. -/
def OptionInput.label : OptionInput → String
  | .spot => "spot"
  | .strike => "strike"
  | .years => "years"
  | .volatility => "volatility"
  | .rate => "rate"

/-- Why an option has no price. -/
inductive OptionError (α : Type)
  /-- An input is not a positive finite number. -/
  | notPositive (input : OptionInput) (value : α)
  /-- The rate is not finite. -/
  | rateNotFinite (value : α)
  | arithmetic (fault : Fault)

/-- The terms of an option: the price of the asset, the price at which it may be
traded, the time until then, the riskless rate and the volatility of the
asset. -/
structure OptionTerms (α : Type) where
  spot : α
  strike : α
  years : α
  rate : α
  volatility : α

/-- The prices of a call and a put with the two quantiles they come from. -/
structure OptionPrices (α : Type) where
  call : α
  put : α
  d1 : α
  d2 : α
  deriving Repr

namespace OptionTerms

open Scalar Elementary

variable {α : Type} [Elementary α]

/-- Refuse an input that is not a positive finite number. -/
def requirePositive (input : OptionInput) (value : α) : Except (OptionError α) Unit :=
  if isFinite value && isPositive value then .ok () else .error (.notPositive input value)

/-- Refuse terms without a meaning. -/
def validate (terms : OptionTerms α) : Except (OptionError α) Unit := do
  requirePositive .spot terms.spot
  requirePositive .strike terms.strike
  requirePositive .years terms.years
  requirePositive .volatility terms.volatility
  if isFinite terms.rate then return () else throw (.rateNotFinite terms.rate)

/-- The prices under valid terms. -/
def quote (terms : OptionTerms α) : Except Fault (OptionPrices α) := do
  let deviation := terms.volatility * sqrt terms.years
  let moneyness ← log? (terms.spot / terms.strike)
  let drift := (terms.rate + 0.5 * terms.volatility * terms.volatility) * terms.years
  let d1 ← divide? (moneyness + drift) deviation
  let d2 := d1 - deviation
  let discounted := terms.strike * (← exp? (-terms.rate * terms.years))
  let call := terms.spot * (← Normal.probability d1)
    - discounted * (← Normal.probability d2)
  let put := discounted * (← Normal.probability (-d2))
    - terms.spot * (← Normal.probability (-d1))
  return ⟨call, put, d1, d2⟩

/-- The prices of an option. -/
def price (terms : OptionTerms α) : Except (OptionError α) (OptionPrices α) := do
  terms.validate
  terms.quote.mapError .arithmetic

end OptionTerms

end Calculator
