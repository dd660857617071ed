import Calculator.Finance.CashFlow
import Calculator.Outcome
import Calculator.Proofs.Analysis.Estimate

/-!
# Present values

Where the values that are no numbers are no zeros either, no divisor in a net present value or
in its derivative is zero. So both are sums of quotients, which have a value at every rate.
-/

namespace Calculator
namespace CashFlow

open Scalar

/-- The undefined value and infinity are no zeros. -/
class HasNonzeroSpecials (α : Type) [Scalar α] : Prop where
  isZero_nan : isZero (nan : α) = false
  isZero_infinity : isZero (infinity : α) = false

instance : HasNonzeroSpecials Float :=
  ⟨by decide, by decide⟩

variable {α : Type} [Elementary α]

/-- The sum of the discounted flows, undefined at minus one hundred percent. -/
def presentValue (flows : List α) (rate : α) : α :=
  if isZero (1.0 + rate) then nan
  else sumFromLeft (flows.zipIdx.map fun (flow, period) => flow / growth rate period)

/-- The sum of the derivatives of the discounted flows by the rate, undefined at minus one
hundred percent. -/
def presentSlope (flows : List α) (rate : α) : α :=
  if isZero (1.0 + rate) then nan
  else
    sumFromLeft ((flows.zipIdx.filter fun (_, period) => 0 < period).map
      fun (flow, (period : Nat)) => ofInt (-(period : Int)) * flow / growth rate (period + 1))

section Signs

variable {flows : List α}

theorem changesSign_iff :
    changesSign flows = true ↔
      (∃ flow ∈ flows, isPositive flow = true) ∧ ∃ flow ∈ flows, isNegative flow = true := by
  simp [changesSign]

theorem changesSign_eq_false_iff :
    changesSign flows = false ↔
      (∀ flow ∈ flows, isPositive flow = false) ∨ ∀ flow ∈ flows, isNegative flow = false := by
  simp only [changesSign, Bool.and_eq_false_iff, List.any_eq_false, Bool.not_eq_true]

end Signs

variable [HasNonzeroSpecials α]

/-- A factor of growth is no zero divisor. -/
theorem divide?_growth (flow rate : α) (period : Nat) :
    divide? flow (growth rate period) = .ok (flow / growth rate period) := by
  refine if_neg ?_
  rw [growth]
  split
  · rw [HasNonzeroSpecials.isZero_infinity]
    exact Bool.false_ne_true
  split
  · rw [HasNonzeroSpecials.isZero_nan]
    exact Bool.false_ne_true
  · assumption

theorem netPresentValue_eq (flows : List α) (rate : α) :
    netPresentValue flows rate = .ok (presentValue flows rate) := by
  rw [netPresentValue, presentValue]
  split
  · rfl
  · have each (term : α × Nat) : divide? term.1 (growth rate term.2) =
        .ok (term.1 / growth rate term.2) :=
      divide?_growth term.1 rate term.2
    exact congrArg (Except.map sumFromLeft) (Outcome.mapM_eq_ok each)

theorem netPresentSlope_eq (flows : List α) (rate : α) :
    netPresentSlope flows rate = .ok (presentSlope flows rate) := by
  rw [netPresentSlope, presentSlope]
  split
  · rfl
  · have each (term : α × Nat) :
        divide? (ofInt (-(term.2 : Int)) * term.1) (growth rate (term.2 + 1)) =
          .ok (ofInt (-(term.2 : Int)) * term.1 / growth rate (term.2 + 1)) :=
      divide?_growth _ rate (term.2 + 1)
    exact congrArg (Except.map sumFromLeft) (Outcome.mapM_eq_ok each)

/-- A search for a rate of return is one for a root of the present value by its slope. -/
theorem internalRate_eq (search : RootSearch α) (flows : List α) :
    internalRate search flows =
      if changesSign flows then
        (search.newton id (RootSearch.total (presentValue flows))
          (RootSearch.total (presentSlope flows))).map admitted
      else .ok ⟨.real nan, 0, false, some .noSignChange⟩ := by
  have value : netPresentValue flows = RootSearch.total (presentValue flows) :=
    funext (netPresentValue_eq flows)
  have slope : netPresentSlope flows = RootSearch.total (presentSlope flows) :=
    funext (netPresentSlope_eq flows)
  rw [internalRate, value, slope]

end CashFlow
end Calculator
