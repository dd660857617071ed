import Calculator.Proofs.Finance.Discount
import Mathlib.Analysis.Calculus.Deriv.Shift
import Mathlib.Analysis.Calculus.Deriv.ZPow
import Mathlib.Topology.Algebra.Module.ModuleTopology

/-!
# The slope of a present value

In exact arithmetic the slope that Newton's method takes for a net present value is its
derivative by the rate.
-/

namespace Calculator
namespace CashFlow

open Lifted

variable {K : Type} [NontriviallyNormedField K]

theorem hasDerivAt_discountedFlow (flow : K) (period : ℕ) {factor : K} (apart : factor ≠ 0) :
    HasDerivAt (discountedFlow flow period) (discountedFlowSlope flow period factor) factor := by
  have power := hasDerivAt_zpow (-(period : ℤ)) factor (.inl apart)
  refine (power.const_mul flow).congr_deriv ?_
  rw [discountedFlowSlope]
  ring

theorem hasDerivAt_discountedSum (flows : List K) {factor : K} (apart : factor ≠ 0) :
    HasDerivAt (discountedSum flows) (discountedSlope flows factor) factor :=
  HasDerivAt.fun_sum fun (period : Fin flows.length) _ =>
    hasDerivAt_discountedFlow flows[period] period apart

variable [LinearOrder K] [IsStrictOrderedRing K] [Functions K]

/-- In exact arithmetic the net present value is the sum of the discounted flows at every rate
but minus one hundred percent. What is given for its derivative is the sum of the formal
derivatives of the terms, to which the flow of period zero contributes nothing, and it is the
derivative. -/
theorem netPresentSlope_is_derivative
    (flows : List K)
    {rate : K}
    (apart : rate ≠ -1) :
    (∀ other : K, other ≠ -1 →
      netPresentValue (flows.map some) (some other) =
        .ok (some (discountedSum flows (1 + other)))) ∧
      netPresentSlope (flows.map some) (some rate) =
        .ok (some (discountedSlope flows (1 + rate))) ∧
      HasDerivAt (fun other => discountedSum flows (1 + other))
        (discountedSlope flows (1 + rate)) rate ∧
      (∀ flow period,
        HasDerivAt (discountedFlow flow period)
          (discountedFlowSlope flow period (1 + rate)) (1 + rate)) ∧
      ∀ first other later,
        netPresentSlope ((first :: later).map some) (some rate) =
          netPresentSlope ((other :: later).map some) (some rate) := by
  have grows {other : K} (apart : other ≠ -1) : 1 + other ≠ 0 :=
    fun zero => apart (eq_neg_of_add_eq_zero_right zero)
  refine ⟨?_, ?_, ?_, ?_, ?_⟩
  · intro other otherApart
    rw [netPresentValue_eq, presentValue_eq (grows otherApart)]
  · rw [netPresentSlope_eq, presentSlope_eq (grows apart)]
  · exact (hasDerivAt_discountedSum flows (grows apart)).comp_const_add 1 rate
  · intro flow period
    exact hasDerivAt_discountedFlow flow period (grows apart)
  · intro first other later
    rw [netPresentSlope_eq, netPresentSlope_eq, presentSlope_eq (grows apart),
      presentSlope_eq (grows apart), discountedSlope_cons, discountedSlope_cons]

/-- An outlay that is paid back in two parts loses thirty for each unit of the rate at one
hundred percent. -/
theorem netPresentSlope_is_derivative_of_outlay :
    (1 : ℚ) ≠ -1 ∧
      netPresentValue ([-100, 60, 60].map some) (some (1 : ℚ)) = .ok (some (-55)) ∧
      netPresentSlope ([-100, 60, 60].map some) (some (1 : ℚ)) = .ok (some (-30)) ∧
      HasDerivAt (fun rate : ℚ => discountedSum [-100, 60, 60] (1 + rate)) (-30) 1 := by
  have apart : (1 : ℚ) ≠ -1 := by decide
  obtain ⟨value, slope, derivative, -⟩ := netPresentSlope_is_derivative [-100, 60, 60] apart
  have isValue : discountedSum [-100, 60, 60] (1 + 1 : ℚ) = -55 := by decide +kernel
  have isSlope : discountedSlope [-100, 60, 60] (1 + 1 : ℚ) = -30 := by decide +kernel
  rw [isSlope] at slope derivative
  exact ⟨apart, isValue ▸ value 1 apart, slope, derivative⟩

end CashFlow
end Calculator
