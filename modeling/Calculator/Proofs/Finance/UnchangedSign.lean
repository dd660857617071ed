import Calculator.Proofs.Analysis.Resumption
import Calculator.Proofs.Finance.Discount

/-!
# Series without a change of sign

The factors that discount a flow are positive at every rate above minus one hundred percent. So
a series whose flows have one sign has a net present value of that sign, and no rate of return
is missed when such a series is refused.
-/

namespace Calculator
namespace CashFlow

open Scalar Lifted

/-- Only a series without a change of sign is refused for that. -/
theorem unchanged_of_reason
    {α : Type}
    [Elementary α]
    {search : RootSearch α}
    {flows : List α}
    {result : Iteration α}
    (ran : internalRate search flows = .ok result)
    (refused : result.reason = some .noSignChange) :
    changesSign flows = false := by
  rw [internalRate] at ran
  split at ran
  · obtain ⟨found, searched, rfl⟩ := Outcome.map_eq_ok_iff.mp ran
    rw [admitted] at refused
    split at refused
    · cases refused
    · exact absurd refused (RootSearch.reason_of_newtonFrom searched)
  · rename_i unchanged
    exact Bool.eq_false_iff.mpr unchanged

variable {K : Type} [Field K] [LinearOrder K] [IsStrictOrderedRing K] {flows : List K}

/-- Flows with a sign have a discounted sum with that sign when one of them does not vanish. -/
theorem mul_discountedSum_pos
    {sign factor : K}
    (signed : ∀ flow ∈ flows, 0 ≤ sign * flow)
    (contributes : ∃ flow ∈ flows, sign * flow ≠ 0)
    (grows : 0 < factor) :
    0 < sign * discountedSum flows factor := by
  have term (period : Fin flows.length) :
      sign * discountedFlow flows[period] period factor =
        sign * flows[period] * factor ^ (-(period : ℤ)) := by
    rw [discountedFlow, mul_assoc]
  have power (period : ℤ) : 0 < factor ^ period := zpow_pos grows period
  rw [discountedSum, Finset.mul_sum]
  apply Finset.sum_pos'
  · intro period _
    rw [term]
    exact mul_nonneg (signed _ (List.getElem_mem _)) (power _).le
  · obtain ⟨flow, isFlow, nonzero⟩ := contributes
    obtain ⟨period, bound, rfl⟩ := List.getElem_of_mem isFlow
    refine ⟨⟨period, bound⟩, Finset.mem_univ _, ?_⟩
    rw [term]
    exact mul_pos ((signed _ isFlow).lt_of_ne nonzero.symm) (power _)

variable [Functions K]

/-- Without a change of sign all flows lie on one side of zero. -/
theorem exists_sign_of_unchanged (unchanged : changesSign (flows.map some) = false) :
    ∃ sign : K, sign ≠ 0 ∧ ∀ flow ∈ flows, 0 ≤ sign * flow := by
  rcases changesSign_eq_false_iff.mp unchanged with noPositive | noNegative
  · refine ⟨-1, by simp, fun flow isFlow => ?_⟩
    have notPositive := noPositive (some flow) (List.mem_map_of_mem isFlow)
    rw [isPositive_some, decide_eq_false_iff_not, not_lt] at notPositive
    simpa using notPositive
  · refine ⟨1, one_ne_zero, fun flow isFlow => ?_⟩
    have notNegative := noNegative (some flow) (List.mem_map_of_mem isFlow)
    rw [isNegative_some, decide_eq_false_iff_not, not_lt] at notNegative
    simpa using notNegative

theorem discountedSum_ne_zero
    (unchanged : changesSign (flows.map some) = false)
    (contributes : ∃ flow ∈ flows, flow ≠ 0)
    {factor : K}
    (grows : 0 < factor) :
    discountedSum flows factor ≠ 0 := by
  obtain ⟨sign, nonzero, signed⟩ := exists_sign_of_unchanged unchanged
  obtain ⟨flow, isFlow, flowNonzero⟩ := contributes
  have positive := mul_discountedSum_pos signed
    ⟨flow, isFlow, mul_ne_zero nonzero flowNonzero⟩ grows
  exact (mul_ne_zero_iff.mp positive.ne').2

/-- In exact arithmetic a series without a change of sign has a net present value other than zero
at every rate above minus one hundred percent, unless all of its flows are zero. So a series
that has a rate of return is never refused for its signs. -/
theorem no_return_without_sign_change
    (flows : List K)
    (contributes : ∃ flow ∈ flows, flow ≠ 0) :
    (changesSign (flows.map some) = false →
      ∀ rate : K, -1 < rate →
        ∃ value : K, netPresentValue (flows.map some) (some rate) = .ok (some value) ∧
          value ≠ 0) ∧
      ∀ rate : K, -1 < rate →
        netPresentValue (flows.map some) (some rate) = .ok (some 0) →
          ∀ search result, internalRate search (flows.map some) = .ok result →
            result.reason ≠ some .noSignChange := by
  have grows {rate : K} (above : -1 < rate) : 0 < 1 + rate := neg_lt_iff_pos_add'.mp above
  have valued {rate : K} (above : -1 < rate) :
      netPresentValue (flows.map some) (some rate) =
        .ok (some (discountedSum flows (1 + rate))) := by
    rw [netPresentValue_eq, presentValue_eq (grows above).ne']
  have nonzero (unchanged : changesSign (flows.map some) = false) {rate : K} (above : -1 < rate) :
      discountedSum flows (1 + rate) ≠ 0 :=
    discountedSum_ne_zero unchanged contributes (grows above)
  constructor
  · intro unchanged rate above
    exact ⟨_, valued above, nonzero unchanged above⟩
  · intro rate above root search result ran refused
    rw [valued above, Except.ok.injEq, Option.some_inj] at root
    exact nonzero (unchanged_of_reason ran refused) above root

/-- Two incomes have a present value other than zero at minus fifty percent, and a loan that costs
ten percent is not refused. -/
theorem no_return_without_sign_change_of_incomes :
    (∃ flow ∈ ([0, 5, 3] : List ℚ), flow ≠ 0) ∧
      (∃ flow ∈ ([100, -110] : List ℚ), flow ≠ 0) ∧
      changesSign (([0, 5, 3] : List ℚ).map some) = false ∧
      (-1 : ℚ) < -1 / 2 ∧ (-1 : ℚ) < 1 / 10 ∧
      (∃ value : ℚ, netPresentValue ([0, 5, 3].map some) (some (-1 / 2 : ℚ)) = .ok (some value) ∧
        value ≠ 0) ∧
      netPresentValue ([100, -110].map some) (some (1 / 10 : ℚ)) = .ok (some 0) ∧
      ∀ search result, internalRate search (([100, -110] : List ℚ).map some) = .ok result →
        result.reason ≠ some .noSignChange := by
  have income : ∃ flow ∈ ([0, 5, 3] : List ℚ), flow ≠ 0 := ⟨5, by simp, by norm_num⟩
  have payment : ∃ flow ∈ ([100, -110] : List ℚ), flow ≠ 0 := ⟨100, by simp, by norm_num⟩
  have unchanged : changesSign (([0, 5, 3] : List ℚ).map some) = false := by decide +kernel
  have loss : (-1 : ℚ) < -1 / 2 := by norm_num
  have cost : (-1 : ℚ) < 1 / 10 := by norm_num
  have root : netPresentValue ([100, -110].map some) (some (1 / 10 : ℚ)) = .ok (some 0) := by
    decide +kernel
  exact ⟨income, payment, unchanged, loss, cost,
    (no_return_without_sign_change _ income).1 unchanged _ loss, root,
    (no_return_without_sign_change _ payment).2 _ cost root⟩

end CashFlow
end Calculator
