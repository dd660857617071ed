import Calculator.Proofs.Arithmetic.Lifted
import Calculator.Proofs.Finance.PresentValue
import Mathlib.Algebra.BigOperators.Fin
import Mathlib.Algebra.BigOperators.Field
import Mathlib.Algebra.Order.BigOperators.Group.Finset

/-!
# Discounting in exact arithmetic

In exact arithmetic a net present value is a sum over powers of the factor that an amount grows
by in one period, and what is given for its derivative is the sum of the formal derivatives of
the terms. Both are defined at every rate but minus one hundred percent.
-/

namespace Calculator
namespace CashFlow

open Scalar Lifted

section Sums

variable {K : Type} [Field K]

/-- A flow times the power of the factor of growth that discounts its period. -/
def discountedFlow (flow : K) (period : ℕ) (factor : K) : K :=
  flow * factor ^ (-(period : ℤ))

/-- The formal derivative of a discounted flow by the factor. -/
def discountedFlowSlope (flow : K) (period : ℕ) (factor : K) : K :=
  ((-(period : ℤ) : ℤ) : K) * flow * factor ^ (-(period : ℤ) - 1)

/-- The sum of the discounted flows of a series. -/
def discountedSum (flows : List K) (factor : K) : K :=
  ∑ period : Fin flows.length, discountedFlow flows[period] period factor

/-- The formal derivative of the sum, term by term. -/
def discountedSlope (flows : List K) (factor : K) : K :=
  ∑ period : Fin flows.length, discountedFlowSlope flows[period] period factor

@[simp] theorem discountedFlowSlope_zero (flow factor : K) :
    discountedFlowSlope flow 0 factor = 0 := by
  simp [discountedFlowSlope]

/-- Only the flows behind the first one contribute to a slope. -/
theorem discountedSlope_cons (flow : K) (later : List K) (factor : K) :
    discountedSlope (flow :: later) factor =
      ∑ period : Fin later.length, discountedFlowSlope later[period] (period + 1) factor := by
  refine (Fin.sum_univ_succ _).trans ?_
  exact (congrArg (· + _) (discountedFlowSlope_zero flow factor)).trans (zero_add _)

/-- A sum over the numbered entries of a list is one over its periods. -/
theorem sum_zipIdx (flows : List K) (term : K → ℕ → K) :
    (flows.zipIdx.map fun (flow, period) => term flow period).sum =
      ∑ period : Fin flows.length, term flows[period] period := by
  rw [← List.sum_ofFn]
  congr 1
  apply List.ext_getElem
  · simp
  · intro period _ _
    simp

/-- Entries that contribute nothing may be left out of a sum. -/
theorem sum_map_filter
    {β : Type}
    (list : List β)
    (keep : β → Bool)
    (term : β → K)
    (vanishes : ∀ x, keep x = false → term x = 0) :
    ((list.filter keep).map term).sum = (list.map term).sum := by
  induction list with
  | nil => rfl
  | cons x rest restHypothesis =>
      rw [List.filter_cons, List.map_cons, List.sum_cons]
      cases kept : keep x with
      | true => simp [restHypothesis]
      | false => simp [restHypothesis, vanishes x kept]

end Sums

section Lifted

variable {K : Type} [Field K] [LinearOrder K]

theorem foldl_add_some (terms : List K) (start : K) :
    (terms.map some).foldl (· + ·) (some start) = some (start + terms.sum) := by
  induction terms generalizing start with
  | nil => simp
  | cons term rest restHypothesis =>
      rw [List.map_cons, List.foldl_cons, some_add_some, restHypothesis, List.sum_cons, add_assoc]

variable [IsStrictOrderedRing K]

instance : HasNonzeroSpecials (Option K) :=
  ⟨isZero_none, isZero_none⟩

theorem isZero_factor {rate : K} (apart : 1 + rate ≠ 0) : isZero (1.0 + some rate) = false := by
  rw [one_eq, some_add_some, isZero_some]
  exact decide_eq_false apart

variable [Functions K]

theorem sumFromLeft_map_some (terms : List K) :
    sumFromLeft (terms.map some) = some terms.sum := by
  rw [sumFromLeft, zero_eq, foldl_add_some, zero_add]

section Rate

variable {rate : K} (apart : 1 + rate ≠ 0)

include apart

/-- The growth over some periods is a power of the growth over one. -/
theorem growth_eq (period : ℕ) : growth (some rate) period = some ((1 + rate) ^ period) := by
  have number : isZero (some ((1 + rate) ^ period)) = false := by
    rw [isZero_some]
    exact decide_eq_false (pow_ne_zero period apart)
  have grown : Elementary.pow? (1.0 + some rate) (ofInt period) =
      .ok (some ((1 + rate) ^ period)) := by
    rw [one_eq, some_add_some, pow?_natCast]
  rw [growth, grown]
  simp [number]

theorem div_growth (flow : K) (period : ℕ) :
    some flow / growth (some rate) period = some (discountedFlow flow period (1 + rate)) := by
  rw [growth_eq apart, some_div_some _ (pow_ne_zero period apart), discountedFlow, zpow_neg,
    zpow_natCast, div_eq_mul_inv]

theorem mul_div_growth (flow : K) (period : ℕ) :
    ofInt (-(period : ℤ)) * some flow / growth (some rate) (period + 1) =
      some (discountedFlowSlope flow period (1 + rate)) := by
  have exponent : -((period + 1 : ℕ) : ℤ) = -(period : ℤ) - 1 := by omega
  rw [ofInt_eq, some_mul_some, div_growth apart, discountedFlow, discountedFlowSlope, exponent]

/-- A net present value is the sum of the discounted flows. -/
theorem presentValue_eq (flows : List K) :
    presentValue (flows.map some) (some rate) = some (discountedSum flows (1 + rate)) := by
  have summed := sum_zipIdx flows fun flow period => discountedFlow flow period (1 + rate)
  rw [presentValue, isZero_factor apart, if_neg Bool.false_ne_true, List.zipIdx_map,
    List.map_map, discountedSum, ← summed, ← sumFromLeft_map_some, List.map_map]
  congr 1
  apply List.map_congr_left
  intro entry _
  exact div_growth apart entry.1 entry.2

/-- Its derivative is the sum of theirs. The flow of period zero may be left out. -/
theorem presentSlope_eq (flows : List K) :
    presentSlope (flows.map some) (some rate) = some (discountedSlope flows (1 + rate)) := by
  have summed := sum_zipIdx flows fun flow period => discountedFlowSlope flow period (1 + rate)
  have vanishes (entry : K × ℕ) (first : decide (0 < entry.2) = false) :
      discountedFlowSlope entry.1 entry.2 (1 + rate) = 0 := by
    have zero : entry.2 = 0 := by simpa using first
    rw [zero, discountedFlowSlope_zero]
  rw [presentSlope, isZero_factor apart, if_neg Bool.false_ne_true, List.zipIdx_map,
    List.filter_map, List.map_map, discountedSlope, ← summed, ← sum_map_filter _ _ _ vanishes,
    ← sumFromLeft_map_some, List.map_map]
  congr 1
  apply List.map_congr_left
  intro entry _
  exact mul_div_growth apart entry.1 entry.2

end Rate

end Lifted

end CashFlow
end Calculator
