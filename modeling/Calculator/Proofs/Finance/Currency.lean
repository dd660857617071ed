import Calculator.Proofs.Analysis.ExactSearch
import Calculator.Proofs.Finance.Discount

/-!
# Series in another currency

A series whose flows are all multiplied by a number has present values and slopes that are
multiplied by it. In exact arithmetic it has the same rate of return, which is found in the same
way, whatever currency it is in and whichever party looks at it.
-/

namespace Calculator
namespace CashFlow

open Scalar Lifted

variable {K : Type} [Field K] [LinearOrder K]

theorem foldl_map_some_mul (c : K) (terms : List (Option K)) (start : Option K) :
    (terms.map (some c * ·)).foldl (· + ·) (some c * start) =
      some c * terms.foldl (· + ·) start := by
  induction terms generalizing start with
  | nil => rfl
  | cons term rest restHypothesis =>
      rw [List.map_cons, List.foldl_cons, List.foldl_cons, ← some_mul_add, restHypothesis]

variable [IsStrictOrderedRing K] {c : K}

/-! ## Signs -/

/-- A negative multiple swaps the two signs. -/
theorem isPositive_some_mul (nonzero : c ≠ 0) (flow : Option K) :
    isPositive (some c * flow) = if 0 < c then isPositive flow else isNegative flow := by
  cases flow with
  | none => simp
  | some x =>
      rcases nonzero.lt_or_gt with negative | positive
      · rw [if_neg negative.not_gt]
        simp [mul_pos_iff, negative, negative.not_gt]
      · rw [if_pos positive]
        simp [positive]

theorem isNegative_some_mul (nonzero : c ≠ 0) (flow : Option K) :
    isNegative (some c * flow) = if 0 < c then isNegative flow else isPositive flow := by
  cases flow with
  | none => simp
  | some x =>
      rcases nonzero.lt_or_gt with negative | positive
      · rw [if_neg negative.not_gt]
        simp [mul_neg_iff, negative, negative.not_gt]
      · rw [if_pos positive]
        simp [mul_neg_iff, positive, positive.not_gt]

variable [Functions K] (flows : List (Option K))

theorem changesSign_map_some_mul (nonzero : c ≠ 0) :
    changesSign (flows.map (some c * ·)) = changesSign flows := by
  simp only [changesSign, List.any_map, Function.comp_def, isPositive_some_mul nonzero,
    isNegative_some_mul nonzero]
  split
  · rfl
  · exact Bool.and_comm _ _

/-! ## Present values -/

/-- A factor common to all terms may be taken out of their sum. -/
theorem sumFromLeft_map_some_mul (c : K) (terms : List (Option K)) :
    sumFromLeft (terms.map (some c * ·)) = some c * sumFromLeft terms := by
  rw [sumFromLeft, sumFromLeft, ← foldl_map_some_mul, some_mul_zero]

theorem presentValue_map_some_mul (c : K) (rate : Option K) :
    presentValue (flows.map (some c * ·)) rate = some c * presentValue flows rate := by
  rw [presentValue, presentValue]
  split
  · rfl
  · rw [List.zipIdx_map, List.map_map, ← sumFromLeft_map_some_mul, List.map_map]
    congr 1
    apply List.map_congr_left
    intro entry _
    exact some_mul_div c entry.1 (growth rate entry.2)

theorem presentSlope_map_some_mul (c : K) (rate : Option K) :
    presentSlope (flows.map (some c * ·)) rate = some c * presentSlope flows rate := by
  rw [presentSlope, presentSlope]
  split
  · rfl
  · rw [List.zipIdx_map, List.filter_map, List.map_map, ← sumFromLeft_map_some_mul, List.map_map]
    congr 1
    apply List.map_congr_left
    intro entry _
    change ofInt (-(entry.2 : Int)) * (some c * entry.1) / growth rate (entry.2 + 1) = _
    rw [ofInt_eq, some_mul_left_comm, some_mul_div]
    rfl

/-! ## Rates of return -/

variable {search : RootSearch (Option K)} {flows}

theorem internalRate_map_some_mul (nonzero : c ≠ 0) (ignores : Ignores search c) :
    internalRate search (flows.map (some c * ·)) = internalRate search flows := by
  have value : presentValue (flows.map (some c * ·)) =
      fun rate => some c * presentValue flows rate :=
    funext (presentValue_map_some_mul flows c)
  have slope : presentSlope (flows.map (some c * ·)) =
      fun rate => some c * presentSlope flows rate :=
    funext (presentSlope_map_some_mul flows c)
  rw [internalRate_eq, internalRate_eq, changesSign_map_some_mul flows nonzero, value, slope,
    newton_some_mul id nonzero ignores]

/-- With a floor that is not below zero, the search for a rate of return has an outcome. -/
theorem exists_internalRate
    (floor : Number.atMost (.int 0) search.derivativeFloor = true)
    (flows : List (Option K)) :
    ∃ result, internalRate search flows = .ok result := by
  rw [internalRate_eq]
  split
  · obtain ⟨result, searched⟩ :=
      exists_newton id floor (presentValue flows) (presentSlope flows)
    exact ⟨admitted result, Outcome.map_eq_ok_iff.mpr ⟨result, searched, rfl⟩⟩
  · exact ⟨_, rfl⟩

/-- In exact arithmetic and without a floor for derivatives, the search for a rate of return has
the same outcome when all flows are multiplied by a number other than zero. With any floor that
is not below zero it has the same outcome for the other party, to whom every flow has the
opposite sign. -/
theorem internalRate_currency_free
    (search : RootSearch (Option K))
    (flows : List (Option K)) :
    (search.derivativeFloor.toScalar = some 0 →
      ∀ c : K, c ≠ 0 →
        ∃ result, internalRate search flows = .ok result ∧
          internalRate search (flows.map (some c * ·)) = .ok result) ∧
      (Number.atMost (.int 0) search.derivativeFloor = true →
        ∃ result, internalRate search flows = .ok result ∧
          internalRate search (flows.map (some (-1) * ·)) = .ok result) := by
  constructor
  · intro floor c nonzero
    obtain ⟨result, ran⟩ := exists_internalRate (notBelow_of_floor_zero floor) flows
    refine ⟨result, ran, ?_⟩
    rw [internalRate_map_some_mul nonzero (ignores_of_floor_zero nonzero floor), ran]
  · intro floor
    obtain ⟨result, ran⟩ := exists_internalRate floor flows
    refine ⟨result, ran, ?_⟩
    rw [internalRate_map_some_mul (by simp) (ignores_neg_one search), ran]

/-- A series in half units is searched like the series itself from minus one hundred percent,
where neither has a value, and so is the series of the other party under a floor of one. -/
theorem internalRate_currency_free_of_outlay :
    let flows : List (Option ℚ) := [some (-100), some 60, some 60]
    let search : RootSearch (Option ℚ) := ⟨.int (-1), .real (some (1 / 1000)), 50, .int 0⟩
    let floored : RootSearch (Option ℚ) := ⟨.int 0, .real (some (1 / 1000)), 50, .real (some 1)⟩
    search.derivativeFloor.toScalar = some 0 ∧
      (1 / 2 : ℚ) ≠ 0 ∧
      Number.atMost (.int 0) floored.derivativeFloor = true ∧
      (∃ result, internalRate search flows = .ok result ∧
        internalRate search (flows.map (some (1 / 2) * ·)) = .ok result) ∧
      ∃ result, internalRate floored flows = .ok result ∧
        internalRate floored (flows.map (some (-1) * ·)) = .ok result := by
  intro flows search floored
  have floor : search.derivativeFloor.toScalar = some 0 := by decide
  have nonzero : (1 / 2 : ℚ) ≠ 0 := by norm_num
  have notBelow : Number.atMost (.int 0) floored.derivativeFloor = true := by decide +kernel
  exact ⟨floor, nonzero, notBelow,
    (internalRate_currency_free search flows).1 floor _ nonzero,
    (internalRate_currency_free floored flows).2 notBelow⟩

end CashFlow
end Calculator
