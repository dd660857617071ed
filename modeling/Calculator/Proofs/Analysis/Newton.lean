import Calculator.Analysis.Newton
import Calculator.Outcome
import Calculator.Proofs.Arithmetic.Order

/-!
# How a search ends

A search whose floor for derivatives is not below zero never divides by zero. Where the
function and its derivative have values it ends, and it converges on a finite estimate
or has a reason not to.
-/

namespace Calculator
namespace RootSearch

open Scalar

/-- What a search comes to after `done` rounds and within `limit` of them. It converges
on a finite estimate, or it stops for a reason of its own. -/
inductive Settled (done limit : Nat) : Iteration Float → Prop
  | converged
      {estimate : Float}
      {rounds : Int}
      (finite : isFinite estimate = true)
      (after : done < rounds)
      (within : rounds ≤ limit) :
      Settled done limit ⟨.real estimate, rounds, true, none⟩
  | stopped
      {estimate : Number Float}
      {rounds : Int}
      {reason : StopReason}
      (own : reason ∈ [.nonFiniteValue, .zeroDerivative, .nonFiniteStep, .iterationLimit]) :
      Settled done limit ⟨estimate, rounds, false, some reason⟩

/-- What comes about in later rounds comes about after the earlier ones. -/
theorem Settled.of_later
    {done later limit : Nat}
    (ordered : done ≤ later)
    {result : Iteration Float}
    (settled : Settled later limit result) :
    Settled done limit result := by
  cases settled with
  | converged finite after within => exact .converged finite (by omega) within
  | stopped own => exact .stopped own

variable {α ε : Type} [Scalar α] {fault : Fault → ε}

/-- The floor for derivatives tells the finite ones that are above it from those that are
not, and no zero is above it. -/
structure HasFloor (search : RootSearch α) : Prop where
  separates :
    ∀ slope : α, isFinite slope = true →
      (Number.atMost (.real (abs slope)) search.derivativeFloor = false ↔
        Number.less search.derivativeFloor (.real (abs slope)) = true)
  catches :
    ∀ slope : α, isZero slope = true →
      Number.atMost (.real (abs slope)) search.derivativeFloor = true

/-- A floor that is not below zero does so. -/
theorem hasFloor
    {search : RootSearch Float}
    (floor : Number.atMost (.int 0) search.derivativeFloor = true) :
    search.HasFloor := by
  have defined : search.derivativeFloor.isNaN = false := by
    refine Bool.eq_false_iff.mpr fun undefined => ?_
    rw [Number.atMost, Number.order_eq_none_iff.mpr (.inr undefined)] at floor
    cases floor
  constructor
  · intro slope finite
    have number := Double.isNaN_abs_of_isFinite finite
    rw [Number.atMost_eq_false_iff, defined, Number.isNaN, number]
    simp
  · intro slope zero
    rw [Number.atMost, Number.order_abs_of_isZero zero, ← Number.atMost, floor]

/-- A derivative above the floor is no zero divisor. -/
theorem HasFloor.divide?_eq
    {search : RootSearch α}
    (floor : search.HasFloor)
    {slope : α}
    (above : Number.atMost (.real (abs slope)) search.derivativeFloor = false)
    (value : α) :
    divide? value slope = .ok (value / slope) := by
  refine if_neg fun zero => ?_
  rw [floor.catches slope zero] at above
  cases above

/-- A round looks at the value and the derivative, and then at the step. -/
theorem newtonFrom_succ
    {f derivative : α → Except ε α}
    {search : RootSearch α}
    (floor : search.HasFloor)
    {x : Number α}
    {estimate value slope : α}
    (estimated : x.toScalar? = .ok estimate)
    (valued : f estimate = .ok value)
    (sloped : derivative estimate = .ok slope)
    (remaining done : Nat) :
    newtonFrom fault f derivative search (remaining + 1) done x =
      let next := estimate - value / slope
      if !(isFinite value && isFinite slope) then
        .ok ⟨x, done, false, some .nonFiniteValue⟩
      else if Number.atMost (.real (abs slope)) search.derivativeFloor then
        .ok ⟨x, done, false, some .zeroDerivative⟩
      else if !isFinite next then .ok ⟨x, done + 1, false, some .nonFiniteStep⟩
      else if Number.less (.real (abs (next - estimate))) search.tolerance then
        .ok ⟨.real next, done + 1, true, none⟩
      else newtonFrom fault f derivative search remaining (done + 1) (.real next) := by
  simp only [newtonFrom, estimated, Outcome.mapError_ok, Outcome.ok_bind, valued, sloped,
    Outcome.pure_eq_ok]
  split
  · rfl
  split
  · rfl
  rename_i above
  rw [floor.divide?_eq (Bool.eq_false_iff.mpr above)]
  rfl

variable {f derivative : Float → Except ε Float} {search : RootSearch Float}

/-- Where the function and its derivative have values a search settles. -/
theorem exists_newtonFrom
    (fault : Fault → ε)
    (floor : Number.atMost (.int 0) search.derivativeFloor = true)
    (hasValue : ∀ x, ∃ y, f x = .ok y)
    (hasSlope : ∀ x, ∃ y, derivative x = .ok y)
    (remaining done : Nat)
    {x : Number Float}
    {estimate : Float}
    (estimated : x.toScalar? = .ok estimate) :
    ∃ result, newtonFrom fault f derivative search remaining done x = .ok result ∧
      Settled done (done + remaining) result := by
  induction remaining generalizing done x estimate with
  | zero => exact ⟨_, rfl, .stopped (by simp)⟩
  | succ remaining remainingHypothesis =>
      obtain ⟨value, valued⟩ := hasValue estimate
      obtain ⟨slope, sloped⟩ := hasSlope estimate
      rw [newtonFrom_succ (hasFloor floor) estimated valued sloped]
      dsimp only
      split
      · exact ⟨_, rfl, .stopped (by simp)⟩
      split
      · exact ⟨_, rfl, .stopped (by simp)⟩
      split
      · exact ⟨_, rfl, .stopped (by simp)⟩
      split
      · rename_i notInfinite _
        exact ⟨_, rfl, .converged (by simpa using notInfinite) (by omega) (by omega)⟩
      · obtain ⟨result, ran, settled⟩ :=
          remainingHypothesis (done + 1) (x := .real (estimate - value / slope)) rfl
        refine ⟨result, ran, .of_later (Nat.le_succ done) ?_⟩
        rwa [Nat.add_right_comm] at settled

/-- A search from an estimate within range settles. -/
theorem exists_newton
    (fault : Fault → ε)
    (floor : Number.atMost (.int 0) search.derivativeFloor = true)
    (hasValue : ∀ x, ∃ y, f x = .ok y)
    (hasSlope : ∀ x, ∃ y, derivative x = .ok y)
    {estimate : Float}
    (estimated : search.initialGuess.toScalar? = .ok estimate) :
    ∃ result, search.newton fault f derivative = .ok result ∧
      Settled 0 search.maxIterations.toNat result := by
  have settles := exists_newtonFrom fault floor hasValue hasSlope search.maxIterations.toNat 0
    estimated
  rwa [Nat.zero_add] at settles

end RootSearch
end Calculator
