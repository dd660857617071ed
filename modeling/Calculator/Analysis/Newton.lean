import Calculator.Analysis.Iteration

/-!
# Newton's method

The search for a root of a function by its derivative. It stops when a step
moves the estimate by less than the tolerance. A value that is not finite, a
derivative that vanishes and a step that leaves the number line end it early
without a root.
-/

namespace Calculator

/-- The settings of a search. -/
structure RootSearch (α : Type) where
  initialGuess : Number α
  tolerance : Number α
  maxIterations : Int
  derivativeFloor : Number α

namespace RootSearch

open Scalar

variable {α ε : Type} [Scalar α]

/-- The settings of a search unless others are chosen. -/
def standard : RootSearch α where
  initialGuess := .real 0.1
  tolerance := .real 1e-10
  maxIterations := 1000
  derivativeFloor := .real 1e-300

/-- The rounds of a search from the estimate `x`, after the first `done`. -/
def newtonFrom (fault : Fault → ε) (f derivative : α → Except ε α) (search : RootSearch α) :
    (remaining done : Nat) → Number α → Except ε (Iteration α)
  | 0, _, x => .ok ⟨x, search.maxIterations, false, some .iterationLimit⟩
  | remaining + 1, done, x => do
      let estimate ← x.toScalar?.mapError fault
      let value ← f estimate
      let slope ← derivative estimate
      if !(isFinite value && isFinite slope) then
        return ⟨x, done, false, some .nonFiniteValue⟩
      else if Number.atMost (.real (abs slope)) search.derivativeFloor then
        return ⟨x, done, false, some .zeroDerivative⟩
      else
        let step ← (divide? value slope).mapError fault
        let next := estimate - step
        if !isFinite next then
          return ⟨x, done + 1, false, some .nonFiniteStep⟩
        else if Number.less (.real (abs (next - estimate))) search.tolerance then
          return ⟨.real next, done + 1, true, none⟩
        else newtonFrom fault f derivative search remaining (done + 1) (.real next)

/-- Search for a root of `f` from the initial guess. -/
def newton (fault : Fault → ε) (f derivative : α → Except ε α) (search : RootSearch α) :
    Except ε (Iteration α) :=
  newtonFrom fault f derivative search search.maxIterations.toNat 0 search.initialGuess

end RootSearch

end Calculator
