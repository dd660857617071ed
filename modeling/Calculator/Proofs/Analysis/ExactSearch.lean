import Calculator.Proofs.Analysis.Estimate
import Calculator.Proofs.Analysis.Resumption
import Calculator.Proofs.Arithmetic.Lifted

/-!
# Searches in exact arithmetic

A search in exact arithmetic has an outcome unless its floor for derivatives is below zero. A
function and its derivative that are multiplied by the same number have the same quotient, and so
they are searched in the same way wherever the floor does not tell their slopes apart.
-/

namespace Calculator
namespace Lifted

open Scalar RootSearch

variable {K ε : Type} [Field K] [LinearOrder K]

/-- A floor that does not tell a slope from its multiple. -/
def Ignores (search : RootSearch (Option K)) (c : K) : Prop :=
  ∀ slope : Option K,
    Number.atMost (.real (Scalar.abs (some c * slope))) search.derivativeFloor =
      Number.atMost (.real (Scalar.abs slope)) search.derivativeFloor

/-- No floor sees the sign of a slope. -/
theorem ignores_neg_one (search : RootSearch (Option K)) : Ignores search (-1) := by
  intro slope
  cases slope with
  | none => rfl
  | some s => simp

variable [IsStrictOrderedRing K] {search : RootSearch (Option K)}

/-- A floor that is not below zero tells the slopes above it from the others. -/
theorem hasFloor (floor : Number.atMost (.int 0) search.derivativeFloor = true) :
    search.HasFloor := by
  obtain ⟨zero, bound, isZero, isBound, ordered⟩ := atMost_iff.mp floor
  have same : zero = 0 := by simpa using isZero.symm
  subst same
  constructor
  · intro slope finite
    obtain ⟨s, rfl⟩ := Option.isSome_iff_exists.mp finite
    rw [Bool.eq_false_iff, Ne, atMost_iff, less_iff]
    simp [isBound]
  · intro slope zero
    cases slope with
    | none => cases zero
    | some s =>
        rw [isZero_some, decide_eq_true_iff] at zero
        rw [zero, atMost_iff]
        exact ⟨0, bound, by simp, isBound, ordered⟩

theorem notBelow_of_floor_zero (floor : search.derivativeFloor.toScalar = some 0) :
    Number.atMost (.int 0) search.derivativeFloor = true :=
  atMost_iff.mpr ⟨0, 0, by simp, floor, le_refl 0⟩

/-- So there is an outcome wherever the function and its derivative have values. -/
theorem exists_newton
    (fault : Fault → ε)
    (floor : Number.atMost (.int 0) search.derivativeFloor = true)
    (f derivative : Option K → Option K) :
    ∃ result, search.newton fault (total f) (total derivative) = .ok result := by
  obtain ⟨result, ends⟩ : ∃ result, Ends search f derivative result :=
    exists_ends (hasFloor floor)
  exact ⟨result, newton_of_ends fault (hasFloor floor) (toScalar?_eq _) ends⟩

/-! ## Multiples of a function -/

/-- Zero only tells whether a slope vanishes. -/
theorem ignores_of_floor_zero
    {c : K}
    (nonzero : c ≠ 0)
    (floor : search.derivativeFloor.toScalar = some 0) :
    Ignores search c := by
  intro slope
  cases slope with
  | none => rfl
  | some s =>
      have vanishes : |c * s| ≤ 0 ↔ |s| ≤ 0 := by
        rw [abs_nonpos_iff, abs_nonpos_iff, mul_eq_zero, or_iff_right nonzero]
      rw [Bool.eq_iff_iff, atMost_iff, atMost_iff]
      simpa [floor] using vanishes

/-- Multiples of a function and its derivative make the same moves. -/
theorem move_some_mul
    {fault : Fault → ε}
    {c : K}
    (nonzero : c ≠ 0)
    (ignores : Ignores search c)
    (f derivative : Option K → Option K)
    (x : Number (Option K)) :
    move fault (total fun y => some c * f y) (total fun y => some c * derivative y) search x =
      move fault (total f) (total derivative) search x := by
  unfold move total
  simp only [toScalar?_eq, Outcome.mapError_ok, Outcome.ok_bind, isFinite_some_mul,
    ignores (derivative x.toScalar), divide?_some_mul nonzero]

/-- And so they are searched in the same way. -/
theorem newton_some_mul
    (fault : Fault → ε)
    {c : K}
    (nonzero : c ≠ 0)
    (ignores : Ignores search c)
    (f derivative : Option K → Option K) :
    search.newton fault (total fun y => some c * f y) (total fun y => some c * derivative y) =
      search.newton fault (total f) (total derivative) :=
  newtonFrom_congr (move_some_mul nonzero ignores f derivative) _ _ _

end Lifted
end Calculator
