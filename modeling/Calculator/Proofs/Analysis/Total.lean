import Calculator.Analysis.Difference
import Calculator.Analysis.Simpson
import Calculator.Proofs.Arithmetic.Order

/-!
# Calculus of total functions

A function with a value everywhere has a slope, a limit and an integral wherever the
distance to the two sides and the mesh are not refused.
-/

namespace Calculator

open Scalar

variable {ε : Type} {f : Float → Except ε Float}

namespace Difference

/-- A distance is accepted when it is positive and within the range of doubles. -/
theorem exists_distance_iff {step : Number Float} :
    (∃ h, distance step = .ok h) ↔
      Number.less (.int 0) step = true ∧ ∃ h, step.toScalar? = .ok h := by
  rw [distance]
  split
  · next positive => simp [positive, Outcome.mapError_eq_ok_iff]
  · next refused => simp [refused]

theorem exists_slope
    (total : ∀ x, ∃ y, f x = .ok y)
    (x h : Float) :
    ∃ y, slope f x h = .ok y := by
  obtain ⟨right, isRight⟩ := total (x + h)
  obtain ⟨left, isLeft⟩ := total (x - h)
  exact ⟨_, by rw [slope, isRight, Outcome.ok_bind, isLeft]; rfl⟩

theorem exists_limit
    (total : ∀ x, ∃ y, f x = .ok y)
    (x h : Float)
    (tolerance : Number Float) :
    ∃ y, limit f x h tolerance = .ok y := by
  obtain ⟨left, isLeft⟩ := total (x - h)
  obtain ⟨right, isRight⟩ := total (x + h)
  rw [limit, isLeft, Outcome.ok_bind, isRight, Outcome.ok_bind]
  split
  · exact ⟨_, rfl⟩
  · split
    · exact ⟨_, rfl⟩
    · exact ⟨_, rfl⟩

end Difference

namespace Mesh

/-- An interval between finite bounds in order is cut into two or more parts when the even
number of parts is within the range of doubles. -/
theorem exists_cut_iff
    {lower upper : Float}
    (lowerFinite : isFinite lower = true)
    (upperFinite : isFinite upper = true)
    (ordered : less lower upper = true)
    {parts : Nat}
    (enough : 2 ≤ parts) :
    (∃ mesh, cut lower upper parts = .ok mesh) ↔
      ∃ count : Float, ofInt? (evenAbove parts) = .ok count := by
  have apart : Number.atMost (.real upper) (.real lower) = false :=
    Number.atMost_eq_false_iff.mpr (.inl ordered)
  have many : ¬(parts : Int) < 2 := by omega
  rw [cut, lowerFinite, upperFinite, show atMost upper lower = false from apart]
  simp only [Bool.and_self, Bool.not_true, Bool.false_eq_true, if_false, many, dif_neg,
    not_false_iff, Int.toNat_natCast]
  cases counted : (ofInt? (evenAbove parts) : Except Fault Float) with
  | error fault => simp
  | ok count => simp

theorem exists_integral
    (total : ∀ x, ∃ y, f x = .ok y)
    (mesh : Mesh Float) :
    ∃ y, mesh.integral f = .ok y := by
  obtain ⟨atLower, isLower⟩ := total mesh.lower
  obtain ⟨atUpper, isUpper⟩ := total mesh.upper
  have stepped (sum : Float) (index : Nat) :
      ∃ next, (do
        let value ← f (mesh.node index)
        return sum + weight index * value : Except ε Float) = .ok next := by
    obtain ⟨value, isValue⟩ := total (mesh.node index)
    exact ⟨_, by rw [isValue]; rfl⟩
  obtain ⟨sum, summed⟩ :=
    Outcome.exists_foldlM stepped mesh.innerIndices (atLower + atUpper)
  exact ⟨_, by rw [integral, isLower, Outcome.ok_bind, isUpper, Outcome.ok_bind, summed]; rfl⟩

end Mesh
end Calculator
