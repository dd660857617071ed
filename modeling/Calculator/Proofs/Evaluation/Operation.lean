import Calculator.Expression.Function

/-!
# Operations on numbers always have a result

The elementary functions fail outside their domain and beyond the largest
scalar, and in no other way. Both faults are caught, and division guards its
divisor, so that every operator and function has a result on all arguments.
-/

namespace Calculator

open Scalar Elementary

variable {α : Type} [Elementary α]

namespace Elementary

/-- A checked function fails outside its domain or by the fault of its overflow. -/
theorem fault_of_checked
    {overflow fault : Fault}
    {function : α → α}
    {x : α}
    (failed : checked overflow function x = .error fault) :
    fault = .domain ∨ fault = overflow := by
  simp only [checked] at failed
  split at failed
  · left
    cases failed
    rfl
  · split at failed
    · right
      cases failed
      rfl
    · cases failed

/-- A checked function succeeds where it stays on the number line. -/
theorem checked_eq_ok_iff
    {overflow : Fault}
    {function : α → α}
    {x y : α} :
    checked overflow function x = .ok y ↔
      function x = y ∧ (isNaN (function x) = true → isNaN x = true) ∧
        (isInfinite (function x) = true → isFinite x = false) := by
  rw [checked]
  split
  · next outside =>
    rw [Bool.and_eq_true, Bool.not_eq_true'] at outside
    simp [outside]
  · next inside =>
    split
    · next beyond =>
      rw [Bool.and_eq_true] at beyond
      simp [beyond]
    · next within =>
      simp only [Bool.and_eq_true, Bool.not_eq_true', not_and, Bool.not_eq_false,
        Bool.not_eq_true] at inside within
      simp +contextual [inside, within]

/-- A power is reported where finite scalars have an undefined or an infinite one. -/
theorem pow?_cases (base exponent : α) :
    pow? base exponent = .ok (pow base exponent) ∨
      (isFinite base = true ∧ isFinite exponent = true ∧
        ((isNaN (pow base exponent) = true ∧ pow? base exponent = .error .domain) ∨
          (isInfinite (pow base exponent) = true ∧
            pow? base exponent = .error (if isZero base then .domain else .range)))) := by
  rw [pow?]
  split
  · next finite =>
    rw [Bool.and_eq_true] at finite
    split
    · next undefined => exact .inr ⟨finite.1, finite.2, .inl ⟨undefined, rfl⟩⟩
    · split
      · next infinite => exact .inr ⟨finite.1, finite.2, .inr ⟨infinite, rfl⟩⟩
      · exact .inl rfl
  · exact .inl rfl

/-- A power fails at a pole, at an undefined value or by its overflow. -/
theorem fault_of_pow?
    {fault : Fault}
    {base exponent : α}
    (failed : pow? base exponent = .error fault) :
    fault = .domain ∨ fault = .range := by
  rcases pow?_cases base exponent with found | ⟨-, -, ⟨-, found⟩ | ⟨-, found⟩⟩
  · cases found.symm.trans failed
  · cases found.symm.trans failed
    exact .inl rfl
  · cases found.symm.trans failed
    split
    · exact .inl rfl
    · exact .inr rfl

end Elementary

namespace Scalar

theorem divide?_eq_ok_iff {x y z : α} :
    divide? x y = .ok z ↔ isZero y = false ∧ x / y = z := by
  rw [divide?]
  split
  · next zero => simp [zero]
  · next nonzero => simp [nonzero]

end Scalar

namespace Function

theorem fault_of_logarithm
    {log : α → α}
    {x : α}
    {fault : Fault}
    (failed : logarithm log x = .error fault) :
    fault = .domain ∨ fault = .range := by
  simp only [logarithm] at failed
  split at failed
  · cases failed
  · exact Or.inl ((or_self _).mp (fault_of_checked failed))

/-- The functions themselves fail outside their domain or by overflow. -/
theorem fault_of_attempt
    {function : Function}
    {x : α}
    {fault : Fault}
    (failed : function.attempt x = .error fault) :
    fault = .domain ∨ fault = .range := by
  cases function with
  | sin => exact Or.inl ((or_self _).mp (fault_of_checked failed))
  | cos => exact Or.inl ((or_self _).mp (fault_of_checked failed))
  | tan => exact Or.inl ((or_self _).mp (fault_of_checked failed))
  | log => exact fault_of_logarithm failed
  | ln => exact fault_of_logarithm failed
  | sqrt => exact Or.inl ((or_self _).mp (fault_of_checked failed))
  | abs => cases failed
  | exp => exact fault_of_checked failed

/-- Every function has a value at every argument. -/
theorem exists_apply (function : Function) (x : α) :
    ∃ y, function.apply x = .ok y := by
  rw [apply]
  cases attempted : function.attempt x with
  | ok y => exact ⟨y, rfl⟩
  | error fault =>
      rcases fault_of_attempt attempted with rfl | rfl
      · exact ⟨nan, rfl⟩
      · exact ⟨infinity, rfl⟩

end Function

/-- Every quotient has a value: the divisor of a division that may fail is not
zero. -/
theorem exists_divide (left right : α) : ∃ z, divide left right = .ok z := by
  rw [divide]
  split
  · split
    · exact ⟨_, rfl⟩
    · exact ⟨_, rfl⟩
  · rename_i divisible
    exact ⟨left / right, by rw [divide?, if_neg divisible]⟩

/-- Every power has a value. -/
theorem exists_power (base exponent : α) : ∃ z, power base exponent = .ok z := by
  rw [power]
  cases attempted : pow? base exponent with
  | ok z => exact ⟨z, rfl⟩
  | error fault =>
      rcases fault_of_pow? attempted with rfl | rfl
      · dsimp only
        split
        · exact ⟨_, rfl⟩
        · exact ⟨_, rfl⟩
      · exact ⟨_, rfl⟩

/-- Every operator has a value at every pair of operands. -/
theorem BinaryOperator.exists_apply (operator : BinaryOperator) (x y : α) :
    ∃ z, operator.apply x y = .ok z := by
  cases operator with
  | add => exact ⟨x + y, rfl⟩
  | subtract => exact ⟨x - y, rfl⟩
  | multiply => exact ⟨x * y, rfl⟩
  | divide => exact exists_divide x y
  | power => exact exists_power x y

end Calculator
