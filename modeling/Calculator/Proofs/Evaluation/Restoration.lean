import Calculator.Proofs.Arithmetic.Special
import Calculator.Proofs.Arithmetic.Whole
import Calculator.Proofs.Evaluation.Operation

/-!
# Division and exponentiation restore what is reported

Division by zero and a power that is undefined or infinite are reported without a value. The value
that stands for it is the quotient and the power itself, whatever the signs of zeros and the parity
of the exponent.
-/

namespace Calculator

open Scalar Elementary

/-- Division is division of doubles. -/
theorem divide_eq (x y : Float) : divide x y = .ok (x / y) := by
  rw [divide]
  split
  · next zero =>
    split
    · next indeterminate =>
      rw [Bool.or_eq_true] at indeterminate
      have undefined : isNaN (x / y) = true := by
        rw [Double.isNaN_quotient_iff]
        rcases indeterminate with zero' | undefined
        · exact .inr (.inr (.inr ⟨zero', zero⟩))
        · exact .inl undefined
      exact congrArg Except.ok (Double.eq_nan_of_isNaN undefined).symm
    · next numeric =>
      rw [Bool.or_eq_true, not_or, Bool.not_eq_true, Bool.not_eq_true] at numeric
      exact congrArg Except.ok (Double.withSignOf_mul_withSignOf numeric.2 numeric.1 zero)
  · next nonzero => exact divide?_eq_ok_iff.mpr ⟨Bool.eq_false_iff.mpr nonzero, rfl⟩

/-! ## Powers that can be restored -/

/-- A power can be told from its operands where it is undefined or infinite. -/
structure IsRestorable {α : Type} [Elementary α] (base exponent : α) : Prop where
  /-- Zeros have no undefined power. -/
  undefined : isNaN (pow base exponent) = true → isZero base = false ∧ pow base exponent = nan
  /-- An infinite power has the sign of its base when its exponent is odd. -/
  infinite : isInfinite (pow base exponent) = true →
    pow base exponent = if isOdd exponent then withSignOf base infinity else infinity
  /-- A base that is not zero lies below zero when it is signed. -/
  negative : isZero base = false → isNegative base = isSigned base

/-- Exponentiation is the power function where its powers can be restored. -/
theorem power_eq_pow
    {α : Type}
    [Elementary α]
    {base exponent : α}
    (restorable : isFinite base = true → isFinite exponent = true → IsRestorable base exponent) :
    power base exponent = .ok (pow base exponent) := by
  rw [power]
  rcases pow?_cases base exponent with
    found | ⟨finite, finite', ⟨undefined, reported⟩ | ⟨infinite, reported⟩⟩
  · rw [found]
  · obtain ⟨nonzero, same⟩ := (restorable finite finite').undefined undefined
    simp [reported, nonzero, same]
  · have restored := (restorable finite finite').infinite infinite
    rw [reported, restored]
    cases zero : isZero base with
    | true => simp
    | false =>
        have negative := (restorable finite finite').negative zero
        cases isOdd exponent <;> simp [negative, withSignOf]

/-! ## Power functions of doubles -/

/-- The power function of a mathematical library, as far as it is documented for finite doubles:
where it is undefined, where it has a pole, and which sign it has. -/
structure PowerFunction where
  pow : Float → Float → Float
  /-- A number below zero has no powers but those with integers. -/
  undefined_iff : ∀ base exponent, isFinite base = true → isFinite exponent = true →
    (isNaN (pow base exponent) = true ↔ isNegative base = true ∧ ¬Double.IsWhole exponent)
  /-- A zero has a pole at the exponents below zero. -/
  pole_iff : ∀ base exponent, isZero base = true → isFinite exponent = true →
    (isInfinite (pow base exponent) = true ↔ isNegative exponent = true)
  /-- An odd power keeps a minus sign, and no other power has one. -/
  signed_iff : ∀ base exponent, isFinite base = true → isFinite exponent = true →
    isNaN (pow base exponent) = false →
      (isSigned (pow base exponent) = true ↔ isSigned base = true ∧ Double.IsOdd exponent)

namespace PowerFunction

/-- Doubles with a power function of a library. -/
@[reducible] def elementary (function : PowerFunction) : Elementary Float :=
  { (inferInstance : Elementary Float) with pow := function.pow }

/-- Exponentiation of doubles by a power function of a library. -/
def power (function : PowerFunction) (base exponent : Float) : Except Fault Float :=
  @Calculator.power Float function.elementary base exponent

variable {function : PowerFunction} {base exponent : Float}

/-- An infinite power of finite doubles has the sign of its base when its exponent is odd. -/
theorem pow_of_isInfinite
    (finite : isFinite base = true)
    (finite' : isFinite exponent = true)
    (infinite : isInfinite (function.pow base exponent) = true) :
    function.pow base exponent =
      if isSigned base = true ∧ Double.IsOdd exponent then -infinity else infinity := by
  have signed := function.signed_iff base exponent finite finite'
    (Double.isNaN_of_isInfinite infinite)
  rw [← Double.withSignOf_infinity infinite, withSignOf]
  exact if_congr signed rfl rfl

/-- The powers of a library can be restored. -/
theorem isRestorable
    (finite : isFinite base = true)
    (finite' : isFinite exponent = true) :
    @IsRestorable Float function.elementary base exponent := by
  refine @IsRestorable.mk Float function.elementary base exponent ?undefined ?infinite ?negative
  case undefined =>
    intro undefined
    obtain ⟨negative, -⟩ := (function.undefined_iff base exponent finite finite').mp undefined
    have restored : function.pow base exponent = nan := Double.eq_nan_of_isNaN undefined
    exact ⟨Double.isZero_of_isNegative negative, restored⟩
  case infinite =>
    intro infinite
    refine (pow_of_isInfinite finite finite' infinite).trans ?_
    change _ = if isOdd exponent = true then withSignOf base infinity else infinity
    simp only [← Double.isOdd_iff, and_comm, ite_and, withSignOf]
  case negative =>
    intro nonzero
    exact Double.isNegative_eq_isSigned nonzero (Double.isNaN_of_isFinite finite)

/-- Exponentiation is the power function. -/
theorem power_eq (function : PowerFunction) (base exponent : Float) :
    function.power base exponent = .ok (function.pow base exponent) :=
  @power_eq_pow Float function.elementary base exponent isRestorable

/-! ## Special values -/

/-- A quotient of zeros, or with an undefined operand, is undefined. -/
theorem divide_of_indeterminate
    {x y : Float}
    (indeterminate : isNaN x = true ∨ isNaN y = true ∨ (isZero x = true ∧ isZero y = true)) :
    divide x y = .ok nan := by
  have undefined : isNaN (x / y) = true := by
    rw [Double.isNaN_quotient_iff]
    rcases indeterminate with undefined | undefined | zeros
    · exact .inl undefined
    · exact .inr (.inl undefined)
    · exact .inr (.inr (.inr zeros))
  rw [divide_eq, Double.eq_nan_of_isNaN undefined]

/-- A number over a zero is an infinity, positive when the two have the same sign. -/
theorem divide_of_isZero
    {x y : Float}
    (defined : isNaN x = false)
    (nonzero : isZero x = false)
    (zero : isZero y = true) :
    divide x y = .ok (if isSigned x = isSigned y then infinity else -infinity) := by
  rw [divide_eq, Double.div_of_isZero defined nonzero zero]

/-- A number below zero has no power with a fraction. -/
theorem power_of_fraction
    (finite : isFinite base = true)
    (finite' : isFinite exponent = true)
    (negative : isNegative base = true)
    (fraction : ¬Double.IsWhole exponent) :
    function.power base exponent = .ok nan := by
  have undefined := (function.undefined_iff base exponent finite finite').mpr ⟨negative, fraction⟩
  rw [power_eq, Double.eq_nan_of_isNaN undefined]

/-- An infinite power of finite doubles is returned with the sign of its base when its exponent is
odd. -/
theorem power_of_overflow
    (finite : isFinite base = true)
    (finite' : isFinite exponent = true)
    (infinite : isInfinite (function.pow base exponent) = true) :
    function.power base exponent =
      .ok (if isSigned base = true ∧ Double.IsOdd exponent then -infinity else infinity) := by
  rw [power_eq, pow_of_isInfinite finite finite' infinite]

/-- A power of zero with an exponent below zero is infinite, and has the sign of the zero when the
exponent is odd. -/
theorem power_of_pole
    (zero : isZero base = true)
    (finite : isFinite exponent = true)
    (negative : isNegative exponent = true) :
    function.power base exponent =
      .ok (if isSigned base = true ∧ Double.IsOdd exponent then -infinity else infinity) :=
  power_of_overflow (Double.isFinite_of_isZero zero) finite
    ((function.pole_iff base exponent zero finite).mpr negative)

/-- Division is that of doubles, and exponentiation is the power function: no pair of operands is
reported. An infinite value has the sign that its operands give it. -/
theorem divide_and_power (function : PowerFunction) :
    (∀ x y : Float, divide x y = .ok (x / y)) ∧
      (∀ x y : Float,
        isNaN x = true ∨ isNaN y = true ∨ (isZero x = true ∧ isZero y = true) →
          divide x y = .ok nan) ∧
      (∀ x y : Float, isNaN x = false → isZero x = false → isZero y = true →
        divide x y = .ok (if isSigned x = isSigned y then infinity else -infinity)) ∧
      (∀ base exponent, function.power base exponent = .ok (function.pow base exponent)) ∧
      (∀ base exponent,
        isZero base = true → isFinite exponent = true → isNegative exponent = true →
          function.power base exponent =
            .ok (if isSigned base = true ∧ Double.IsOdd exponent then -infinity else infinity)) ∧
      (∀ base exponent, isFinite base = true → isFinite exponent = true →
        isNegative base = true → ¬Double.IsWhole exponent →
          function.power base exponent = .ok nan) ∧
      (∀ base exponent, isFinite base = true → isFinite exponent = true →
        isInfinite (function.pow base exponent) = true →
          function.power base exponent =
            .ok (if isSigned base = true ∧ Double.IsOdd exponent then -infinity else infinity)) :=
  ⟨divide_eq, fun _ _ => divide_of_indeterminate, fun _ _ => divide_of_isZero, power_eq function,
    fun _ _ => power_of_pole, fun _ _ => power_of_fraction, fun _ _ => power_of_overflow⟩

/-- What the powers of large numbers with large exponents tend to. -/
def limit (base exponent : Float) : Float :=
  if isZero exponent then 1.0 else if isZero base = isNegative exponent then infinity else 0.0

/-- A limit is defined and has no sign, and its negation is signed. -/
theorem limit_sign (base exponent : Float) :
    isNaN (limit base exponent) = false ∧ isNaN (-limit base exponent) = false ∧
      isSigned (limit base exponent) = false ∧ isSigned (-limit base exponent) = true ∧
      isInfinite (-limit base exponent) = isInfinite (limit base exponent) := by
  rw [limit]
  split
  · decide
  · split <;> decide

/-- The powers of zero are infinite below zero. -/
theorem isInfinite_limit (zero : isZero base = true) :
    isInfinite (limit base exponent) = isNegative exponent := by
  rw [limit, zero]
  split
  · next zero' =>
    cases negative : isNegative exponent with
    | false => decide
    | true =>
        rw [Double.isZero_of_isNegative negative] at zero'
        cases zero'
  · cases isNegative exponent <;> decide

/-- The power function that takes the limits for the powers. -/
def steep : PowerFunction where
  pow base exponent :=
    if isNegative base = true ∧ ¬Double.IsWhole exponent then nan
    else if isSigned base = true ∧ Double.IsOdd exponent then -limit base exponent
    else limit base exponent
  undefined_iff base exponent _ _ := by
    obtain ⟨defined, defined', -⟩ := limit_sign base exponent
    split
    · next fraction => exact iff_of_true rfl fraction
    · next whole =>
      refine iff_of_false ?_ whole
      split
      · simp [defined']
      · simp [defined]
  pole_iff base exponent zero _ := by
    obtain ⟨-, -, -, -, infinite⟩ := limit_sign base exponent
    have above : ¬isNegative base = true := fun negative => by
      rw [Double.isZero_of_isNegative negative] at zero
      cases zero
    rw [if_neg (above ·.1)]
    split
    · rw [infinite, isInfinite_limit zero]
    · rw [isInfinite_limit zero]
  signed_iff base exponent _ _ defined := by
    obtain ⟨-, -, plus, minus, -⟩ := limit_sign base exponent
    split at defined
    · cases defined
    · next whole =>
      rw [if_neg whole]
      split
      · next odd => exact iff_of_true minus odd
      · next even => exact iff_of_false (by simp [plus]) even

/-- At an odd power of a negative zero, at an odd power that overflows, and at a root of a number
below zero. -/
theorem divide_and_power_steep :
    divide 1.0 (-0.0) = .ok (-infinity : Float) ∧
      steep.power (-0.0) (-3.0) = .ok (-infinity) ∧
      steep.power (-10.0) 309.0 = .ok (-infinity) ∧
      steep.power (-2.0) 0.5 = .ok nan := by
  obtain ⟨-, -, divided, -, pole, fraction, overflow⟩ := divide_and_power steep
  refine ⟨?_, ?_, ?_, ?_⟩
  · exact divided 1.0 (-0.0) (by decide) (by decide) (by decide)
  · exact pole (-0.0) (-3.0) (by decide) (by decide) (by decide)
  · exact overflow (-10.0) 309.0 (by decide) (by decide) (by decide)
  · exact fraction (-2.0) 0.5 (by decide) (by decide) (by decide) (by decide)

end PowerFunction

end Calculator
