import Calculator.Arithmetic.Double
import Calculator.Failure.Basic
import Calculator.Proofs.Arithmetic.Sign
import Calculator.Proofs.Evaluation.Operation
import Calculator.Proofs.Finance.Terms

/-!
# Quotes in double arithmetic

Terms that cannot be used are refused for their first offender. All other terms have prices unless
a step on the way leaves the number line: the ratio of the prices or the deviation vanishes, the
discount exceeds all doubles, or infinities meet in the sum or the quotient behind the quantiles.
-/

namespace Calculator

open Scalar Elementary

/-! ## Blame -/

/-- A failure is reported as a parameter that cannot be used, by the name of an input. -/
def OptionError.Blames (error : OptionError Float) (input : OptionInput) : Prop :=
  ∃ diagnostic, error.report = .diagnostic diagnostic ∧
    diagnostic.category = .invalidParameter ∧
    diagnostic.details.find? "parameter" = some (.text input.label)

/-- An arithmetic fault is no fault of an input. -/
theorem OptionError.not_blames_arithmetic {fault : Fault} {input : OptionInput} :
    ¬(OptionError.arithmetic fault).Blames input := by
  rintro ⟨diagnostic, isDiagnostic, -⟩
  cases fault <;> cases isDiagnostic

/-- What is said of terms names the input that cannot be used. -/
theorem OptionTerms.blames_complaint_iff
    {terms : OptionTerms Float}
    {input other : OptionInput} :
    (terms.complaint other).Blames input ↔ other = input := by
  have named : (terms.complaint other).Blames other := by
    cases other <;> exact ⟨_, rfl, rfl, rfl⟩
  constructor
  · rintro ⟨diagnostic, isDiagnostic, -, isLabel⟩
    obtain ⟨diagnostic', isDiagnostic', -, isLabel'⟩ := named
    rw [isDiagnostic'] at isDiagnostic
    cases isDiagnostic
    rw [isLabel'] at isLabel
    exact OptionInput.label_injective (Value.text.inj (Option.some.inj isLabel))
  · rintro rfl
    exact named

/-! ## The steps of a quote -/

section Steps

variable {α : Type} [Elementary α]

/-- Only an undefined bound has no probability. -/
theorem Normal.exists_probability_iff {x : α} :
    (∃ p, Normal.probability x = .ok p) ↔ isNaN x = false := by
  rw [Normal.probability]
  split
  · next undefined => simp [undefined]
  · next defined =>
    split
    · simp [defined]
    · simp [defined]

namespace OptionTerms

/-- The price of the asset, measured by the strike. -/
def ratio (terms : OptionTerms α) : α :=
  terms.spot / terms.strike

/-- How far the asset strays until the trade. -/
def deviation (terms : OptionTerms α) : α :=
  terms.volatility * sqrt terms.years

/-- How far the asset drifts until the trade. -/
def drift (terms : OptionTerms α) : α :=
  (terms.rate + 0.5 * terms.volatility * terms.volatility) * terms.years

/-- The exponent that discounts the strike. -/
def discountExponent (terms : OptionTerms α) : α :=
  -terms.rate * terms.years

/-- Terms have a quote when each step succeeds and the quantiles are defined on both sides. -/
theorem exists_quote_iff {terms : OptionTerms α} :
    (∃ prices, terms.quote = .ok prices) ↔
      ∃ moneyness, log? terms.ratio = .ok moneyness ∧
        ∃ d1, divide? (moneyness + terms.drift) terms.deviation = .ok d1 ∧
          (∃ discount, exp? terms.discountExponent = .ok discount) ∧
          isNaN d1 = false ∧ isNaN (d1 - terms.deviation) = false ∧
          isNaN (-(d1 - terms.deviation)) = false ∧ isNaN (-d1) = false := by
  simp only [quote, Outcome.exists_bind_iff, Outcome.pure_eq_ok, Except.ok.injEq, exists_eq',
    and_true, exists_and_right, Normal.exists_probability_iff]
  rfl

end OptionTerms

end Steps

/-! ## Admitted terms -/

namespace OptionTerms

section Admitted

variable {terms : OptionTerms Float} (admitted : ∀ input, terms.admits input = true)

include admitted

theorem isFinite_of_admitted (input : OptionInput) : isFinite (terms.value input) = true :=
  (Bool.and_eq_true_iff.mp (admitted input)).1

theorem isPositive_of_admitted (input : OptionInput) (apart : input ≠ .rate) :
    isPositive (terms.value input) = true := by
  have positive := (Bool.and_eq_true_iff.mp (admitted input)).2
  rwa [beq_eq_false_iff_ne.mpr apart, Bool.false_or] at positive

theorem exists_parts_of_admitted (input : OptionInput) (apart : input ≠ .rate) :
    ∃ mantissa exponent pos,
      Double.parts (terms.value input) = .finite .positive mantissa exponent pos :=
  Double.exists_parts_of_positive (isFinite_of_admitted admitted input)
    (isPositive_of_admitted admitted input apart)

/-- The ratio of the prices is not negative. -/
theorem sign?_ratio : Double.sign? (Double.parts terms.ratio) = some .positive := by
  obtain ⟨_, _, _, spot⟩ := exists_parts_of_admitted admitted .spot (by decide)
  obtain ⟨_, _, _, strike⟩ := exists_parts_of_admitted admitted .strike (by decide)
  change Double.parts terms.spot = _ at spot
  change Double.parts terms.strike = _ at strike
  rw [ratio, Double.parts_div, spot, strike, Double.sign?_stored, Double.sign?_div_finite]
  rfl

/-- The deviation is a number. -/
theorem isNaN_deviation : isNaN terms.deviation = false := by
  obtain ⟨_, _, _, years⟩ := exists_parts_of_admitted admitted .years (by decide)
  obtain ⟨_, _, _, volatility⟩ :=
    exists_parts_of_admitted admitted .volatility (by decide)
  change Double.parts terms.years = _ at years
  change Double.parts terms.volatility = _ at volatility
  refine Double.isNaN_eq_false_iff.mpr ⟨.positive, ?_⟩
  change Double.sign? (Double.parts (terms.volatility * terms.years.sqrt)) = some .positive
  rw [Double.parts_mul, Double.parts_sqrt, years, volatility, Double.sign?_stored,
    Double.sign?_finite_mul, Double.sign?_stored, Double.sign?_sqrt_finite]
  rfl

/-- Only the rate may be negative, and it is finite, so the drift is a number. -/
theorem isNaN_drift : isNaN terms.drift = false := by
  have scaled (x : Float) (input : OptionInput) (apart : input ≠ .rate) :
      isNaN (x * terms.value input) = isNaN x :=
    Double.isNaN_mul (isFinite_of_admitted admitted input)
      (isPositive_of_admitted admitted input apart)
  calc isNaN terms.drift
      = isNaN (terms.rate + 0.5 * terms.volatility * terms.volatility) :=
        scaled _ .years (by decide)
    _ = isNaN (0.5 * terms.volatility * terms.volatility) :=
        Double.isNaN_add_of_isFinite (isFinite_of_admitted admitted .rate)
    _ = isNaN (0.5 * terms.volatility) := scaled _ .volatility (by decide)
    _ = isNaN (0.5 : Float) := scaled _ .volatility (by decide)
    _ = false := by decide

theorem isNaN_discountExponent : isNaN terms.discountExponent = false :=
  calc isNaN terms.discountExponent
      = isNaN (-terms.rate) :=
        Double.isNaN_mul (isFinite_of_admitted admitted .years)
          (isPositive_of_admitted admitted .years (by decide))
    _ = isNaN terms.rate := Double.isNaN_neg terms.rate
    _ = false := Double.isNaN_of_isFinite (isFinite_of_admitted admitted .rate)

end Admitted

end OptionTerms

/-! ## Functions of a library -/

/-- The exponential function and the logarithm of a mathematical library, as far as they are
documented: where they are defined and where they are infinite. -/
structure MathLibrary where
  exp : Float → Float
  log : Float → Float
  exp_defined : ∀ x, isNaN x = false → isNaN (exp x) = false
  log_zero : ∀ x, isZero x = true → isInfinite (log x) = true
  log_finite : ∀ x, isFinite x = true → isPositive x = true → isFinite (log x) = true
  log_infinite : ∀ x, isInfinite x = true → isPositive x = true →
    isInfinite (log x) = true ∧ isPositive (log x) = true

namespace MathLibrary

/-- Doubles with the functions of a library. -/
@[reducible] def elementary (library : MathLibrary) : Elementary Float where
  toScalar := inferInstance
  sqrt := Float.sqrt
  exp := library.exp
  log := library.log
  log10 := Float.log10
  sin := Float.sin
  cos := Float.cos
  tan := Float.tan
  pow := Float.pow
  isOdd x := (Binary.ofFloat x).isOdd

/-- The prices of an option under the functions of a library. -/
def price (library : MathLibrary) (terms : OptionTerms Float) :
    Except (OptionError Float) (OptionPrices Float) :=
  @OptionTerms.price Float library.elementary terms

/-- Under the functions that doubles come with these are the prices of the option. -/
theorem price_eq_price
    {library : MathLibrary}
    (isExp : library.exp = Float.exp)
    (isLog : library.log = Float.log)
    (terms : OptionTerms Float) :
    library.price terms = terms.price := by
  rw [price, elementary, isExp, isLog]

/-- Terms whose quote stays on the number line. -/
structure Quotable (library : MathLibrary) (terms : OptionTerms Float) : Prop where
  /-- The asset is not so cheap that its price vanishes beside the strike. -/
  ratio : isZero terms.ratio = false
  /-- The asset is not so steady that its deviation vanishes. -/
  deviation : isZero terms.deviation = false
  /-- The discount is infinite only when its exponent is. -/
  discount : isInfinite (library.exp terms.discountExponent) = true →
    isFinite terms.discountExponent = false
  /-- No infinite drift downwards meets an infinite ratio. -/
  sum : isInfinite terms.ratio = true → isInfinite terms.drift = true →
    isPositive terms.drift = true
  /-- No infinite sum meets an infinite deviation. -/
  quantile : isInfinite (library.log terms.ratio + terms.drift) = true →
    isInfinite terms.deviation = false

section Functions

variable {library : MathLibrary} {x : Float}

/-- The discount is found unless it leaves the doubles. -/
theorem exists_exp?_iff (defined : isNaN x = false) :
    (∃ y, @exp? Float library.elementary x = .ok y) ↔
      (isInfinite (library.exp x) = true → isFinite x = false) := by
  have checks (y : Float) :
      @exp? Float library.elementary x = .ok y ↔
        library.exp x = y ∧ (isNaN (library.exp x) = true → isNaN x = true) ∧
          (isInfinite (library.exp x) = true → isFinite x = false) :=
    @checked_eq_ok_iff Float library.elementary .range library.exp x y
  simp [checks, library.exp_defined x defined]

/-- Where the sign is positive only a zero has no logarithm. -/
theorem log?_eq_ok_iff
    (signed : Double.sign? (Double.parts x) = some .positive)
    {y : Float} :
    @log? Float library.elementary x = .ok y ↔ isZero x = false ∧ library.log x = y := by
  have checks :
      @log? Float library.elementary x = .ok y ↔
        library.log x = y ∧ (isNaN (library.log x) = true → isNaN x = true) ∧
          (isInfinite (library.log x) = true → isFinite x = false) :=
    @checked_eq_ok_iff Float library.elementary .domain library.log x y
  rw [checks]
  cases zero : isZero x with
  | true =>
      simp [library.log_zero x zero, Double.isFinite_of_isZero zero]
  | false =>
      have positive : isPositive x = true := Double.isPositive_of_sign? signed zero
      cases finite : isFinite x with
      | true =>
          have logFinite := library.log_finite x finite positive
          simp [Double.isNaN_of_isFinite logFinite, Double.isInfinite_of_isFinite logFinite]
      | false =>
          have defined : isNaN x = false := Double.isNaN_eq_false_iff.mpr ⟨.positive, signed⟩
          have infinite : isInfinite x = true := by
            rw [Double.isInfinite_eq_not defined, finite, Bool.not_false]
          simp [Double.isNaN_of_isInfinite (library.log_infinite x infinite positive).1]

/-- The logarithm of a positive double meets an infinite summand of the other sign only when both
are infinite. -/
theorem isNaN_log_add_iff
    (positive : isPositive x = true)
    (defined : isNaN x = false)
    {y : Float}
    (addend : isNaN y = false) :
    isNaN (library.log x + y) = true ↔
      isInfinite x = true ∧ isInfinite y = true ∧ isPositive y = false := by
  rw [Double.isNaN_add_iff, addend]
  cases infinite : isInfinite x with
  | true =>
      obtain ⟨logInfinite, logPositive⟩ := library.log_infinite x infinite positive
      simp [Double.isNaN_of_isInfinite logInfinite, logInfinite, logPositive]
  | false =>
      have finite : isFinite x = true := by
        rwa [Double.isInfinite_eq_not defined, Bool.not_eq_false'] at infinite
      have logFinite := library.log_finite x finite positive
      simp [Double.isNaN_of_isFinite logFinite, Double.isInfinite_of_isFinite logFinite]

end Functions

variable {library : MathLibrary} {terms : OptionTerms Float}

/-- The steps of a quote under the functions of a library. -/
theorem exists_quote_iff :
    (∃ prices, @OptionTerms.quote Float library.elementary terms = .ok prices) ↔
      ∃ moneyness, @log? Float library.elementary terms.ratio = .ok moneyness ∧
        ∃ d1, divide? (moneyness + terms.drift) terms.deviation = .ok d1 ∧
          (∃ discount, @exp? Float library.elementary terms.discountExponent = .ok discount) ∧
          isNaN d1 = false ∧ isNaN (d1 - terms.deviation) = false ∧
          isNaN (-(d1 - terms.deviation)) = false ∧ isNaN (-d1) = false :=
  @OptionTerms.exists_quote_iff Float library.elementary terms

/-- The first quantile is a number when no infinities meet on the way to it. -/
theorem isNaN_quantile_iff
    (admitted : ∀ input, terms.admits input = true)
    (ratio : isZero terms.ratio = false)
    (deviation : isZero terms.deviation = false) :
    isNaN ((library.log terms.ratio + terms.drift) / terms.deviation) = false ↔
      (isInfinite terms.ratio = true → isInfinite terms.drift = true →
          isPositive terms.drift = true) ∧
        (isInfinite (library.log terms.ratio + terms.drift) = true →
          isInfinite terms.deviation = false) := by
  have signed := OptionTerms.sign?_ratio admitted
  have sum := @isNaN_log_add_iff library _ (Double.isPositive_of_sign? signed ratio)
    (Double.isNaN_eq_false_iff.mpr ⟨.positive, signed⟩) _ (OptionTerms.isNaN_drift admitted)
  rw [← Bool.not_eq_true, Double.isNaN_div_iff deviation, sum, OptionTerms.isNaN_deviation admitted]
  simp [not_or]

/-- Admitted terms have a quote when it stays on the number line. -/
theorem exists_quote_iff_quotable (admitted : ∀ input, terms.admits input = true) :
    (∃ prices, @OptionTerms.quote Float library.elementary terms = .ok prices) ↔
      library.Quotable terms := by
  rw [exists_quote_iff]
  simp only [log?_eq_ok_iff (OptionTerms.sign?_ratio admitted), divide?_eq_ok_iff,
    exists_exp?_iff (OptionTerms.isNaN_discountExponent admitted), Double.isNaN_neg]
  constructor
  · rintro ⟨_, ⟨ratio, rfl⟩, _, ⟨deviation, rfl⟩, discount, defined, -⟩
    obtain ⟨sum, quantile⟩ := (isNaN_quantile_iff admitted ratio deviation).mp defined
    exact ⟨ratio, deviation, discount, sum, quantile⟩
  · intro quotable
    have defined := (isNaN_quantile_iff admitted quotable.ratio quotable.deviation).mpr
      ⟨quotable.sum, quotable.quantile⟩
    have second := Double.isNaN_div_sub_self quotable.deviation defined
    exact ⟨_, ⟨quotable.ratio, rfl⟩, _, ⟨quotable.deviation, rfl⟩, quotable.discount, defined,
      second, second, defined⟩

/-- Terms are priced unless an input is refused, and else as far as they have a quote. -/
theorem price_eq :
    library.price terms =
      match terms.offender? with
      | none => (@OptionTerms.quote Float library.elementary terms).mapError .arithmetic
      | some input => .error (terms.complaint input) :=
  @OptionTerms.price_eq Float library.elementary terms

/-- A failure to price is reported against an input when it is the first that cannot be used. All
other terms are priced exactly when their quote stays on the number line, and else the fault of the
step that leaves it is reported. -/
theorem priced_or_refused (library : MathLibrary) (terms : OptionTerms Float) :
    (∀ input, (∃ error, library.price terms = .error error ∧ error.Blames input) ↔
        terms.offender? = some input) ∧
      (terms.offender? = none →
        ((∃ prices, library.price terms = .ok prices) ↔ library.Quotable terms) ∧
          ∀ error, library.price terms = .error error → ∃ fault, error.report = .ofFault fault) := by
  constructor
  · intro input
    rw [price_eq]
    cases offends : terms.offender? with
    | none =>
        refine iff_of_false ?_ nofun
        rintro ⟨error, failed, blames⟩
        obtain ⟨fault, -, rfl⟩ := Outcome.mapError_eq_error_iff.mp failed
        exact OptionError.not_blames_arithmetic blames
    | some other =>
        simp [OptionTerms.blames_complaint_iff]
  · intro offends
    rw [price_eq, offends]
    constructor
    · simp only [Outcome.mapError_eq_ok_iff]
      exact exists_quote_iff_quotable (OptionTerms.offender?_eq_none_iff.mp offends)
    · intro error failed
      obtain ⟨fault, -, rfl⟩ := Outcome.mapError_eq_error_iff.mp failed
      exact ⟨fault, rfl⟩

/-- The values of both functions at zero and at the infinities, and of the logarithm at one, carried
on in steps. -/
def coarse : MathLibrary where
  exp x :=
    if isNaN x then x else if isNegative x then 0.0 else if isZero x then 1.0 else infinity
  log x := if isZero x then -infinity else if isFinite x then 0.0 else x
  exp_defined x defined := by
    rw [defined, if_neg Bool.false_ne_true]
    split
    · decide
    · split <;> decide
  log_zero x zero := by
    rw [if_pos zero]
    decide
  log_finite x finite positive := by
    obtain ⟨_, _, _, isParts⟩ := Double.exists_parts_of_positive finite positive
    have nonzero : ¬isZero x = true := by
      rw [Double.isZero_iff, isParts]
      exact nofun
    rw [if_neg nonzero, if_pos finite]
    decide
  log_infinite x infinite positive := by
    obtain ⟨sign, isParts⟩ := Double.isInfinite_iff.mp infinite
    have nonzero : ¬isZero x = true := by
      rw [Double.isZero_iff, isParts]
      exact nofun
    have boundless : ¬isFinite x = true := by
      rw [Double.isFinite_iff, isParts]
      exact Bool.false_ne_true
    rw [if_neg nonzero, if_neg boundless]
    exact ⟨infinite, positive⟩

/-- An option on a very volatile asset at the money has prices. -/
theorem priced_at_the_money :
    let terms : OptionTerms Float := ⟨1.0, 1.0, 1.0, 0.0, 1000.0⟩
    terms.offender? = none ∧ ∃ prices, coarse.price terms = .ok prices := by
  intro terms
  have admitted : terms.offender? = none := by decide +kernel
  have quotable : coarse.Quotable terms := by
    constructor <;> decide +kernel
  exact ⟨admitted, ((priced_or_refused coarse terms).2 admitted).1.mpr quotable⟩

/-- An option on an asset so steady that its deviation rounds to zero is admitted and fails. -/
theorem not_priced_when_steady :
    let terms : OptionTerms Float := ⟨1.0, 1.0, 1e-300, 0.05, 1e-200⟩
    terms.offender? = none ∧ ∃ fault, terms.price = .error (.arithmetic fault) := by
  intro terms
  have admitted : terms.offender? = none := by decide +kernel
  have steady : isZero terms.deviation = true := by decide +kernel
  refine ⟨admitted, ?_⟩
  have unquoted : ¬∃ prices, terms.quote = .ok prices := by
    rw [OptionTerms.exists_quote_iff]
    rintro ⟨_, -, _, divided, -⟩
    rw [divide?_eq_ok_iff, steady] at divided
    exact Bool.noConfusion divided.1
  rw [OptionTerms.price_eq, admitted]
  cases quoted : terms.quote with
  | error fault => exact ⟨fault, rfl⟩
  | ok prices => exact absurd ⟨prices, quoted⟩ unquoted

end MathLibrary
end Calculator
