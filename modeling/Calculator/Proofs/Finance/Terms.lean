import Calculator.Finance.Option
import Calculator.Outcome

/-!
# The terms of an option

Terms are refused for the first input, in the order of the checks, that is not what it has to
be. What the other inputs are does not matter then.
-/

namespace Calculator

/-- The inputs of an option price in the order of their checks. -/
def OptionInput.checks : List OptionInput :=
  [.spot, .strike, .years, .volatility, .rate]

theorem OptionInput.mem_checks (input : OptionInput) : input ∈ checks := by
  cases input <;> decide

/-- The names of inputs tell them apart. -/
theorem OptionInput.label_injective : Function.Injective label := by
  intro input other same
  cases input <;> cases other <;> simp_all [label]

namespace OptionTerms

open Scalar

variable {α : Type}

/-- What is given for an input. -/
def value (terms : OptionTerms α) : OptionInput → α
  | .spot => terms.spot
  | .strike => terms.strike
  | .years => terms.years
  | .volatility => terms.volatility
  | .rate => terms.rate

/-- What is said of terms with an input that cannot be used. -/
def complaint (terms : OptionTerms α) : OptionInput → OptionError α
  | .rate => .rateNotFinite terms.rate
  | input => .notPositive input (terms.value input)

variable [Elementary α]

/-- Whether an input is what it has to be: a finite number, and a positive one unless it is
the rate. -/
def admits (terms : OptionTerms α) (input : OptionInput) : Bool :=
  isFinite (terms.value input) && (input == .rate || isPositive (terms.value input))

/-- The first input that cannot be used. -/
def offender? (terms : OptionTerms α) : Option OptionInput :=
  OptionInput.checks.find? fun input => !terms.admits input

/-- The check of one input. -/
def check (terms : OptionTerms α) (input : OptionInput) : Except (OptionError α) Unit :=
  if terms.admits input then .ok () else .error (terms.complaint input)

/-- The inputs are checked one after another. -/
theorem validate_eq_forM (terms : OptionTerms α) :
    terms.validate = forM OptionInput.checks terms.check := by
  have rate : terms.check .rate =
      if isFinite terms.rate then .ok () else .error (.rateNotFinite terms.rate) := by
    simp [check, admits, value, complaint]
  simp only [OptionInput.checks, List.forM_cons, List.forM_nil, bind_pure_unit, rate]
  rfl

/-- Checks in a row fail at the first input that is not admitted. -/
theorem forM_check_eq (terms : OptionTerms α) (inputs : List OptionInput) :
    forM inputs terms.check =
      match inputs.find? fun input => !terms.admits input with
      | none => .ok ()
      | some input => .error (terms.complaint input) := by
  induction inputs with
  | nil => rfl
  | cons input rest restHypothesis =>
      rw [List.forM_cons, check, List.find?_cons]
      cases terms.admits input with
      | true => exact restHypothesis
      | false => rfl

/-- Terms are refused for their first offender. -/
theorem validate_eq (terms : OptionTerms α) :
    terms.validate =
      match terms.offender? with
      | none => .ok ()
      | some input => .error (terms.complaint input) := by
  rw [validate_eq_forM, forM_check_eq]
  rfl

theorem price_eq (terms : OptionTerms α) :
    terms.price =
      match terms.offender? with
      | none => terms.quote.mapError .arithmetic
      | some input => .error (terms.complaint input) := by
  rw [price, validate_eq]
  cases terms.offender? with
  | none => rfl
  | some input => rfl

theorem offender?_eq_none_iff {terms : OptionTerms α} :
    terms.offender? = none ↔ ∀ input, terms.admits input = true := by
  simp [offender?, List.find?_eq_none, OptionInput.mem_checks]

end OptionTerms
end Calculator
