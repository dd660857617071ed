import Calculator.Proofs.Analysis.NormalLaw
import Calculator.Proofs.Finance.Terms

/-!
# Put-call parity

In exact arithmetic the terms of an option have prices exactly when all but the rate are positive.
A call and a put on the same terms differ by the price of the asset less the discounted strike,
because the probabilities of opposite bounds add up to one whether or not they are clamped. So the
exponential function and the logarithm may be any functions.
-/

namespace Calculator
namespace OptionTerms

section Definitions

open Exact.Functions

variable {K : Type} [Field K]

/-- Terms that are positive but for the rate. -/
structure ArePositive [LinearOrder K] (terms : OptionTerms K) : Prop where
  spot : 0 < terms.spot
  strike : 0 < terms.strike
  years : 0 < terms.years
  volatility : 0 < terms.volatility

variable [Exact.Functions K]

/-- A call and a put differ by the price of the asset less the discounted strike, and their
quantiles by the volatility over the time until the trade. -/
structure Balances (terms : OptionTerms K) (prices : OptionPrices K) : Prop where
  call_sub_put :
    prices.call - prices.put = terms.spot - terms.strike * exp (-terms.rate * terms.years)
  d1_sub_d2 : prices.d1 - prices.d2 = terms.volatility * sqrt terms.years

/-- The first quantile of terms. -/
def firstQuantile (terms : OptionTerms K) : K :=
  (log (terms.spot / terms.strike) +
      (terms.rate + 0.5 * terms.volatility * terms.volatility) * terms.years) /
    (terms.volatility * sqrt terms.years)

/-- The prices of a call and a put from a first quantile and the shares below each number. -/
def pricesAt (terms : OptionTerms K) (below : K → K) (d1 : K) : OptionPrices K :=
  let d2 := d1 - terms.volatility * sqrt terms.years
  let discounted := terms.strike * exp (-terms.rate * terms.years)
  ⟨terms.spot * below d1 - discounted * below d2,
    discounted * below (-d2) - terms.spot * below (-d1), d1, d2⟩

/-- Opposite shares leave only the asset and the discounted strike of the difference. -/
theorem balances_pricesAt
    (terms : OptionTerms K)
    {below : K → K}
    (opposite : ∀ x, below (-x) = 1 - below x)
    (d1 : K) :
    terms.Balances (terms.pricesAt below d1) := by
  constructor
  · simp only [pricesAt, opposite]
    ring
  · simp only [pricesAt]
    ring

end Definitions

section Prices

open Scalar Exact

variable {K : Type} [Field K] [LinearOrder K] [IsStrictOrderedRing K] [Functions K]

theorem offender?_eq_none_iff_arePositive {terms : OptionTerms K} :
    terms.offender? = none ↔ terms.ArePositive := by
  rw [offender?_eq_none_iff]
  constructor
  · intro admitted
    have positive (input : OptionInput) (apart : input ≠ .rate) : 0 < terms.value input := by
      simpa [admits, apart] using admitted input
    exact ⟨positive .spot (by decide), positive .strike (by decide), positive .years (by decide),
      positive .volatility (by decide)⟩
  · rintro ⟨spot, strike, years, volatility⟩ input
    cases input <;> simp [admits, value, spot, strike, years, volatility]

/-- Positive terms have prices. -/
theorem price_of_arePositive
    (root_pos : ∀ x : K, 0 < x → 0 < Functions.sqrt x)
    {terms : OptionTerms K}
    (positive : terms.ArePositive) :
    terms.price =
      .ok (terms.pricesAt (Normal.clampedShare Functions.exp (Functions.sqrt 2))
        terms.firstQuantile) := by
  have apart : terms.volatility * Functions.sqrt terms.years ≠ 0 :=
    (mul_pos positive.volatility (root_pos _ positive.years)).ne'
  have nonzero : isZero (terms.volatility * Elementary.sqrt terms.years) = false :=
    Bool.eq_false_iff.mpr (isZero_iff.not.mpr apart)
  rw [price_eq, offender?_eq_none_iff_arePositive.mpr positive]
  refine Outcome.mapError_eq_ok_iff.mpr ?_
  simp only [quote, log?_eq, exp?_eq, Normal.probability_eq, Outcome.ok_bind, divide?, nonzero,
    Bool.false_eq_true, if_false]
  rfl

/-- Where the root of a positive number is positive, terms have prices exactly when they are
positive but for the rate, and the prices balance. -/
theorem price_balances
    (root_pos : ∀ x : K, 0 < x → 0 < Functions.sqrt x)
    (terms : OptionTerms K) :
    ((∃ prices, terms.price = .ok prices) ↔ terms.ArePositive) ∧
      ∀ prices, terms.price = .ok prices → terms.Balances prices := by
  have accepted {prices : OptionPrices K} (priced : terms.price = .ok prices) :
      terms.ArePositive := by
    rw [← offender?_eq_none_iff_arePositive]
    rw [price_eq] at priced
    cases offends : terms.offender? with
    | none => rfl
    | some input =>
        rw [offends] at priced
        cases priced
  constructor
  · constructor
    · rintro ⟨prices, priced⟩
      exact accepted priced
    · intro positive
      exact ⟨_, price_of_arePositive root_pos positive⟩
  · intro prices priced
    rw [price_of_arePositive root_pos (accepted priced)] at priced
    cases priced
    exact balances_pricesAt terms (Normal.clampedShare_neg Functions.exp _) terms.firstQuantile

/-- An option at the money balances under the real functions. -/
theorem price_balances_at_the_money :
    let terms : OptionTerms ℝ := ⟨100, 100, 1, 20⁻¹, 5⁻¹⟩
    (∀ x : ℝ, 0 < x → 0 < Real.sqrt x) ∧
      ∃ prices, terms.price = .ok prices ∧ terms.Balances prices := by
  intro terms
  have root_pos (x : ℝ) (positive : 0 < x) : 0 < Real.sqrt x := Real.sqrt_pos.mpr positive
  have positive : terms.ArePositive := by
    constructor <;> norm_num [terms]
  obtain ⟨priced, balances⟩ := price_balances root_pos terms
  obtain ⟨prices, found⟩ := priced.mpr positive
  exact ⟨root_pos, prices, found, balances prices found⟩

end Prices

end OptionTerms
end Calculator
