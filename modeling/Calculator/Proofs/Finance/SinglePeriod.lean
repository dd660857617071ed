import Calculator.Proofs.Analysis.ExactSearch
import Calculator.Proofs.Finance.Discount
import Mathlib.Algebra.Order.Archimedean.Basic
import Mathlib.Tactic.FieldSimp
import Mathlib.Tactic.Linarith
import Mathlib.Tactic.Ring

/-!
# An outlay and its payback

A series of an outlay and one payback is searched in closed form. Take the share of the payback
that is left when the outlay has grown by an estimate: every round squares it. So a search
converges from each guess at which that share is below one in magnitude, and all of its estimates
are above minus one hundred percent.
-/

namespace Calculator
namespace CashFlow

open Scalar Lifted RootSearch

section Gap

variable {K : Type} [Field K]

/-- The share of the payback that is left when the outlay has grown by a rate. -/
def gap (outlay payback rate : K) : K :=
  1 - (1 + rate) * outlay / payback

/-- The rate that leaves a share. -/
def rateOfGap (outlay payback share : K) : K :=
  (1 - share) * payback / outlay - 1

theorem discountedSum_pair (outlay payback factor : K) :
    discountedSum [-outlay, payback] factor = -outlay + payback / factor := by
  simp [discountedSum, discountedFlow, Fin.sum_univ_succ, div_eq_mul_inv]

theorem discountedSlope_pair (outlay payback factor : K) :
    discountedSlope [-outlay, payback] factor = -payback / factor ^ 2 := by
  simp [discountedSlope, discountedFlowSlope, Fin.sum_univ_succ, div_eq_mul_inv]

variable {outlay payback : K} (outlay_ne_zero : outlay ≠ 0) (payback_ne_zero : payback ≠ 0)

include outlay_ne_zero payback_ne_zero

theorem gap_rateOfGap (share : K) :
    gap outlay payback (rateOfGap outlay payback share) = share := by
  rw [gap, rateOfGap]
  field_simp
  ring

theorem rateOfGap_gap (rate : K) :
    rateOfGap outlay payback (gap outlay payback rate) = rate := by
  rw [gap, rateOfGap]
  field_simp
  ring

/-- A Newton step squares the share that is left. -/
theorem newtonStep_rateOfGap {share : K} (short : share ≠ 1) :
    rateOfGap outlay payback share -
        discountedSum [-outlay, payback] (1 + rateOfGap outlay payback share) /
          discountedSlope [-outlay, payback] (1 + rateOfGap outlay payback share) =
      rateOfGap outlay payback (share ^ 2) := by
  have left : 1 - share ≠ 0 := sub_ne_zero.mpr short.symm
  have grown : 1 + rateOfGap outlay payback share = (1 - share) * payback / outlay := by
    rw [rateOfGap, add_sub_cancel]
  rw [grown, discountedSum_pair, discountedSlope_pair, rateOfGap, rateOfGap]
  field_simp
  ring

end Gap

section Search

variable {K : Type} [Field K] [LinearOrder K]

/-- The amounts of a series of one period, and a guess that is searched from: the share of the
payback that it leaves is below one in magnitude. -/
structure SinglePeriod (K : Type) [Field K] [LinearOrder K] where
  outlay : K
  payback : K
  guess : K
  outlay_pos : 0 < outlay
  payback_pos : 0 < payback
  lower : 0 < (1 + guess) * outlay
  upper : (1 + guess) * outlay < 2 * payback

namespace SinglePeriod

variable (period : SinglePeriod K)

/-- The series itself. -/
def flows : List (Option K) :=
  [-period.outlay, period.payback].map some

/-- The share that the guess leaves. -/
def share : K :=
  gap period.outlay period.payback period.guess

/-- The estimate after some rounds. -/
def rate (rounds : ℕ) : K :=
  rateOfGap period.outlay period.payback (period.share ^ 2 ^ rounds)

theorem gap_rate (rounds : ℕ) :
    gap period.outlay period.payback (period.rate rounds) = period.share ^ 2 ^ rounds :=
  gap_rateOfGap period.outlay_pos.ne' period.payback_pos.ne' _

variable [IsStrictOrderedRing K]

theorem abs_share_lt_one : |period.share| < 1 := by
  have bound : (1 + period.guess) * period.outlay / period.payback < 2 := by
    rw [div_lt_iff₀ period.payback_pos]
    exact period.upper
  have positive : 0 < (1 + period.guess) * period.outlay / period.payback :=
    div_pos period.lower period.payback_pos
  rw [abs_lt, share, gap]
  constructor <;> linarith

theorem abs_share_pow_lt_one (rounds : ℕ) : |period.share ^ 2 ^ rounds| < 1 := by
  rw [abs_pow]
  exact pow_lt_one₀ (abs_nonneg _) period.abs_share_lt_one (by positivity)

theorem share_pow_lt_one (rounds : ℕ) : period.share ^ 2 ^ rounds < 1 :=
  (le_abs_self _).trans_lt (period.abs_share_pow_lt_one rounds)

/-- No estimate reaches minus one hundred percent. -/
theorem one_add_rate_pos (rounds : ℕ) : 0 < 1 + period.rate rounds := by
  have left : 0 < 1 - period.share ^ 2 ^ rounds := sub_pos.mpr (period.share_pow_lt_one rounds)
  rw [rate, rateOfGap, add_sub_cancel]
  exact div_pos (mul_pos left period.payback_pos) period.outlay_pos

theorem rate_succ (rounds : ℕ) :
    period.rate (rounds + 1) =
      period.rate rounds -
        discountedSum [-period.outlay, period.payback] (1 + period.rate rounds) /
          discountedSlope [-period.outlay, period.payback] (1 + period.rate rounds) := by
  rw [rate, rate, newtonStep_rateOfGap period.outlay_pos.ne' period.payback_pos.ne'
    (period.share_pow_lt_one rounds).ne, ← pow_mul, pow_succ]

theorem slope_ne_zero (rounds : ℕ) :
    discountedSlope [-period.outlay, period.payback] (1 + period.rate rounds) ≠ 0 := by
  rw [discountedSlope_pair]
  exact div_ne_zero (neg_ne_zero.mpr period.payback_pos.ne')
    (pow_ne_zero 2 (period.one_add_rate_pos rounds).ne')

/-- A step is at most twice the share that is left, in units of the payback. -/
theorem abs_step_le (rounds : ℕ) :
    |period.rate (rounds + 1) - period.rate rounds| ≤
      |period.share| ^ rounds * 2 * (period.payback / period.outlay) := by
  have step : period.rate (rounds + 1) - period.rate rounds =
      period.share ^ 2 ^ rounds * (1 - period.share ^ 2 ^ rounds) *
        (period.payback / period.outlay) := by
    rw [rate, rate, pow_succ, pow_mul, rateOfGap, rateOfGap]
    ring
  have small : |period.share ^ 2 ^ rounds| ≤ |period.share| ^ rounds := by
    rw [abs_pow]
    exact pow_le_pow_of_le_one (abs_nonneg _) period.abs_share_lt_one.le Nat.lt_two_pow_self.le
  have bounded : |1 - period.share ^ 2 ^ rounds| ≤ 2 := by
    have within := abs_lt.mp (period.abs_share_pow_lt_one rounds)
    rw [abs_le]
    constructor <;> linarith
  have unit : 0 < period.payback / period.outlay := div_pos period.payback_pos period.outlay_pos
  rw [step, abs_mul, abs_mul, abs_of_pos unit]
  gcongr

/-- So the steps become shorter than any positive number. -/
theorem exists_short_step [Archimedean K] {tolerance : K} (positive : 0 < tolerance) :
    ∃ rounds, |period.rate (rounds + 1) - period.rate rounds| < tolerance := by
  have unit : 0 < period.payback / period.outlay := div_pos period.payback_pos period.outlay_pos
  have target : 0 < tolerance / (2 * (period.payback / period.outlay)) := by positivity
  obtain ⟨rounds, small⟩ := exists_pow_lt_of_lt_one target period.abs_share_lt_one
  refine ⟨rounds, (period.abs_step_le rounds).trans_lt ?_⟩
  rw [mul_assoc]
  exact (lt_div_iff₀ (by positivity)).mp small

/-! ## The search -/

variable [Functions K]

theorem changesSign_flows : changesSign period.flows = true := by
  simp [changesSign, flows, period.outlay_pos, period.payback_pos]

theorem presentValue_rate (rounds : ℕ) :
    presentValue period.flows (some (period.rate rounds)) =
      some (discountedSum [-period.outlay, period.payback] (1 + period.rate rounds)) :=
  presentValue_eq (period.one_add_rate_pos rounds).ne' _

theorem presentSlope_rate (rounds : ℕ) :
    presentSlope period.flows (some (period.rate rounds)) =
      some (discountedSlope [-period.outlay, period.payback] (1 + period.rate rounds)) :=
  presentSlope_eq (period.one_add_rate_pos rounds).ne' _

/-- The estimate after a round follows from the one before. -/
theorem nextEstimate_rate (rounds : ℕ) :
    nextEstimate (presentValue period.flows) (presentSlope period.flows)
        (some (period.rate rounds)) = some (period.rate (rounds + 1)) := by
  rw [nextEstimate, presentValue_rate, presentSlope_rate,
    some_div_some _ (period.slope_ne_zero rounds), some_sub_some, rate_succ]

section Run

variable
  {search : RootSearch (Option K)}
  (started : search.initialGuess.toScalar = some period.guess)

include started

theorem reached_eq (rounds : ℕ) :
    search.reached (presentValue period.flows) (presentSlope period.flows) rounds =
      some (period.rate rounds) := by
  induction rounds with
  | zero =>
      have first : period.rate 0 = period.guess := by
        rw [rate, share, pow_zero, pow_one,
          rateOfGap_gap period.outlay_pos.ne' period.payback_pos.ne']
      rw [first]
      exact started
  | succ rounds roundsHypothesis =>
      rw [← nextEstimate_rate, ← roundsHypothesis]
      rfl

theorem isFinite_estimate (rounds : ℕ) :
    isFinite
      (search.reached (presentValue period.flows) (presentSlope period.flows) rounds) = true := by
  rw [period.reached_eq started]
  rfl

/-- A step is short when it stays below the tolerance. -/
theorem near_iff
    {tolerance : K}
    (tolerated : search.tolerance.toScalar = some tolerance)
    (rounds : ℕ) :
    Number.less
        (.real (Scalar.abs
          (search.reached (presentValue period.flows) (presentSlope period.flows) (rounds + 1) -
            search.reached (presentValue period.flows) (presentSlope period.flows) rounds)))
        search.tolerance = true ↔
      |period.rate (rounds + 1) - period.rate rounds| < tolerance := by
  rw [period.reached_eq started, period.reached_eq started, some_sub_some, abs_some, less_iff]
  simp [tolerated]

/-- Whatever a search comes to, it hands out the estimate after the rounds that it counts. -/
theorem value_of_internalRate
    (floor : Number.atMost (.int 0) search.derivativeFloor = true)
    {result : Iteration (Option K)}
    (ran : internalRate search period.flows = .ok result) :
    result.value.toScalar = some (period.rate result.iterations.toNat) := by
  rw [internalRate_eq, if_pos period.changesSign_flows] at ran
  obtain ⟨found, searched, rfl⟩ := Outcome.map_eq_ok_iff.mp ran
  have same : (admitted found).value = found.value ∧
      (admitted found).iterations = found.iterations := by
    rw [admitted]
    split
    · exact ⟨rfl, rfl⟩
    · exact ⟨rfl, rfl⟩
  have ends := (newton_eq_ok_iff_ends id (hasFloor floor) (toScalar?_eq _) found).mp searched
  rw [same.1, same.2]
  cases ends with
  | converged before within step nextFinite near => exact period.reached_eq started _
  | nonFiniteValue before within notFinite => exact period.reached_eq started _
  | zeroDerivative before within valueFinite slopeFinite flat => exact period.reached_eq started _
  | nonFiniteStep before within step notFinite =>
      rw [period.reached_eq started] at notFinite
      cases notFinite
  | iterationLimit before => exact period.reached_eq started _

variable (floor : search.derivativeFloor.toScalar = some 0)

include floor

theorem hasStep (rounds : ℕ) :
    HasStep search (presentValue period.flows) (presentSlope period.flows) rounds := by
  constructor
  · rw [period.reached_eq started, presentValue_rate]
    rfl
  · rw [period.reached_eq started, presentSlope_rate]
    rfl
  · rw [period.reached_eq started, presentSlope_rate, less_iff]
    exact ⟨0, _, floor, rfl, abs_pos.mpr (period.slope_ne_zero rounds)⟩

theorem goesOn
    {tolerance : K}
    (tolerated : search.tolerance.toScalar = some tolerance)
    {rounds : ℕ}
    (long : ¬|period.rate (rounds + 1) - period.rate rounds| < tolerance) :
    GoesOn search (presentValue period.flows) (presentSlope period.flows) rounds where
  toHasStep := period.hasStep started floor rounds
  nextFinite := period.isFinite_estimate started (rounds + 1)
  far := by
    rw [Bool.eq_false_iff, Ne, period.near_iff started tolerated]
    exact long

/-- A search finds a rate at the first short step. -/
theorem internalRate_of_first_short
    {tolerance : K}
    (tolerated : search.tolerance.toScalar = some tolerance)
    {rounds : ℕ}
    (short : |period.rate (rounds + 1) - period.rate rounds| < tolerance)
    (before : ∀ earlier < rounds,
      ¬|period.rate (earlier + 1) - period.rate earlier| < tolerance)
    (within : rounds < search.maxIterations) :
    internalRate search period.flows =
      .ok ⟨.real (some (period.rate (rounds + 1))), rounds + 1, true, none⟩ := by
  have ends := Ends.converged
    (fun earlier less => period.goesOn started floor tolerated (before earlier less)) within
    (period.hasStep started floor rounds) (period.isFinite_estimate started (rounds + 1))
    ((period.near_iff started tolerated rounds).mpr short)
  have found := newton_of_ends id (hasFloor (notBelow_of_floor_zero floor)) (toScalar?_eq _) ends
  have last : search.estimate (presentValue period.flows) (presentSlope period.flows)
      (rounds + 1) = .real (some (period.rate (rounds + 1))) := by
    rw [← period.reached_eq started]
    rfl
  have above : Number.atMost (.real (some (period.rate (rounds + 1)))) (.real (-1.0)) = false := by
    have positive := period.one_add_rate_pos (rounds + 1)
    rw [Bool.eq_false_iff, Ne, atMost_iff, one_eq, neg_some]
    rintro ⟨rate, bound, isRate, isBound, ordered⟩
    cases isRate
    cases isBound
    linarith
  rw [internalRate_eq, if_pos period.changesSign_flows, found, last]
  simp [Except.map, admitted, above]

end Run

end SinglePeriod

/-- Take an outlay with one payback, and a guess that lets the outlay grow to more than nothing and
less than twice the payback. In exact arithmetic every round squares the share of the payback that
an estimate leaves, and all estimates are above minus one hundred percent. With a floor that is not
below zero a search hands out the estimate after the rounds that it counts. Without a floor it
converges when enough rounds are allowed, however small the tolerance. -/
theorem internalRate_of_outlay_and_payback
    [IsStrictOrderedRing K]
    [Archimedean K]
    [Functions K]
    {outlay payback guess : K}
    (outlay_pos : 0 < outlay)
    (payback_pos : 0 < payback)
    (lower : 0 < (1 + guess) * outlay)
    (upper : (1 + guess) * outlay < 2 * payback) :
    let flows : List (Option K) := [-outlay, payback].map some
    (∀ search : RootSearch (Option K), search.initialGuess.toScalar = some guess →
      ∀ rounds : ℕ, ∃ rate : K,
        search.reached (presentValue flows) (presentSlope flows) rounds = some rate ∧
          -1 < rate ∧
          1 - (1 + rate) * outlay / payback =
            (1 - (1 + guess) * outlay / payback) ^ 2 ^ rounds) ∧
      (∀ search : RootSearch (Option K), search.initialGuess.toScalar = some guess →
        Number.atMost (.int 0) search.derivativeFloor = true →
        ∀ result, internalRate search flows = .ok result →
          result.value.toScalar =
            search.reached (presentValue flows) (presentSlope flows) result.iterations.toNat) ∧
      ∀ tolerance : K, 0 < tolerance →
        ∃ enough : ℕ, ∀ search : RootSearch (Option K),
          search.initialGuess.toScalar = some guess →
          search.tolerance.toScalar = some tolerance →
          search.derivativeFloor.toScalar = some 0 →
          enough ≤ search.maxIterations →
          ∃ (rate : K) (rounds : ℕ),
            internalRate search flows = .ok ⟨.real (some rate), rounds, true, none⟩ ∧
              -1 < rate := by
  intro flows
  let period : SinglePeriod K := ⟨outlay, payback, guess, outlay_pos, payback_pos, lower, upper⟩
  have above (rounds : ℕ) : -1 < period.rate rounds :=
    neg_lt_iff_pos_add'.mpr (period.one_add_rate_pos rounds)
  refine ⟨?_, ?_, ?_⟩
  · intro search started rounds
    exact ⟨period.rate rounds, period.reached_eq started rounds,
      above rounds, period.gap_rate rounds⟩
  · intro search started floor result ran
    have reached := period.reached_eq started result.iterations.toNat
    exact (period.value_of_internalRate started floor ran).trans reached.symm
  · intro tolerance positive
    classical
    have short := period.exists_short_step positive
    refine ⟨Nat.find short + 1, ?_⟩
    intro search started tolerated floor within
    refine ⟨period.rate (Nat.find short + 1), Nat.find short + 1, ?_, above _⟩
    exact period.internalRate_of_first_short started floor tolerated
      (Nat.find_spec short) (fun earlier less => Nat.find_min short less) (by omega)

/-- One hundred that come back as a hundred and ten are searched from fifty percent: the first
round takes the share that is left from minus four elevenths to sixteen parts in a hundred and
twenty-one. -/
theorem internalRate_of_outlay_and_payback_at_half :
    let flows : List (Option ℚ) := [-100, 110].map some
    let search (limit : ℕ) : RootSearch (Option ℚ) :=
      ⟨.real (some (1 / 2)), .real (some (1 / 1000)), limit, .int 0⟩
    (0 : ℚ) < 100 ∧ (0 : ℚ) < 110 ∧ (0 : ℚ) < (1 + 1 / 2) * 100 ∧
      (1 + 1 / 2 : ℚ) * 100 < 2 * 110 ∧
      (∃ rate : ℚ,
        (search 50).reached (presentValue flows) (presentSlope flows) 1 = some rate ∧
          1 - (1 + rate) * 100 / 110 = 16 / 121) ∧
      ∃ enough : ℕ, ∀ limit, enough ≤ limit →
        ∃ (rate : ℚ) (rounds : ℕ),
          internalRate (search limit) flows = .ok ⟨.real (some rate), rounds, true, none⟩ ∧
            -1 < rate := by
  intro flows search
  have outlay : (0 : ℚ) < 100 := by norm_num
  have payback : (0 : ℚ) < 110 := by norm_num
  have lower : (0 : ℚ) < (1 + 1 / 2) * 100 := by norm_num
  have upper : (1 + 1 / 2 : ℚ) * 100 < 2 * 110 := by norm_num
  obtain ⟨squares, -, converges⟩ :=
    internalRate_of_outlay_and_payback outlay payback lower upper
  refine ⟨outlay, payback, lower, upper, ?_, ?_⟩
  · obtain ⟨rate, reached, -, left⟩ := squares (search 50) rfl 1
    exact ⟨rate, reached, by rw [left]; norm_num⟩
  · obtain ⟨enough, found⟩ := converges (1 / 1000) (by norm_num)
    refine ⟨enough, fun limit within => found (search limit) rfl rfl (by simp [search]) ?_⟩
    exact Int.ofNat_le.mpr within

end Search
end CashFlow
end Calculator
