import Calculator.Proofs.Analysis.Newton
import Calculator.Proofs.Finance.PresentValue
import Calculator.Proofs.Session.Run

/-!
# Rates of return

A net present value and its derivative have a value at every rate, and so the search for a
rate of return always ends. It finds one only for a series that changes its sign, and then a
finite one above minus one hundred percent.
-/

namespace Calculator
namespace Action

/-- A rate of return is that of the series, whatever the workspace. -/
theorem runIn_internalRate
    (search : RootSearch Float)
    (flows : List Float)
    (workspace : Workspace) :
    ((internalRate search flows).runIn workspace).1 =
      (CashFlow.internalRate search flows).mapError .arithmetic := by
  rw [internalRate, runIn_bind, runIn_ofExcept]
  cases CashFlow.internalRate search flows with
  | error fault => rfl
  | ok result => rfl

end Action

namespace CashFlow

open Scalar

variable {flows : List Float}

/-- What a search for a rate of return comes to within a number of rounds. On a series with
a change of sign it finds a finite rate above minus one hundred percent or misses it for
some other reason, and any other series is refused. -/
inductive Answers (flows : List Float) (limit : Int) : Iteration Float → Prop
  | found
      {rate : Float}
      {rounds : Int}
      (changes : changesSign flows = true)
      (finite : isFinite rate = true)
      (above : less (-1.0) rate = true)
      (begun : 1 ≤ rounds)
      (within : rounds ≤ limit) :
      Answers flows limit ⟨.real rate, rounds, true, none⟩
  | missed
      {estimate : Number Float}
      {rounds : Int}
      {reason : StopReason}
      (changes : changesSign flows = true)
      (other : reason ≠ .noSignChange) :
      Answers flows limit ⟨estimate, rounds, false, some reason⟩
  | refused
      (unchanged : changesSign flows = false) :
      Answers flows limit ⟨.real nan, 0, false, some .noSignChange⟩

/-- A finite rate that is not refused lies above minus one hundred percent. -/
theorem less_of_not_atMost
    {rate : Float}
    (finite : isFinite rate = true)
    (admissible : Number.atMost (.real rate) (.real (-1.0)) = false) :
    less (-1.0) rate = true := by
  rcases Number.atMost_eq_false_iff.mp admissible with above | undefined | undefined
  · exact above
  · rw [Number.isNaN, Double.isNaN_of_isFinite finite] at undefined
    cases undefined
  · exact absurd undefined (by decide)

/-- What is left of a settled search when rates that are too low are refused. -/
theorem answers_admitted
    (changes : changesSign flows = true)
    {limit : Int}
    {result : Iteration Float}
    (settled : RootSearch.Settled 0 limit.toNat result) :
    Answers flows limit (admitted result) := by
  cases settled with
  | converged finite after within =>
      rw [admitted]
      split
      · exact .missed changes nofun
      · rename_i admissible
        have above := less_of_not_atMost finite (by simpa using admissible)
        exact .found changes finite above (by omega) (by omega)
  | stopped own =>
      refine .missed changes fun same => ?_
      rw [same] at own
      exact absurd own (by decide)

/-- From a guess within range and with a floor that is not below zero, there is an answer. -/
theorem exists_answers
    {search : RootSearch Float}
    {guess : Float}
    (guessed : search.initialGuess.toScalar? = .ok guess)
    (floor : Number.atMost (.int 0) search.derivativeFloor = true)
    (flows : List Float) :
    ∃ result, internalRate search flows = .ok result ∧
      Answers flows search.maxIterations result := by
  rw [internalRate]
  split
  · rename_i changes
    obtain ⟨result, ran, settled⟩ := RootSearch.exists_newton id floor
      (fun rate => ⟨_, netPresentValue_eq flows rate⟩)
      (fun rate => ⟨_, netPresentSlope_eq flows rate⟩) guessed
    exact ⟨admitted result, Outcome.map_eq_ok_iff.mpr ⟨result, ran, rfl⟩,
      answers_admitted changes settled⟩
  · rename_i unchanged
    exact ⟨_, rfl, .refused (by simpa using unchanged)⟩

/-- From a finite guess and with a floor for derivatives that is not below zero, a search for
a rate of return has an outcome. It converges or has a reason not to. It converges only on
a series with flows of both signs, within the rounds allowed, on a finite rate above minus
one hundred percent. Only a series without flows of both signs is refused for that, and
before the first round. The rate can be required, and is shown in percent, just when the
search converged. -/
theorem rate_or_reason
    (search : RootSearch Float)
    (guess : search.initialGuess.isFinite? = .ok true)
    (floor : Number.atMost (.int 0) search.derivativeFloor = true)
    (flows : List Float)
    (workspace : Workspace) :
    ∃ result, ((Action.internalRate search flows).runIn workspace).1 = .ok result ∧
      (result.converged = true ↔ result.reason = none) ∧
      (result.converged = true →
        (∃ flow ∈ flows, isPositive flow = true) ∧ (∃ flow ∈ flows, isNegative flow = true) ∧
          (∃ rate, result.value = .real rate ∧ isFinite rate = true ∧
            less (-1.0) rate = true) ∧
          1 ≤ result.iterations ∧ result.iterations ≤ search.maxIterations) ∧
      (result.reason = some .noSignChange ↔
        (∀ flow ∈ flows, isPositive flow = false) ∨ ∀ flow ∈ flows, isNegative flow = false) ∧
      (result.reason = some .noSignChange → result.iterations = 0) ∧
      ((∃ rate, result.require = .ok rate) ↔ result.converged = true) ∧
      ((∃ percent, result.percentage = some percent) ↔ result.converged = true) ∧
      ∀ rate, result.require = .ok rate → isFinite rate = true ∧ result.value = .real rate := by
  obtain ⟨estimate, guessed, -⟩ := Number.exists_toScalar?_of_isFinite? guess
  obtain ⟨result, ran, answers⟩ := exists_answers guessed floor flows
  refine ⟨result, by rw [Action.runIn_internalRate, ran]; rfl, ?_⟩
  rw [← changesSign_eq_false_iff]
  cases answers with
  | found changes finite above begun within =>
      obtain ⟨positive, negative⟩ := changesSign_iff.mp changes
      have usable (rounds : Int) :
          (⟨.real _, rounds, true, none⟩ : Iteration Float).isUsable = true :=
        finite
      refine ⟨by simp, fun _ => ⟨positive, negative, ⟨_, rfl, finite, above⟩, begun, within⟩,
        by simp [changes], nofun, ?_, ?_, ?_⟩
      · simp [Iteration.require, usable]
      · simp [Iteration.percentage]
      · rintro rate required
        rw [Iteration.require, if_pos (usable _)] at required
        cases required
        exact ⟨finite, rfl⟩
  | missed changes other =>
      simp [changes, other, Iteration.require, Iteration.isUsable, Iteration.percentage]
  | refused unchanged =>
      simp [unchanged, Iteration.require, Iteration.isUsable, Iteration.percentage]

/-- An outlay with two returns is searched from an integer guess and without a floor. -/
theorem rate_or_reason_of_outlay :
    let search : RootSearch Float := ⟨.int 0, .real 1e-10, 50, .real 0.0⟩
    search.initialGuess.isFinite? = .ok true ∧
      Number.atMost (.int 0) search.derivativeFloor = true ∧
      ∃ result,
        ((Action.internalRate search [-100.0, 60.0, 60.0]).runIn (.empty 256)).1 = .ok result ∧
          (result.converged = true → result.iterations ≤ 50) ∧
          result.reason ≠ some .noSignChange := by
  have guess : (Number.int 0 : Number Float).isFinite? = .ok true := by rfl
  have floor : Number.atMost (.int 0) (.real (0.0 : Float)) = true := by
    decide +kernel
  obtain ⟨result, ran, -, found, refused, -⟩ :=
    rate_or_reason ⟨.int 0, .real 1e-10, 50, .real 0.0⟩ guess floor [-100.0, 60.0, 60.0]
      (.empty 256)
  refine ⟨guess, floor, result, ran, fun converged => (found converged).2.2.2.2, ?_⟩
  rw [Ne, refused]
  decide

end CashFlow
end Calculator
