import Calculator.Proofs.Analysis.Newton
import Mathlib.Data.Nat.Find

/-!
# The estimates of a search

A search follows the sequence of estimates that its function and derivative give from the
guess on, and it ends at the first estimate that one of its tests stops. Which test that is
decides on the reason, on the number of rounds and on the estimate that is handed out.
-/

namespace Calculator
namespace RootSearch

open Scalar

variable {α ε : Type} [Scalar α]

/-- A function that has a value everywhere. -/
abbrev total (f : α → α) : α → Except ε α :=
  fun x => .ok (f x)

/-- The estimate behind another one: its value over its slope is taken off. -/
def nextEstimate (f derivative : α → α) (x : α) : α :=
  x - f x / derivative x

section Estimates

variable (search : RootSearch α) (f derivative : α → α)

/-- The estimates from the guess on, by the number of rounds. -/
def estimate : (rounds : Nat) → Number α
  | 0 => search.initialGuess
  | rounds + 1 => .real (nextEstimate f derivative (estimate rounds).toScalar)

/-- The scalar of an estimate. -/
def reached (rounds : Nat) : α :=
  (search.estimate f derivative rounds).toScalar

/-- An estimate has a step to the next one: its value and its slope are finite and the slope
is above the floor. -/
structure HasStep (rounds : Nat) : Prop where
  valueFinite : isFinite (f (search.reached f derivative rounds)) = true
  slopeFinite : isFinite (derivative (search.reached f derivative rounds)) = true
  steep :
    Number.less search.derivativeFloor
      (.real (abs (derivative (search.reached f derivative rounds)))) = true

/-- A search goes on behind an estimate: there is a step, which leads to a finite estimate
and is not below the tolerance. -/
structure GoesOn (rounds : Nat) : Prop extends HasStep search f derivative rounds where
  nextFinite : isFinite (search.reached f derivative (rounds + 1)) = true
  far :
    Number.less
      (.real (abs (search.reached f derivative (rounds + 1) - search.reached f derivative rounds)))
      search.tolerance = false

/-- How a search ends: at the first estimate behind which it does not go on, for the test
that stops it there, or at the limit on rounds. -/
inductive Ends : Iteration α → Prop
  | converged
      {rounds : Nat}
      (before : ∀ earlier < rounds, GoesOn search f derivative earlier)
      (within : rounds < search.maxIterations)
      (step : HasStep search f derivative rounds)
      (nextFinite : isFinite (search.reached f derivative (rounds + 1)) = true)
      (near :
        Number.less
          (.real
            (abs (search.reached f derivative (rounds + 1) - search.reached f derivative rounds)))
          search.tolerance = true) :
      Ends ⟨search.estimate f derivative (rounds + 1), rounds + 1, true, none⟩
  | nonFiniteValue
      {rounds : Nat}
      (before : ∀ earlier < rounds, GoesOn search f derivative earlier)
      (within : rounds < search.maxIterations)
      (notFinite :
        isFinite (f (search.reached f derivative rounds)) = false ∨
          isFinite (derivative (search.reached f derivative rounds)) = false) :
      Ends ⟨search.estimate f derivative rounds, rounds, false, some .nonFiniteValue⟩
  | zeroDerivative
      {rounds : Nat}
      (before : ∀ earlier < rounds, GoesOn search f derivative earlier)
      (within : rounds < search.maxIterations)
      (valueFinite : isFinite (f (search.reached f derivative rounds)) = true)
      (slopeFinite : isFinite (derivative (search.reached f derivative rounds)) = true)
      (flat :
        Number.atMost (.real (abs (derivative (search.reached f derivative rounds))))
          search.derivativeFloor = true) :
      Ends ⟨search.estimate f derivative rounds, rounds, false, some .zeroDerivative⟩
  | nonFiniteStep
      {rounds : Nat}
      (before : ∀ earlier < rounds, GoesOn search f derivative earlier)
      (within : rounds < search.maxIterations)
      (step : HasStep search f derivative rounds)
      (notFinite : isFinite (search.reached f derivative (rounds + 1)) = false) :
      Ends ⟨search.estimate f derivative rounds, rounds + 1, false, some .nonFiniteStep⟩
  | iterationLimit
      (before :
        ∀ earlier < search.maxIterations.toNat, GoesOn search f derivative earlier) :
      Ends ⟨search.estimate f derivative search.maxIterations.toNat, search.maxIterations, false,
        some .iterationLimit⟩

end Estimates

variable {search : RootSearch α} {f derivative : α → α}

/-- The estimates from a guess within range are within range. -/
theorem toScalar?_estimate
    (inRange : search.initialGuess.toScalar? = .ok search.initialGuess.toScalar)
    (rounds : Nat) :
    (search.estimate f derivative rounds).toScalar? =
      .ok (search.reached f derivative rounds) := by
  cases rounds with
  | zero => exact inRange
  | succ rounds => rfl

/-- The estimates up to the first one behind which a search does not go on are finite when
the guess is. -/
theorem isFinite_reached
    (guess : isFinite search.initialGuess.toScalar = true)
    {rounds : Nat}
    (before : ∀ earlier < rounds, GoesOn search f derivative earlier)
    {earlier : Nat}
    (ordered : earlier ≤ rounds) :
    isFinite (search.reached f derivative earlier) = true := by
  cases earlier with
  | zero => exact guess
  | succ earlier => exact (before earlier ordered).nextFinite

/-- The slope of a step is no zero divisor. -/
theorem HasStep.isZero_eq_false
    (floor : search.HasFloor)
    {rounds : Nat}
    (step : HasStep search f derivative rounds) :
    isZero (derivative (search.reached f derivative rounds)) = false := by
  refine Bool.eq_false_iff.mpr fun zero => ?_
  have above := (floor.separates _ step.slopeFinite).mpr step.steep
  rw [floor.catches _ zero] at above
  cases above

section Run

variable
  (fault : Fault → ε)
  (floor : search.HasFloor)
  (inRange : search.initialGuess.toScalar? = .ok search.initialGuess.toScalar)

include floor inRange

/-- A round from an estimate makes the tests in their order. -/
theorem newtonFrom_estimate (rounds remaining done : Nat) :
    newtonFrom fault (total f) (total derivative) search (remaining + 1)
        done (search.estimate f derivative rounds) =
      let x := search.reached f derivative rounds
      let next := search.reached f derivative (rounds + 1)
      if !(isFinite (f x) && isFinite (derivative x)) then
        .ok ⟨search.estimate f derivative rounds, done, false, some .nonFiniteValue⟩
      else if Number.atMost (.real (abs (derivative x))) search.derivativeFloor then
        .ok ⟨search.estimate f derivative rounds, done, false, some .zeroDerivative⟩
      else if !isFinite next then
        .ok ⟨search.estimate f derivative rounds, done + 1, false, some .nonFiniteStep⟩
      else if Number.less (.real (abs (next - x))) search.tolerance then
        .ok ⟨search.estimate f derivative (rounds + 1), done + 1, true, none⟩
      else
        newtonFrom fault (total f) (total derivative) search remaining
          (done + 1) (search.estimate f derivative (rounds + 1)) := by
  have valued : (total f : α → Except ε α) (search.reached f derivative rounds) =
      .ok (f (search.reached f derivative rounds)) := rfl
  have sloped : (total derivative : α → Except ε α) (search.reached f derivative rounds) =
      .ok (derivative (search.reached f derivative rounds)) := rfl
  exact newtonFrom_succ floor (toScalar?_estimate inRange rounds) valued sloped remaining done

/-- Where a search goes on, a round leads to the next estimate. -/
theorem newtonFrom_of_goesOn
    {rounds : Nat}
    (goesOn : GoesOn search f derivative rounds)
    (remaining done : Nat) :
    newtonFrom fault (total f) (total derivative) search (remaining + 1)
        done (search.estimate f derivative rounds) =
      newtonFrom fault (total f) (total derivative) search remaining
        (done + 1) (search.estimate f derivative (rounds + 1)) := by
  have above := (floor.separates _ goesOn.slopeFinite).mpr goesOn.steep
  rw [newtonFrom_estimate fault floor inRange]
  simp [goesOn.valueFinite, goesOn.slopeFinite, above, goesOn.nextFinite, goesOn.far]

/-- A search that goes on behind its first estimates has the rest of its rounds left. -/
theorem newtonFrom_of_forall_goesOn
    {rounds : Nat}
    (before : ∀ earlier < rounds, GoesOn search f derivative earlier)
    (remaining : Nat) :
    newtonFrom fault (total f) (total derivative) search
        (rounds + remaining) 0 search.initialGuess =
      newtonFrom fault (total f) (total derivative) search remaining rounds
        (search.estimate f derivative rounds) := by
  induction rounds generalizing remaining with
  | zero =>
      rw [Nat.zero_add]
      rfl
  | succ rounds roundsHypothesis =>
      rw [Nat.add_assoc, Nat.add_comm 1,
        roundsHypothesis (fun earlier less => before earlier (by omega)),
        newtonFrom_of_goesOn fault floor inRange (before rounds rounds.lt_succ_self)]

/-- A search ends where its estimates say. -/
theorem newton_of_ends
    {result : Iteration α}
    (ends : Ends search f derivative result) :
    search.newton fault (total f) (total derivative) = .ok result := by
  -- Before the last round the search goes on, and in the last round one test decides.
  have lastRound {rounds : Nat} (within : rounds < search.maxIterations)
      (before : ∀ earlier < rounds, GoesOn search f derivative earlier) :
      ∃ remaining, search.newton fault (total f) (total derivative) =
        newtonFrom fault (total f) (total derivative) search
          (remaining + 1) rounds (search.estimate f derivative rounds) := by
    refine ⟨search.maxIterations.toNat - rounds - 1, ?_⟩
    rw [newton, ← newtonFrom_of_forall_goesOn fault floor inRange before]
    congr 1
    omega
  cases ends with
  | converged before within step nextFinite near =>
      obtain ⟨remaining, run⟩ := lastRound within before
      have above := (floor.separates _ step.slopeFinite).mpr step.steep
      rw [run, newtonFrom_estimate fault floor inRange]
      simp [step.valueFinite, step.slopeFinite, above, nextFinite, near]
  | nonFiniteValue before within notFinite =>
      obtain ⟨remaining, run⟩ := lastRound within before
      rw [run, newtonFrom_estimate fault floor inRange]
      rcases notFinite with value | slope
      · simp [value]
      · simp [slope]
  | zeroDerivative before within valueFinite slopeFinite flat =>
      obtain ⟨remaining, run⟩ := lastRound within before
      rw [run, newtonFrom_estimate fault floor inRange]
      simp [valueFinite, slopeFinite, flat]
  | nonFiniteStep before within step notFinite =>
      obtain ⟨remaining, run⟩ := lastRound within before
      have above := (floor.separates _ step.slopeFinite).mpr step.steep
      rw [run, newtonFrom_estimate fault floor inRange]
      simp [step.valueFinite, step.slopeFinite, above, notFinite]
  | iterationLimit before =>
      rw [newton, ← Nat.add_zero search.maxIterations.toNat,
        newtonFrom_of_forall_goesOn fault floor inRange before]
      rfl

end Run

/-- At an estimate behind which a search does not go on, one of the tests stops it. -/
theorem exists_ends_of_not_goesOn
    (floor : search.HasFloor)
    {rounds : Nat}
    (before : ∀ earlier < rounds, GoesOn search f derivative earlier)
    (within : rounds < search.maxIterations)
    (stops : ¬GoesOn search f derivative rounds) :
    ∃ result, Ends search f derivative result := by
  by_cases value : isFinite (f (search.reached f derivative rounds)) = true
  case neg => exact ⟨_, .nonFiniteValue before within (.inl (by simpa using value))⟩
  by_cases slope : isFinite (derivative (search.reached f derivative rounds)) = true
  case neg => exact ⟨_, .nonFiniteValue before within (.inr (by simpa using slope))⟩
  cases flat : Number.atMost (.real (abs (derivative (search.reached f derivative rounds))))
      search.derivativeFloor with
  | true => exact ⟨_, .zeroDerivative before within value slope flat⟩
  | false =>
      have step : HasStep search f derivative rounds :=
        ⟨value, slope, (floor.separates _ slope).mp flat⟩
      cases nextFinite : isFinite (search.reached f derivative (rounds + 1)) with
      | false => exact ⟨_, .nonFiniteStep before within step nextFinite⟩
      | true =>
          refine ⟨_, .converged before within step nextFinite ?_⟩
          by_contra notNear
          exact stops ⟨step, nextFinite, by simpa using notNear⟩

/-- Some end is the first one. -/
theorem exists_ends (floor : search.HasFloor) : ∃ result, Ends search f derivative result := by
  classical
  by_cases stops : ∃ rounds, ¬GoesOn search f derivative rounds
  case neg =>
    rw [not_exists_not] at stops
    exact ⟨_, .iterationLimit fun earlier _ => stops earlier⟩
  have before : ∀ earlier < Nat.find stops, GoesOn search f derivative earlier :=
    fun earlier less => not_not.mp (Nat.find_min stops less)
  by_cases within : (Nat.find stops : Int) < search.maxIterations
  · exact exists_ends_of_not_goesOn floor before within (Nat.find_spec stops)
  · exact ⟨_, .iterationLimit fun earlier less => before earlier (by omega)⟩

/-- From a guess that is within range, a search comes to an end, and it ends where its
estimates say and nowhere else. -/
theorem newton_eq_ok_iff_ends
    (fault : Fault → ε)
    (floor : search.HasFloor)
    (inRange : search.initialGuess.toScalar? = .ok search.initialGuess.toScalar)
    (result : Iteration α) :
    search.newton fault (total f) (total derivative) = .ok result ↔
      Ends search f derivative result := by
  constructor
  · intro ran
    obtain ⟨other, ends⟩ : ∃ other, Ends search f derivative other := exists_ends floor
    rw [newton_of_ends fault floor inRange ends] at ran
    cases ran
    exact ends
  · exact newton_of_ends fault floor inRange

/-- From a finite guess and with a floor for derivatives that is not below zero, a search comes
to an end, and it ends where its estimates say and nowhere else: at the first estimate that a
test stops, with that estimate or the next one, or at the limit on rounds. Up to that estimate
all are finite, and no step from one of them divides by zero. -/
theorem newton_ends_at_first_stop
    (fault : Fault → ε)
    (f derivative : Float → Float)
    (search : RootSearch Float)
    (guess : search.initialGuess.isFinite? = .ok true)
    (floor : Number.atMost (.int 0) search.derivativeFloor = true) :
    (∃ result, search.newton fault (total f) (total derivative) = .ok result) ∧
      (∀ result, search.newton fault (total f) (total derivative) = .ok result ↔
        Ends search f derivative result) ∧
      ∀ rounds, (∀ earlier < rounds, GoesOn search f derivative earlier) →
        (∀ earlier ≤ rounds, isFinite (search.reached f derivative earlier) = true) ∧
          (HasStep search f derivative rounds →
            isZero (derivative (search.reached f derivative rounds)) = false) := by
  have separated := hasFloor floor
  obtain ⟨x, inRange, finite⟩ := Number.exists_toScalar?_of_isFinite? guess
  have same := Number.toScalar_of_toScalar? inRange
  subst same
  have ends (result : Iteration Float) :
      search.newton fault (total f) (total derivative) = .ok result ↔
        Ends search f derivative result :=
    newton_eq_ok_iff_ends fault separated inRange result
  refine ⟨?_, ends, ?_⟩
  · obtain ⟨result, ended⟩ : ∃ result, Ends search f derivative result :=
      exists_ends separated
    exact ⟨result, (ends result).mpr ended⟩
  · intro rounds before
    constructor
    · intro earlier ordered
      exact isFinite_reached finite before ordered
    · intro step
      exact step.isZero_eq_false separated

/-- A line is searched from an integer guess: the first round finds the root, and the second
one sees that it does not move. -/
theorem newton_ends_at_first_stop_of_line :
    let search : RootSearch Float := ⟨.int 5, .real 1e-10, 50, .real 0.0⟩
    let f : Float → Float := fun x => x - 3.0
    let derivative : Float → Float := fun _ => 1.0
    search.initialGuess.isFinite? = .ok true ∧
      Number.atMost (.int 0) search.derivativeFloor = true ∧
      search.newton id (total f) (total derivative) =
        .ok ⟨search.estimate f derivative 2, 2, true, none⟩ ∧
      same (search.reached f derivative 2) 3.0 = true := by
  intro search f derivative
  have guess : search.initialGuess.isFinite? = .ok true := by rfl
  have floor : Number.atMost (.int 0) search.derivativeFloor = true := by decide +kernel
  obtain ⟨-, ends, -⟩ := newton_ends_at_first_stop id f derivative search guess floor
  refine ⟨guess, floor, (ends _).mpr ?_, by decide +kernel⟩
  have goesOn : GoesOn search f derivative 0 :=
    ⟨⟨by decide +kernel, by decide +kernel, by decide +kernel⟩, by decide +kernel,
      by decide +kernel⟩
  have step : HasStep search f derivative 1 :=
    ⟨by decide +kernel, by decide +kernel, by decide +kernel⟩
  refine .converged ?_ (by decide) step (by decide +kernel) (by decide +kernel)
  intro earlier less
  rwa [Nat.lt_one_iff.mp less]

end RootSearch
end Calculator
