import Calculator.Proofs.Analysis.Newton
import Calculator.Proofs.Arithmetic.NumberLine

/-!
# Searches that go on where others stop

A search with a lower limit on its rounds is the beginning of one with a higher limit. A
search with a looser tolerance keeps pace with one that is stricter, and converges no later.
Both are read off from a single move, which looks neither at the limit nor at the tolerance.
-/

namespace Calculator

/-- An outcome after some more rounds. -/
def Iteration.advanced {α : Type} (result : Iteration α) (rounds : Nat) : Iteration α :=
  { result with iterations := result.iterations + rounds }

namespace RootSearch

open Scalar

variable {α ε : Type} [Scalar α]

/-- A search with another limit on its rounds. -/
def limitedTo (search : RootSearch α) (rounds : Nat) : RootSearch α :=
  { search with maxIterations := rounds }

/-- A search from another guess. -/
def startedAt (search : RootSearch α) (guess : Number α) : RootSearch α :=
  { search with initialGuess := guess }

/-- A search with another tolerance. -/
def within (search : RootSearch α) (tolerance : Number α) : RootSearch α :=
  { search with tolerance := tolerance }

/-! ## One round -/

/-- The move of a round: it is given up with an outcome, which counts the rounds that it
adds, or it leads from the estimate to the next one. -/
def move
    (fault : Fault → ε)
    (f derivative : α → Except ε α)
    (search : RootSearch α)
    (x : Number α) :
    Except ε (Iteration α ⊕ α × α) := do
  let estimate ← x.toScalar?.mapError fault
  let value ← f estimate
  let slope ← derivative estimate
  if !(isFinite value && isFinite slope) then
    return .inl ⟨x, 0, false, some .nonFiniteValue⟩
  else if Number.atMost (.real (abs slope)) search.derivativeFloor then
    return .inl ⟨x, 0, false, some .zeroDerivative⟩
  else
    let step ← (divide? value slope).mapError fault
    if !isFinite (estimate - step) then
      return .inl ⟨x, 1, false, some .nonFiniteStep⟩
    else return .inr (estimate, estimate - step)

/-- A move is short when it stays below the tolerance. -/
def isShort (search : RootSearch α) (estimate next : α) : Bool :=
  Number.less (.real (abs (next - estimate))) search.tolerance

variable {fault : Fault → ε} {f derivative : α → Except ε α} {search : RootSearch α}

/-- A round makes a move, and it is the last one when the move is given up or short. -/
theorem newtonFrom_succ_eq_move (remaining done : Nat) (x : Number α) :
    newtonFrom fault f derivative search (remaining + 1) done x =
      move fault f derivative search x >>= fun
        | .inl result => .ok (result.advanced done)
        | .inr (estimate, next) =>
            if search.isShort estimate next then .ok ⟨.real next, done + 1, true, none⟩
            else newtonFrom fault f derivative search remaining (done + 1) (.real next) := by
  rw [newtonFrom, move]
  cases x.toScalar?.mapError fault with
  | error error => rfl
  | ok estimate =>
      simp only [Outcome.ok_bind]
      cases f estimate with
      | error error => rfl
      | ok value =>
          simp only [Outcome.ok_bind]
          cases derivative estimate with
          | error error => rfl
          | ok slope =>
              simp only [Outcome.ok_bind]
              split
              · simp [Iteration.advanced]
              split
              · simp [Iteration.advanced]
              cases (divide? value slope).mapError fault with
              | error error => rfl
              | ok step =>
                  simp only [Outcome.ok_bind]
                  split
                  · simp [Iteration.advanced, Int.add_comm]
                  · rfl

/-- A move that is given up has found no root, and it has a reason of its own. -/
theorem reason_of_move
    {x : Number α}
    {result : Iteration α}
    (givenUp : move fault f derivative search x = .ok (.inl result)) :
    result.converged = false ∧ result.reason ≠ some .iterationLimit ∧
      result.reason ≠ some .noSignChange := by
  obtain ⟨estimate, -, givenUp⟩ := Outcome.bind_eq_ok_iff.mp givenUp
  obtain ⟨value, -, givenUp⟩ := Outcome.bind_eq_ok_iff.mp givenUp
  obtain ⟨slope, -, givenUp⟩ := Outcome.bind_eq_ok_iff.mp givenUp
  split at givenUp
  · cases givenUp
    exact ⟨rfl, nofun, nofun⟩
  split at givenUp
  · cases givenUp
    exact ⟨rfl, nofun, nofun⟩
  obtain ⟨step, -, givenUp⟩ := Outcome.bind_eq_ok_iff.mp givenUp
  split at givenUp
  · cases givenUp
    exact ⟨rfl, nofun, nofun⟩
  · cases givenUp

/-- A search itself never looks at the signs of a series. -/
theorem reason_of_newtonFrom
    {remaining done : Nat}
    {x : Number α}
    {result : Iteration α}
    (ran : newtonFrom fault f derivative search remaining done x = .ok result) :
    result.reason ≠ some .noSignChange := by
  induction remaining generalizing done x with
  | zero =>
      cases ran
      exact nofun
  | succ remaining remainingHypothesis =>
      rw [newtonFrom_succ_eq_move] at ran
      obtain ⟨outcome, moved, ran⟩ := Outcome.bind_eq_ok_iff.mp ran
      rcases outcome with last | ⟨estimate, next⟩
      · cases ran
        exact (reason_of_move moved).2.2
      · dsimp only at ran
        split at ran
        · cases ran
          exact nofun
        · exact remainingHypothesis ran

/-- Functions that make the same moves are searched in the same way. -/
theorem newtonFrom_congr
    {g slope : α → Except ε α}
    (same : ∀ x, move fault f derivative search x = move fault g slope search x)
    (remaining done : Nat)
    (x : Number α) :
    newtonFrom fault f derivative search remaining done x =
      newtonFrom fault g slope search remaining done x := by
  induction remaining generalizing done x with
  | zero => rfl
  | succ remaining remainingHypothesis =>
      rw [newtonFrom_succ_eq_move, newtonFrom_succ_eq_move, same]
      simp only [remainingHypothesis]

/-! ## Limits on rounds -/

/-- A search that begins after some rounds counts them, and has forgotten where it began. -/
theorem newtonFrom_advanced (guess : Number α) (rounds limit remaining done : Nat) (x : Number α) :
    newtonFrom fault f derivative (search.limitedTo (rounds + limit)) remaining (rounds + done) x =
      (newtonFrom fault f derivative ((search.startedAt guess).limitedTo limit) remaining done
        x).map (·.advanced rounds) := by
  induction remaining generalizing done x with
  | zero => simp [newtonFrom, limitedTo, Except.map, Iteration.advanced, Int.add_comm]
  | succ remaining remainingHypothesis =>
      rw [newtonFrom_succ_eq_move, newtonFrom_succ_eq_move]
      change move fault f derivative search x >>= _ =
        (move fault f derivative search x >>= _).map _
      cases move fault f derivative search x with
      | error error => rfl
      | ok outcome =>
          rcases outcome with result | ⟨estimate, next⟩
          · simp [Except.map, Iteration.advanced]
            omega
          · change (if search.isShort estimate next then _ else _) =
              (if search.isShort estimate next then _ else _ : Except ε (Iteration α)).map _
            split
            · simp [Except.map, Iteration.advanced]
              omega
            · exact remainingHypothesis (done + 1) (.real next)

/-- A search goes on from the outcome of a lower limit, unless that has ended it. -/
theorem newtonFrom_add (limit later rounds remaining done : Nat) (x : Number α) :
    newtonFrom fault f derivative (search.limitedTo later) (rounds + remaining) done x =
      newtonFrom fault f derivative (search.limitedTo limit) rounds done x >>= fun first =>
        if first.reason = some .iterationLimit then
          newtonFrom fault f derivative (search.limitedTo later) remaining (done + rounds)
            first.value
        else .ok first := by
  induction rounds generalizing done x with
  | zero =>
      rw [Nat.zero_add]
      rfl
  | succ rounds roundsHypothesis =>
      rw [Nat.add_right_comm, newtonFrom_succ_eq_move, newtonFrom_succ_eq_move]
      change move fault f derivative search x >>= _ =
        (move fault f derivative search x >>= _) >>= _
      cases moved : move fault f derivative search x with
      | error error => rfl
      | ok outcome =>
          rcases outcome with result | ⟨estimate, next⟩
          · have other := (reason_of_move moved).2.1
            simp [Iteration.advanced, other]
          · change (if search.isShort estimate next then _ else _) =
              (if search.isShort estimate next then _ else _ : Except ε (Iteration α)) >>= _
            split
            · rfl
            · rw [Nat.add_comm rounds 1, ← Nat.add_assoc]
              exact roundsHypothesis (done + 1) (.real next)

/-- A search goes on as if it began at the estimate that a lower limit has led to. -/
theorem newton_limitedTo_add (limit more : Nat) :
    (search.limitedTo (limit + more)).newton fault f derivative =
      (search.limitedTo limit).newton fault f derivative >>= fun first =>
        if first.reason = some .iterationLimit then
          (((search.startedAt first.value).limitedTo more).newton fault f derivative).map
            (·.advanced limit)
        else .ok first := by
  refine (newtonFrom_add limit (limit + more) limit more 0 search.initialGuess).trans ?_
  have resumed (x : Number α) :
      newtonFrom fault f derivative (search.limitedTo (limit + more)) more (0 + limit) x =
        (((search.startedAt x).limitedTo more).newton fault f derivative).map
          (·.advanced limit) := by
    rw [Nat.zero_add]
    exact newtonFrom_advanced x limit more more 0 x
  simp only [resumed]
  rfl

/-! ## Tolerances -/

/-- A search that converges counts the round in which it does. -/
theorem lt_iterations_of_converged
    {remaining done : Nat}
    {x : Number α}
    {result : Iteration α}
    (ran : newtonFrom fault f derivative search remaining done x = .ok result)
    (converged : result.converged = true) :
    done < result.iterations := by
  induction remaining generalizing done x with
  | zero =>
      cases ran
      cases converged
  | succ remaining remainingHypothesis =>
      rw [newtonFrom_succ_eq_move] at ran
      obtain ⟨outcome, moved, ran⟩ := Outcome.bind_eq_ok_iff.mp ran
      rcases outcome with last | ⟨estimate, next⟩
      · cases ran
        have missed := (reason_of_move moved).1
        rw [Iteration.advanced, missed] at converged
        cases converged
      · dsimp only at ran
        split at ran
        · cases ran
          dsimp only
          omega
        · have later := remainingHypothesis ran
          omega

/-- Under a looser tolerance a search converges when it does under a stricter one, and no
later. -/
theorem exists_sooner
    {strict loose : Number α}
    (looser : ∀ x : α, Number.less (.real x) strict = true → Number.less (.real x) loose = true)
    {remaining done : Nat}
    {x : Number α}
    {result : Iteration α}
    (ran : newtonFrom fault f derivative (search.within strict) remaining done x = .ok result)
    (converged : result.converged = true) :
    ∃ sooner, newtonFrom fault f derivative (search.within loose) remaining done x = .ok sooner ∧
      sooner.converged = true ∧ sooner.iterations ≤ result.iterations := by
  induction remaining generalizing done x with
  | zero =>
      cases ran
      cases converged
  | succ remaining remainingHypothesis =>
      have counted := lt_iterations_of_converged ran converged
      rw [newtonFrom_succ_eq_move] at ran ⊢
      obtain ⟨outcome, moved, ran⟩ := Outcome.bind_eq_ok_iff.mp ran
      -- The move is the same under both tolerances.
      replace moved : move fault f derivative (search.within loose) x = .ok outcome := moved
      rw [moved, Outcome.ok_bind]
      rcases outcome with last | ⟨estimate, next⟩
      · exact ⟨result, ran, converged, Int.le_refl _⟩
      · dsimp only at ran ⊢
        split
        · refine ⟨_, rfl, rfl, ?_⟩
          dsimp only
          omega
        · rename_i long
          have longer : ¬(search.within strict).isShort estimate next = true :=
            fun short => long (looser _ short)
          rw [if_neg longer] at ran
          exact remainingHypothesis ran

/-- With functions that have values, a guess within range and a floor for derivatives that is
not below zero, a search has an outcome under every limit. When the limit is raised, it has the
same outcome if it has ended below the limit, and else it goes on as a search from the estimate
that it has got to. When the tolerance is raised, it still converges, and no later. -/
theorem newton_resumes_and_keeps_pace
    (fault : Fault → ε)
    (f derivative : Float → Except ε Float)
    (search : RootSearch Float)
    {limit higher : Nat}
    (raised : limit ≤ higher) :
    ((∀ x, ∃ y, f x = .ok y) → (∀ x, ∃ y, derivative x = .ok y) →
      (∃ estimate, search.initialGuess.toScalar? = .ok estimate) →
      Number.atMost (.int 0) search.derivativeFloor = true →
      ∃ first, (search.limitedTo limit).newton fault f derivative = .ok first) ∧
      (∀ first, (search.limitedTo limit).newton fault f derivative = .ok first →
        (first.reason ≠ some .iterationLimit →
          (search.limitedTo higher).newton fault f derivative = .ok first) ∧
        (first.reason = some .iterationLimit →
          (search.limitedTo higher).newton fault f derivative =
            (((search.startedAt first.value).limitedTo (higher - limit)).newton fault f
              derivative).map (·.advanced limit))) ∧
      ∀ strict loose, Number.atMost strict loose = true →
        ∀ result, (search.within strict).newton fault f derivative = .ok result →
          result.converged = true →
          ∃ sooner, (search.within loose).newton fault f derivative = .ok sooner ∧
            sooner.converged = true ∧ sooner.iterations ≤ result.iterations := by
  refine ⟨?_, ?_, ?_⟩
  · rintro hasValue hasSlope ⟨estimate, inRange⟩ floor
    have settles : ∃ first, (search.limitedTo limit).newton fault f derivative = .ok first ∧
        Settled 0 limit first :=
      exists_newton fault floor hasValue hasSlope inRange
    obtain ⟨first, ran, -⟩ := settles
    exact ⟨first, ran⟩
  · intro first ran
    obtain ⟨more, rfl⟩ := Nat.exists_eq_add_of_le raised
    rw [newton_limitedTo_add, ran, Outcome.ok_bind, Nat.add_sub_cancel_left]
    constructor
    · intro ended
      exact if_neg ended
    · intro exhausted
      exact if_pos exhausted
  · intro strict loose ordered result ran converged
    have looser (x : Float) (short : Number.less (.real x) strict = true) :
        Number.less (.real x) loose = true :=
      Number.less_of_less_of_atMost short ordered
    exact exists_sooner looser ran converged

/-- A line is searched in two rounds. One round leaves the search at the root, and the rounds
behind it are a search from there. Under a tolerance of one it takes no more of them. -/
theorem newton_resumes_and_keeps_pace_on_line :
    let search : RootSearch Float := ⟨.int 5, .real 1e-10, 50, .real 0.0⟩
    let f : Float → Except Fault Float := fun x => .ok (x - 3.0)
    let derivative : Float → Except Fault Float := fun _ => .ok 1.0
    1 ≤ 50 ∧
      (∃ first, (search.limitedTo 1).newton id f derivative = .ok first) ∧
      (search.limitedTo 50).newton id f derivative =
        (((search.startedAt (.real 3.0)).limitedTo 49).newton id f derivative).map
          (·.advanced 1) ∧
      ∃ sooner, (search.within (.real 1.0)).newton id f derivative = .ok sooner ∧
        sooner.converged = true ∧ sooner.iterations ≤ 2 := by
  intro search f derivative
  have ordered : 1 ≤ 50 := by decide
  obtain ⟨hasOutcome, resumes, keepsPace⟩ :=
    newton_resumes_and_keeps_pace id f derivative search ordered
  have ends := hasOutcome (fun x => ⟨x - 3.0, rfl⟩) (fun _ => ⟨1.0, rfl⟩) ⟨5.0, rfl⟩
    (by decide +kernel)
  have first : (search.limitedTo 1).newton id f derivative =
      .ok ⟨.real 3.0, 1, false, some .iterationLimit⟩ := by
    rfl
  have strict : (search.within (.real 1e-10)).newton id f derivative =
      .ok ⟨.real 3.0, 2, true, none⟩ := by
    rfl
  exact ⟨ordered, ends, (resumes _ first).2 rfl,
    keepsPace (.real 1e-10) (.real 1.0) (by decide +kernel) _ strict rfl⟩

end RootSearch
end Calculator
