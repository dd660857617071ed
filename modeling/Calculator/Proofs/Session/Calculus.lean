import Calculator.Proofs.Analysis.Total
import Calculator.Proofs.Finance.Rate
import Calculator.Proofs.Session.Course
import Calculator.Proofs.Settings.Accepted

/-!
# Calculus under accepted settings

The comparisons of the check let undefined numbers pass. Every other setting that is
accepted lies on the side of its bound that its rule asks for, and serves the calculations
that use it, unless it is an integer beyond all doubles.
-/

namespace Calculator

open Scalar

namespace Session

variable {session : Session} {workspace : Workspace} {source : String}
  {expression : Expression Float}

/-- A calculation on a distance or a mesh succeeds when that is accepted. -/
theorem exists_runIn_ofExcept_bind_iff
    {β γ δ : Type}
    {wrap : γ → Failure}
    {given : Except γ β}
    {next : β → Except Failure δ}
    (total : ∀ h, ∃ y, next h = .ok y) :
    (∃ y, ((Action.ofExcept wrap given >>= fun h => Action.ofExcept id (next h)).runIn
      workspace).1 = .ok y) ↔ ∃ h, given = .ok h := by
  rw [Action.runIn_bind, Action.runIn_ofExcept]
  cases given with
  | error error => simp
  | ok h =>
      obtain ⟨y, found⟩ := total h
      simp [found]

theorem Reachable.exists_runIn_derivative_iff
    (reachable : session.Reachable workspace)
    (compiled : Expression.compile source session.declared = .ok expression)
    (x : Float) :
    (∃ slope, ((session.derivative source x).runIn workspace).1 = .ok slope) ↔
      ∃ h, Difference.distance session.settings.calculus.derivativeStep = .ok h := by
  obtain ⟨after, ran⟩ := reachable.exists_runIn_compile_bind compiled fun expression => do
    let h ← Action.ofExcept .distance
      (Difference.distance session.settings.calculus.derivativeStep)
    Action.ofExcept id (Difference.slope (Action.valueAt expression) x h)
  rw [derivative, ran]
  exact exists_runIn_ofExcept_bind_iff fun h =>
    Difference.exists_slope (Action.exists_valueAt compiled) x h

theorem Reachable.exists_runIn_limit_iff
    (reachable : session.Reachable workspace)
    (compiled : Expression.compile source session.declared = .ok expression)
    (x : Float) :
    (∃ limit, ((session.limit source x).runIn workspace).1 = .ok limit) ↔
      ∃ h, Difference.distance session.settings.calculus.limitStep = .ok h := by
  obtain ⟨after, ran⟩ := reachable.exists_runIn_compile_bind compiled fun expression => do
    let h ← Action.ofExcept .distance
      (Difference.distance session.settings.calculus.limitStep)
    Action.ofExcept id
      (Difference.limit (Action.valueAt expression) x h session.settings.calculus.limitTolerance)
  rw [limit, ran]
  exact exists_runIn_ofExcept_bind_iff fun h =>
    Difference.exists_limit (Action.exists_valueAt compiled) x h _

theorem Reachable.exists_runIn_integral_iff
    (reachable : session.Reachable workspace)
    (compiled : Expression.compile source session.declared = .ok expression)
    (lower upper : Float) :
    (∃ area, ((session.integral source lower upper).runIn workspace).1 = .ok area) ↔
      ∃ mesh, Mesh.cut lower upper session.settings.calculus.simpsonIntervals = .ok mesh := by
  obtain ⟨after, ran⟩ := reachable.exists_runIn_compile_bind compiled fun expression => do
    let mesh ← Action.ofExcept .mesh
      (Mesh.cut lower upper session.settings.calculus.simpsonIntervals)
    Action.ofExcept id (mesh.integral (Action.valueAt expression))
  rw [integral, ran]
  exact exists_runIn_ofExcept_bind_iff fun mesh =>
    Mesh.exists_integral (Action.exists_valueAt compiled) mesh

/-- Under settings with a floor for derivatives that is not below zero, a search for a rate
of return has an outcome. -/
theorem exists_runIn_solveRate
    (guess : session.settings.rootFinder.initialGuess.isFinite? = .ok true)
    (floor : Number.atMost (.int 0) session.settings.rootFinder.derivativeFloor = true)
    (flows : List Float)
    (workspace : Workspace) :
    ∃ result, ((session.solveRate flows).runIn workspace).1 = .ok result := by
  obtain ⟨estimate, guessed, -⟩ := Number.exists_toScalar?_of_isFinite? guess
  obtain ⟨result, ran, -⟩ := CashFlow.exists_answers guessed floor flows
  exact ⟨result, by rw [solveRate, Action.runIn_internalRate, ran]; rfl⟩

/-- The settings that are accepted are on the right side of their bounds unless they are
undefined. A search for a rate of return divides by no zero unless its floor is undefined.
At every point of a session, a source that compiles has a slope and a limit at every
argument just when the steps are defined and within the range of doubles, and an integral
over every interval just when the even number of parts is within that range. -/
theorem usable_of_accepted
    {document : Document}
    {profile : Option Key}
    {overrides : Value}
    (loaded : Settings.load document profile overrides = .ok session.settings)
    (reachable : session.Reachable workspace) :
    let search := session.settings.rootFinder
    let calculus := session.settings.calculus
    (∀ setting ∈ search.tolerance :: calculus.derivativeStep :: calculus.limitStep ::
        calculus.limitTolerance :: session.settings.sampler.yLimit.toList,
      (Number.less (.int 0) setting = true ↔ setting.isNaN = false)) ∧
      (Number.atMost (.int 0) search.derivativeFloor = true ↔
        search.derivativeFloor.isNaN = false) ∧
      (search.derivativeFloor.isNaN = false →
        ∀ flows, ∃ result, ((session.solveRate flows).runIn workspace).1 = .ok result) ∧
      ∀ source (expression : Expression Float),
        Expression.compile source session.declared = .ok expression →
          (∀ x, (∃ slope, ((session.derivative source x).runIn workspace).1 = .ok slope) ↔
            calculus.derivativeStep.isNaN = false ∧
              ∃ h, calculus.derivativeStep.toScalar? = .ok h) ∧
          (∀ x, (∃ limit, ((session.limit source x).runIn workspace).1 = .ok limit) ↔
            calculus.limitStep.isNaN = false ∧ ∃ h, calculus.limitStep.toScalar? = .ok h) ∧
          ∀ lower upper, isFinite lower = true → isFinite upper = true →
            less lower upper = true →
              ((∃ area, ((session.integral source lower upper).runIn workspace).1 = .ok area) ↔
                ∃ count : Float,
                  ofInt? (Mesh.evenAbove calculus.simpsonIntervals) = .ok count) := by
  have accepted := Settings.accepted_of_load loaded
  have floor_iff := Number.zero_atMost_iff_of_not_less accepted.rootFinder.derivativeFloor
  refine ⟨?_, floor_iff, ?_, ?_⟩
  · intro setting present
    refine Number.zero_less_iff_of_not_atMost ?_
    simp only [List.mem_cons, Option.mem_toList] at present
    rcases present with rfl | rfl | rfl | rfl | isLimit
    · exact accepted.rootFinder.tolerance
    · exact accepted.calculus.derivativeStep
    · exact accepted.calculus.limitStep
    · exact accepted.calculus.limitTolerance
    · exact accepted.sampler.yLimit setting isLimit
  · exact fun defined flows =>
      exists_runIn_solveRate accepted.rootFinder.initialGuess (floor_iff.mpr defined) flows _
  · intro source expression compiled
    refine ⟨fun x => ?_, fun x => ?_, ?_⟩
    · rw [reachable.exists_runIn_derivative_iff compiled, Difference.exists_distance_iff,
        Number.zero_less_iff_of_not_atMost accepted.calculus.derivativeStep]
    · rw [reachable.exists_runIn_limit_iff compiled, Difference.exists_distance_iff,
        Number.zero_less_iff_of_not_atMost accepted.calculus.limitStep]
    · intro lower upper lowerFinite upperFinite ordered
      rw [reachable.exists_runIn_integral_iff compiled,
        Mesh.exists_cut_iff lowerFinite upperFinite ordered accepted.calculus.simpsonIntervals]

/-- Steps that are given over a shipped profile, one of them as an integer, serve a session that has
already refused sources and given up a search. -/
theorem usable_of_accepted_of_preview :
    ∃ settings before,
      Settings.load Document.shipped (some "irr-preview") (.record [("calculus", .record
          [("derivative_step", .float 0.5), ("limit_step", .int 1),
            ("simpson_intervals", .int 3)])]) = .ok settings ∧
      (start settings none).runIn (.empty 256) = (.ok ⟨settings⟩, before) ∧
      let session : Session := ⟨settings⟩
      let workspace := session.afterTasks before
        [.derivative "x+" 1.0, .solveRateText "0, 1", .integral "1/x" 1.0 0.0, .limit "x" 2.0]
      session.Reachable workspace ∧
        (∀ flows, ∃ result, ((session.solveRate flows).runIn workspace).1 = .ok result) ∧
        ∃ expression : Expression Float,
          Expression.compile "x" session.declared = .ok expression ∧
          (∃ slope, ((session.derivative "x" 1.0).runIn workspace).1 = .ok slope) ∧
          (∃ limit, ((session.limit "x" 1.0).runIn workspace).1 = .ok limit) ∧
          ∃ area, ((session.integral "x" 0.0 1.0).runIn workspace).1 = .ok area := by
  have tested : (Settings.load Document.shipped (some "irr-preview") (.record [("calculus", .record
        [("derivative_step", .float 0.5), ("limit_step", .int 1),
          ("simpson_intervals", .int 3)])])).toOption.any
      (fun settings => settings.parser.variableName == "x" &&
        decide (settings.cache.maxExpressions ≤ roomLimit) &&
        (!settings.rootFinder.derivativeFloor.isNaN &&
          (!settings.calculus.derivativeStep.isNaN &&
            settings.calculus.derivativeStep.toScalar?.toOption.any fun _ => true) &&
          (!settings.calculus.limitStep.isNaN &&
            settings.calculus.limitStep.toScalar?.toOption.any fun _ => true) &&
          (ofInt? (Mesh.evenAbove settings.calculus.simpsonIntervals) :
            Except Fault Float).toOption.any fun _ => true)) = true := by
    decide +kernel
  obtain ⟨settings, before, loaded, started, reachable, declares, passed⟩ :=
    exists_begun_of_load tested
  simp only [Bool.and_eq_true, Bool.not_eq_true'] at passed
  obtain ⟨⟨⟨floor, step, stepTested⟩, limitStep, limitStepTested⟩, partsTested⟩ := passed
  obtain ⟨h, inRange, -⟩ := Outcome.exists_of_any stepTested
  obtain ⟨k, limitInRange, -⟩ := Outcome.exists_of_any limitStepTested
  obtain ⟨parts, partsInRange, -⟩ := Outcome.exists_of_any partsTested
  obtain ⟨expression, compiled, -⟩ := Expression.exists_identity
  rw [← declares] at compiled
  obtain ⟨-, -, solves, serves⟩ := usable_of_accepted loaded (reachable.afterTasks
    [.derivative "x+" 1.0, .solveRateText "0, 1", .integral "1/x" 1.0 0.0, .limit "x" 2.0])
  obtain ⟨slopes, limits, areas⟩ := serves "x" expression compiled
  exact ⟨settings, before, loaded, started, reachable.afterTasks _, solves floor, expression,
    compiled, (slopes 1.0).mpr ⟨step, h, inRange⟩, (limits 1.0).mpr ⟨limitStep, k, limitInRange⟩,
    (areas 0.0 1.0 rfl rfl rfl).mpr ⟨parts, partsInRange⟩⟩

/-- An undefined step is accepted. It is not positive, and no slope can be computed with it. -/
theorem not_usable_of_undefined_step :
    ∃ settings after,
      Settings.load none none
        (.record [("calculus", .record [("derivative_step", .float nan)])]) = .ok settings ∧
      (start settings none).runIn (.empty 256) = (.ok ⟨settings⟩, after) ∧
      Number.less (.int 0) settings.calculus.derivativeStep = false ∧
      (∃ expression : Expression Float,
        Expression.compile "x" (Session.declared ⟨settings⟩) = .ok expression) ∧
      ((derivative ⟨settings⟩ "x" 1.0).runIn after).1 =
        .error (.distance (.notPositive settings.calculus.derivativeStep)) := by
  have tested : (Settings.load none none
        (.record [("calculus", .record [("derivative_step", .float nan)])])).toOption.any
      (fun settings => settings.parser.variableName == "x" &&
        decide (settings.cache.maxExpressions ≤ roomLimit) &&
        !Number.less (.int 0) settings.calculus.derivativeStep) = true := by
    decide +kernel
  obtain ⟨settings, after, loaded, started, reachable, declares, passed⟩ :=
    exists_begun_of_load tested
  rw [Bool.not_eq_true'] at passed
  obtain ⟨expression, compiled, -⟩ := Expression.exists_identity
  rw [← declares] at compiled
  obtain ⟨kept, last, -, ran, -⟩ := reachable.exists_runIn_compile compiled
  refine ⟨settings, after, loaded, started, passed, ⟨expression, compiled⟩, ?_⟩
  rw [derivative, Action.runIn_bind, ran]
  dsimp only
  rw [Difference.distance, passed]
  rfl

end Session
end Calculator
