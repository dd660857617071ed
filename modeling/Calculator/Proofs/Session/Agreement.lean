import Calculator.Proofs.Failure.Place
import Calculator.Proofs.Session.Plot
import Calculator.Proofs.Settings.Precedence

/-!
# How the calculations of a session agree

A source can be compiled, evaluated and plotted, or shown on a panel. Whatever a session
has done before, all of these refuse the same sources for the same reason, and a panel
shows an expression with the value and the plot that are computed for it elsewhere.
-/

namespace Calculator

namespace Action

variable {source : String} {declared : Value} {workspace after : Workspace}

/-- A panel shows the notice of a source that is no expression, whatever else it is asked
for. -/
theorem runIn_panel_of_failed
    {failure : Failure}
    {diagnostic : Diagnostic}
    (ran : (compile .positional source declared).runIn workspace = (.error failure, after))
    (reported : failure.expressionDiagnostic? = some diagnostic)
    (bindings : Bindings Float)
    (plot : Option PlotRequest) :
    ((panel source declared bindings plot).runIn workspace).1 =
      .ok (.rejected diagnostic.notice) := by
  rw [panel, runIn_bind, runIn_tryCatch, runIn_map, ran]
  dsimp only [Except.map]
  rw [reported]
  rfl

end Action

namespace Session

variable {session : Session} {workspace other : Workspace} {source : String}
  {expression : Expression Float}

/-- The bindings of the variable of a session, with a value or without one. -/
def argument (session : Session) : Option Float → Bindings Float
  | some x => [(session.settings.parser.variableName, x)]
  | none => []

theorem isSome_lookup_argument (x : Option Float) :
    ((session.argument x).lookup session.settings.parser.variableName).isSome = x.isSome := by
  cases x with
  | none => rfl
  | some x => simp [argument]

/-- The variable of accepted settings is usable. -/
theorem usable_of_check
    (accepted : Settings.check (.record session.settings.toEntries) = .ok []) :
    ∃ variableName, Variable.check session.declared = .ok variableName := by
  have isSection : ("parser", Settings.checkParser) ∈ Settings.sections := List.mem_cons_self
  have isRead :
      Settings.sectionEntries session.settings.toEntries "parser" =
        .ok session.settings.parser.toEntries := rfl
  exact Settings.usable_of_checkParser
    (Settings.check_sectionEntries accepted isSection isRead) rfl

/-- A compiled expression is in the variable of its session. -/
theorem variableName_of_compile
    (compiled : Expression.compile source session.declared = .ok expression) :
    expression.variableName = session.settings.parser.variableName := by
  obtain ⟨same, -, -⟩ := Variable.check_eq_ok_iff.mp (Expression.isClosed_of_compile compiled).1
  exact (Value.text.inj same).symm

/-- A source that compiles is evaluated like a fresh compilation. -/
theorem Reachable.runIn_evaluate
    (reachable : session.Reachable workspace)
    (compiled : Expression.compile source session.declared = .ok expression)
    (x : Option Float) :
    ((session.evaluate source x).runIn workspace).1 =
      (expression.evaluate (session.argument x)).mapError .evaluation := by
  obtain ⟨kept, after, -, ran, rfl⟩ := reachable.exists_runIn_compile compiled
  rw [evaluate, Action.runIn_bind, ran]
  dsimp only
  rw [Action.runIn_ofExcept, variableName_of_compile compiled]
  cases x <;> rfl

/-- A panel shows the value that is computed elsewhere. It shows none where the variable
is missing. -/
theorem Reachable.exists_runIn_panel_of_evaluate
    (reachable : session.Reachable workspace)
    (elsewhere : session.Reachable other)
    (compiled : Expression.compile source session.declared = .ok expression)
    (x : Option Float) :
    ∃ kept value,
      ((session.panel source (session.argument x) false).runIn workspace).1 =
          .ok (.accepted kept value []) ∧
        ((session.evaluate source x).runIn other).1 =
          (match value with
            | some y => .ok y
            | none =>
                .error (.evaluation (.unbound expression.variableName
                  (session.argument x).names))) ∧
        (x.isSome → value.isSome) := by
  obtain ⟨kept, after, called, -, rfl⟩ := reachable.exists_runIn_compile compiled
  obtain ⟨value, shown, present, evaluated⟩ :=
    Action.exists_runIn_panel called compiled (session.argument x) none
  rw [variableName_of_compile compiled, isSome_lookup_argument] at present
  refine ⟨kept, value, ?_, ?_, fun given => present.mpr fun _ => given⟩
  · exact congrArg Prod.fst shown
  · rw [elsewhere.runIn_evaluate compiled]
    cases value with
    | some y =>
        rw [evaluated y rfl]
        rfl
    | none =>
        have unbound : kept.value.root.Mentions kept.value.variableName ∧ x = none := by
          simpa [variableName_of_compile compiled] using present
        obtain ⟨mentions, rfl⟩ := unbound
        rw [Expression.evaluate_of_unbound compiled mentions rfl]
        rfl

/-- In a session under settings that the check accepts, the calculations agree at every
three points of its course, whatever the source. When the source compiles, it is plotted
with and without a panel to the same segments, or refused for the same reason; a panel
shows the value at every argument; and without an argument it shows no value just when the
evaluation misses the variable. When the source does not compile, all calculations fail
with the error of the compilation, and panels show the notice of that error alone. -/
theorem calculations_agree
    (accepted : Settings.check (.record session.settings.toEntries) = .ok [])
    {compiling calculating showing : Workspace}
    (compilingReachable : session.Reachable compiling)
    (calculatingReachable : session.Reachable calculating)
    (showingReachable : session.Reachable showing)
    (source : String) :
    (∀ kept, ((session.compile source).runIn compiling).1 = .ok kept →
      ((∃ failure,
          ((session.plot source none none .null).runIn calculating).1 = .error failure ∧
          ((session.panel source [] true).runIn showing).1 = .error failure) ∨
        ∃ segments shown value,
          ((session.plot source none none .null).runIn calculating).1 = .ok segments ∧
          ((session.panel source [] true).runIn showing).1 =
            .ok (.accepted shown value segments) ∧
          shown.value = kept.value) ∧
      (∀ x, ∃ y shown,
        ((session.evaluate source (some x)).runIn calculating).1 = .ok y ∧
        ((session.panel source [(session.settings.parser.variableName, x)] false).runIn
          showing).1 = .ok (.accepted shown (some y) [])) ∧
      ∃ shown value,
        ((session.panel source [] false).runIn showing).1 = .ok (.accepted shown value []) ∧
        (value = none ↔ ∃ name bound,
          ((session.evaluate source none).runIn calculating).1 =
            .error (.evaluation (.unbound name bound)))) ∧
    ∀ failure, ((session.compile source).runIn compiling).1 = .error failure →
      ∃ diagnostic, failure.expressionDiagnostic? = some diagnostic ∧
        (∀ xMin xMax columnCount,
          ((session.plot source xMin xMax columnCount).runIn calculating).1 = .error failure) ∧
        (∀ x, ((session.evaluate source x).runIn calculating).1 = .error failure) ∧
        ∀ bindings plotted,
          ((session.panel source bindings plotted).runIn showing).1 =
            .ok (.rejected diagnostic.notice) := by
  obtain ⟨variableName, usable⟩ := usable_of_check accepted
  cases outcome : Expression.compile (α := Float) source session.declared with
  | ok expression =>
      obtain ⟨kept, _, -, compiled, rfl⟩ := compilingReachable.exists_runIn_compile outcome
      rw [compiled]
      constructor
      · rintro _ ⟨⟩
        refine ⟨?_, fun x => ?_, ?_⟩
        · obtain ⟨shown, value, same, onPanel, plotted⟩ :=
            showingReachable.exists_runIn_panel_of_plot calculatingReachable outcome []
          rw [onPanel, plotted]
          cases session.windowRequest.segments kept.value with
          | error failure => exact .inl ⟨failure, rfl, rfl⟩
          | ok segments => exact .inr ⟨segments, shown, value, rfl, rfl, same⟩
        · obtain ⟨shown, value, onPanel, evaluated, present⟩ :=
            showingReachable.exists_runIn_panel_of_evaluate calculatingReachable outcome (some x)
          obtain ⟨y, rfl⟩ := Option.isSome_iff_exists.mp (present rfl)
          exact ⟨y, shown, evaluated, onPanel⟩
        · obtain ⟨shown, value, onPanel, evaluated, -⟩ :=
            showingReachable.exists_runIn_panel_of_evaluate calculatingReachable outcome none
          refine ⟨shown, value, onPanel, ?_⟩
          rw [evaluated]
          cases value with
          | none => simp
          | some y => simp
      · rintro _ ⟨⟩
  | error error =>
      obtain ⟨-, _, failed⟩ := compilingReachable.exists_runIn_compile_of_failed outcome
      obtain ⟨⟨_, ran⟩, -⟩ := showingReachable.exists_runIn_compile_of_failed outcome
      obtain ⟨diagnostic, reported, -⟩ := Expression.exists_diagnostic usable outcome
      rw [failed]
      constructor
      · rintro _ ⟨⟩
      · rintro _ ⟨⟩
        exact ⟨diagnostic, reported,
          fun _ _ _ => calculatingReachable.runIn_compile_bind_of_failed outcome _,
          fun _ => calculatingReachable.runIn_compile_bind_of_failed outcome _,
          fun bindings _ => Action.runIn_panel_of_failed ran reported bindings _⟩

/-- Under another variable and with room for two expressions, the calculations agree at points of a
session between which the memo has dropped their expression, and on a source that is none. -/
theorem calculations_agree_of_little_room :
    let content : Entries := [("parser", .record [("variable", .text "t")]),
      ("cache", .record [("max_expressions", .int 5)])]
    let given : Entries := [("cache", .record [("max_expressions", .int 2)]),
      ("sampler", .record [("x_min", .int 5), ("y_limit", .float 2.5)])]
    ∃ settings before,
      Settings.load (some (.record [("profiles", .record [("time", .record content)])]))
        (some "time") (.record given) = .ok settings ∧
      (start settings none).runIn (.empty 256) = (.ok ⟨settings⟩, before) ∧
      let session : Session := ⟨settings⟩
      let calculating := session.afterTasks before [.compile "t", .plot "1/t" none none .null]
      let showing := session.afterTasks calculating
        [.compile "t^2", .panel "t^3" [("t", 2.0)] true, .evaluate "t+" none]
      Settings.check (.record settings.toEntries) = .ok [] ∧
        session.Reachable before ∧ session.Reachable calculating ∧ session.Reachable showing ∧
        (∃ kept, ((session.compile "t").runIn before).1 = .ok kept) ∧
        (∀ x, ∃ y shown,
          ((session.evaluate "t" (some x)).runIn calculating).1 = .ok y ∧
          ((session.panel "t" [("t", x)] false).runIn showing).1 =
            .ok (.accepted shown (some y) [])) ∧
        ∃ (failure : Failure) (diagnostic : Diagnostic),
          ((session.compile "t+").runIn before).1 = .error failure ∧
          ((session.plot "t+" none none .null).runIn calculating).1 = .error failure ∧
          ((session.panel "t+" [("t", 2.0)] true).runIn showing).1 =
            .ok (.rejected diagnostic.notice) := by
  intro content given
  let document : Document := some (.record [("profiles", .record [("time", .record content)])])
  have tested : (Settings.load document (some "time") (.record given)).toOption.any
      (fun settings => settings.parser.variableName == "t" &&
        decide (settings.cache.maxExpressions ≤ roomLimit) && true) = true := by
    decide +kernel
  obtain ⟨settings, before, loaded, started, reachable, declares, -⟩ :=
    exists_begun_of_load tested
  have contributes : document.Contributes (some "time") content := rfl
  have overriding : (Value.record given).Contributes given := rfl
  have accepted := Settings.check_toEntries_of_load contributes overriding (by decide) (by decide)
    loaded
  have calculatingReachable := reachable.afterTasks [.compile "t", .plot "1/t" none none .null]
  have showingReachable := calculatingReachable.afterTasks
    [.compile "t^2", .panel "t^3" [("t", 2.0)] true, .evaluate "t+" none]
  have compiled : Expression.compile (α := Float) "t" (declared ⟨settings⟩) =
      .ok ⟨"t", .symbol "t", "t", (Tree.symbol (α := Float) "t").variableNames⟩ := by
    rw [declares]
    exact Expression.compile_eq_ok_iff.mpr
      ⟨[⟨.identifier, "t", 0⟩, .finish 1], "t", .symbol "t", by rfl, by rfl, by rfl, rfl⟩
  obtain ⟨error, failed⟩ :
      ∃ error, Expression.compile (α := Float) "t+" (declared ⟨settings⟩) = .error error := by
    rw [declares]
    exact ⟨_, rfl⟩
  obtain ⟨kept, _, -, ran, -⟩ := reachable.exists_runIn_compile compiled
  obtain ⟨-, _, refused⟩ := reachable.exists_runIn_compile_of_failed failed
  obtain ⟨agree, -⟩ :=
    calculations_agree accepted reachable calculatingReachable showingReachable "t"
  obtain ⟨-, valued, -⟩ := agree kept (congrArg Prod.fst ran)
  obtain ⟨-, agree⟩ :=
    calculations_agree accepted reachable calculatingReachable showingReachable "t+"
  obtain ⟨diagnostic, -, plots, -, shows⟩ := agree _ (congrArg Prod.fst refused)
  have name : settings.parser.variableName = "t" := Value.text.inj declares
  rw [name] at valued
  exact ⟨settings, before, loaded, started, accepted, reachable, calculatingReachable,
    showingReachable, ⟨kept, congrArg Prod.fst ran⟩, valued, _, diagnostic,
    congrArg Prod.fst refused, plots none none .null, shows _ true⟩

end Session
end Calculator
