import Calculator.Proofs.Plot.Sample
import Calculator.Proofs.Session.Course
import Calculator.Proofs.Settings.Accepted

/-!
# Plots over the window of the settings

Accepted settings have finite bounds and at least one column. A plot over the window that they give
is refused when the bounds are out of order, as they may be when only one of them is given, when
the width, taken once for every column, is too wide, and when an integer that is needed for it is
beyond all doubles. Over every other window there is a plot.
-/

namespace Calculator

open Scalar

/-! ## Windows -/

namespace SamplerSettings

/-- Whether the width of the window, taken once for every column, is finite. -/
def spanFinite? (sampler : SamplerSettings) : Except Fault Bool := do
  (← (sampler.xMax.difference sampler.xMin).times? sampler.columnCount).isFinite?

/-- The integer that becomes a double when the span is looked at: the span itself where the width is
an integer, and the number of columns otherwise. -/
def countedSpan (sampler : SamplerSettings) : Int :=
  match sampler.xMax.difference sampler.xMin with
  | .int width => width * sampler.columnCount
  | .real _ => sampler.columnCount

/-- Settings with a window that can be plotted. -/
structure IsPlottable (sampler : SamplerSettings) : Prop where
  ordered : Number.less sampler.xMin sampler.xMax = true
  span : sampler.spanFinite? = .ok true

/-- What keeps the window of accepted settings from being plotted. -/
inductive Obstacle (sampler : SamplerSettings) : WindowDefect → Prop
  | reversed
      (unordered : Number.less sampler.xMin sampler.xMax = false) :
      Obstacle sampler .boundsReversed
  | tooWide
      (ordered : Number.less sampler.xMin sampler.xMax = true)
      (span : sampler.spanFinite? = .ok false) :
      Obstacle sampler .tooWide
  | boundless
      (ordered : Number.less sampler.xMin sampler.xMax = true)
      (beyond : isFinite (ofInt sampler.countedSpan : Float) = false) :
      Obstacle sampler (.arithmetic .integerTooLarge)

variable {sampler : SamplerSettings}

/-- It can be told whether the span is finite where an integer that it takes is a double. -/
theorem spanFinite?_cases (sampler : SamplerSettings) :
    (isFinite (ofInt sampler.countedSpan : Float) = true ∧
        ∃ fits, sampler.spanFinite? = .ok fits) ∨
      (isFinite (ofInt sampler.countedSpan : Float) = false ∧
        sampler.spanFinite? = .error .integerTooLarge) := by
  rw [spanFinite?, countedSpan]
  cases sampler.xMax.difference sampler.xMin with
  | int width =>
      dsimp only
      rw [Number.times?, Outcome.ok_bind, Number.isFinite?, ofInt?]
      cases isFinite (ofInt (width * sampler.columnCount) : Float) with
      | true => exact .inl ⟨rfl, true, rfl⟩
      | false => exact .inr ⟨rfl, rfl⟩
  | real width =>
      dsimp only
      rw [Number.times?, ofInt?]
      cases isFinite (ofInt sampler.columnCount : Float) with
      | true => exact .inl ⟨rfl, _, rfl⟩
      | false => exact .inr ⟨rfl, rfl⟩

/-- A window can be plotted, or something keeps it from being so. -/
theorem plottable_or_obstacle (sampler : SamplerSettings) :
    sampler.IsPlottable ∨ ∃ defect, sampler.Obstacle defect := by
  cases ordered : Number.less sampler.xMin sampler.xMax with
  | false => exact .inr ⟨_, .reversed ordered⟩
  | true =>
      rcases sampler.spanFinite?_cases with ⟨-, fits, span⟩ | ⟨beyond, -⟩
      · cases fits with
        | true => exact .inl ⟨ordered, span⟩
        | false => exact .inr ⟨_, .tooWide ordered span⟩
      · exact .inr ⟨_, .boundless ordered beyond⟩

/-- The window of accepted settings is judged by the order of its bounds and by its span. -/
theorem make_of_accepted (accepted : sampler.Accepted) :
    Window.make sampler.xMin sampler.xMax (.int sampler.columnCount) =
      if Number.less sampler.xMin sampler.xMax then
        match sampler.spanFinite? with
        | .ok true => .ok ⟨sampler.xMin, sampler.xMax, sampler.columnCount, accepted.columnCount⟩
        | .ok false => .error ⟨.tooWide, sampler.xMin, sampler.xMax, .int sampler.columnCount⟩
        | .error fault =>
            .error ⟨.arithmetic fault, sampler.xMin, sampler.xMax, .int sampler.columnCount⟩
      else .error ⟨.boundsReversed, sampler.xMin, sampler.xMax, .int sampler.columnCount⟩ := by
  have reversed := Number.atMost_eq_not_less accepted.xMin accepted.xMax
  obtain ⟨xMin, xMax, columnCount, yLimit⟩ := sampler
  obtain ⟨minFinite, maxFinite, positive, -⟩ := accepted
  dsimp only at minFinite maxFinite positive reversed ⊢
  obtain ⟨columns, rfl⟩ := Nat.exists_eq_succ_of_ne_zero (Nat.ne_of_gt positive)
  have bounds : Window.boundsFinite? xMin xMax = .ok true := by
    rw [Window.boundsFinite?, minFinite]
    exact maxFinite
  have spanned :
      Window.spanFinite? ⟨xMin, xMax, columns + 1, columns.succ_pos⟩ =
        spanFinite? ⟨xMin, xMax, columns + 1, yLimit⟩ := rfl
  change (Window.judge xMin xMax (.int (.ofNat (columns + 1)))).mapError _ = _
  rw [Window.judge]
  simp only [bounds, spanned, reversed, Outcome.mapError_ok, Outcome.ok_bind]
  cases Number.less xMin xMax with
  | false => rfl
  | true => rcases spanFinite? ⟨xMin, xMax, columns + 1, yLimit⟩ with fault | _ | _ <;> rfl

theorem IsPlottable.make_eq (plottable : sampler.IsPlottable) (accepted : sampler.Accepted) :
    Window.make sampler.xMin sampler.xMax (.int sampler.columnCount) =
      .ok ⟨sampler.xMin, sampler.xMax, sampler.columnCount, accepted.columnCount⟩ := by
  rw [make_of_accepted accepted, plottable.ordered, if_pos rfl, plottable.span]

theorem Obstacle.make_eq
    {defect : WindowDefect}
    (obstacle : sampler.Obstacle defect)
    (accepted : sampler.Accepted) :
    Window.make sampler.xMin sampler.xMax (.int sampler.columnCount) =
      .error ⟨defect, sampler.xMin, sampler.xMax, .int sampler.columnCount⟩ := by
  rw [make_of_accepted accepted]
  cases obstacle with
  | reversed unordered => rw [unordered, if_neg Bool.false_ne_true]
  | tooWide ordered span => rw [ordered, if_pos rfl, span]
  | boundless ordered beyond =>
      rcases sampler.spanFinite?_cases with ⟨inRange, -⟩ | ⟨-, span⟩
      · rw [beyond] at inRange
        cases inRange
      · rw [ordered, if_pos rfl, span]

end SamplerSettings

namespace Window

/-- A function with a value everywhere is sampled over every window. -/
theorem exists_sample
    {ε : Type}
    {f : Float → Except ε Float}
    (total : ∀ x, ∃ y, f x = .ok y)
    (limit : Option (Number Float))
    (window : Window Float) :
    ∃ segments, window.sample f limit = .ok segments := by
  have found : ∃ points, window.points f = .ok points := by
    refine Outcome.exists_mapM_iff.mpr fun index _ => ?_
    obtain ⟨y, valued⟩ := total (window.abscissa index)
    exact ⟨_, Outcome.bind_eq_ok_iff.mpr ⟨y, valued, rfl⟩⟩
  obtain ⟨points, found⟩ := found
  exact ⟨_, Outcome.map_eq_ok_iff.mpr ⟨points, found, rfl⟩⟩

end Window

/-! ## Compiled expressions -/

/-- The segments of an expression that answer a request for a plot. -/
def PlotRequest.segments
    (request : PlotRequest)
    (expression : Expression Float) :
    Except Failure (List (Segment Float)) := do
  let window ←
    (Window.make request.xMin request.xMax request.columnCount).mapError Failure.window
  window.sample (Action.valueAt expression) request.limit

namespace Action

variable {source : String} {declared : Value} {expression : Expression Float}

/-- The segments of an expression do not depend on the workspace. -/
theorem runIn_sample
    (expression : Expression Float)
    (request : PlotRequest)
    (workspace : Workspace) :
    ((sample expression request.xMin request.xMax request.columnCount request.limit).runIn
      workspace).1 = request.segments expression := by
  rw [sample, PlotRequest.segments, runIn_bind, runIn_ofExcept]
  cases Window.make request.xMin request.xMax request.columnCount with
  | error error => rfl
  | ok window =>
      rw [Outcome.mapError_ok, Outcome.ok_bind]
      dsimp only
      rw [runIn_bind, runIn_ofExcept]
      cases window.sample (valueAt expression) request.limit with
      | error failure => rfl
      | ok segments => rfl

/-- A compiled expression is sampled over a window that can be made. -/
theorem exists_runIn_sample
    (compiled : Expression.compile source declared = .ok expression)
    {xMin xMax : Number Float}
    {columnCount : Value}
    {window : Window Float}
    (made : Window.make xMin xMax columnCount = .ok window)
    (limit : Option (Number Float)) :
    ∃ segments, ∀ workspace,
      ((sample expression xMin xMax columnCount limit).runIn workspace).1 = .ok segments := by
  obtain ⟨segments, sampled⟩ := Window.exists_sample (exists_valueAt compiled) limit window
  refine ⟨segments, fun workspace => ?_⟩
  rw [runIn_sample expression ⟨xMin, xMax, columnCount, limit⟩, PlotRequest.segments, made]
  exact sampled

theorem runIn_sample_of_refused
    {xMin xMax : Number Float}
    {columnCount : Value}
    {error : WindowError Float}
    (refused : Window.make xMin xMax columnCount = .error error)
    (limit : Option (Number Float))
    (workspace : Workspace) :
    ((sample expression xMin xMax columnCount limit).runIn workspace).1 =
      .error (.window error) := by
  rw [runIn_sample expression ⟨xMin, xMax, columnCount, limit⟩, PlotRequest.segments, refused]
  rfl

/-- The segments that a panel shows: those of the plot that is asked for, or none. -/
def requested (expression : Expression Float) :
    Option PlotRequest → Action (List (Segment Float))
  | some request =>
      sample expression request.xMin request.xMax request.columnCount request.limit
  | none => pure []

/-- A panel shows a source that compiles: its value where its variable is bound or not
mentioned, and the segments that are asked for. -/
theorem exists_runIn_panel
    {kept : KeptExpression}
    {workspace after : Workspace}
    (ran : (compile .positional source declared).runIn workspace = (.ok kept, after))
    (compiled : Expression.compile source declared = .ok kept.value)
    (bindings : Bindings Float)
    (plot : Option PlotRequest) :
    ∃ value,
      (panel source declared bindings plot).runIn workspace =
        ((.accepted kept value ·) <$> requested kept.value plot : Action Panel).runIn after ∧
      (value.isSome ↔ (kept.value.root.Mentions kept.value.variableName →
        (bindings.lookup kept.value.variableName).isSome)) ∧
      ∀ y ∈ value, kept.value.evaluate bindings = .ok y := by
  obtain ⟨value, valued, present, evaluated⟩ := @exists_pointValue after _ _ _ compiled bindings
  refine ⟨value, ?_, present, evaluated⟩
  rw [panel, runIn_bind, runIn_tryCatch, runIn_map, ran]
  dsimp only [Except.map]
  rw [runIn_bind, valued]
  cases plot with
  | none => rfl
  | some request => rfl

end Action

namespace Session

variable {session : Session} {workspace other : Workspace} {source : String}

/-- The plot of a source that compiles is a sample over the window of the settings, with or
without a panel. -/
theorem Reachable.exists_runIn_plot
    (reachable : session.Reachable workspace)
    {expression : Expression Float}
    (compiled : Expression.compile source session.declared = .ok expression)
    (bindings : Bindings Float) :
    ∃ kept value after, kept.value = expression ∧
      (session.plot source none none .null).runIn workspace =
        (Action.sample expression session.settings.sampler.xMin session.settings.sampler.xMax
          (.int session.settings.sampler.columnCount) session.settings.sampler.yLimit).runIn
            after ∧
      (session.panel source bindings true).runIn workspace =
        ((.accepted kept value ·) <$>
          Action.sample expression session.settings.sampler.xMin session.settings.sampler.xMax
            (.int session.settings.sampler.columnCount) session.settings.sampler.yLimit :
              Action Panel).runIn after := by
  obtain ⟨kept, after, called, ran, rfl⟩ := reachable.exists_runIn_compile compiled
  obtain ⟨value, shown, -⟩ :=
    Action.exists_runIn_panel called compiled bindings (some session.windowRequest)
  refine ⟨kept, value, after, rfl, ?_, shown⟩
  rw [plot, Action.runIn_bind, ran]
  rfl

/-- A source that compiles is plotted over the window of the settings, and a panel shows the
same plot or is refused with it. -/
theorem Reachable.exists_runIn_panel_of_plot
    (reachable : session.Reachable workspace)
    (elsewhere : session.Reachable other)
    {expression : Expression Float}
    (compiled : Expression.compile source session.declared = .ok expression)
    (bindings : Bindings Float) :
    ∃ kept value, kept.value = expression ∧
      ((session.panel source bindings true).runIn workspace).1 =
        (session.windowRequest.segments expression).map (.accepted kept value ·) ∧
      ((session.plot source none none .null).runIn other).1 =
        session.windowRequest.segments expression := by
  obtain ⟨kept, value, _, same, -, shown⟩ := reachable.exists_runIn_plot compiled bindings
  obtain ⟨_, _, _, -, plotted, -⟩ := elsewhere.exists_runIn_plot compiled bindings
  have sampled := Action.runIn_sample expression session.windowRequest
  refine ⟨kept, value, same, ?_, ?_⟩
  · rw [shown, Action.runIn_map]
    exact congrArg (Except.map (Panel.accepted kept value)) (sampled _)
  · rw [plotted]
    exact sampled _

/-- Under accepted settings an expression has segments over a window that can be plotted. -/
theorem exists_segments_of_plottable
    (accepted : session.settings.sampler.Accepted)
    {expression : Expression Float}
    (compiled : Expression.compile source session.declared = .ok expression)
    (plottable : session.settings.sampler.IsPlottable) :
    ∃ segments, session.windowRequest.segments expression = .ok segments := by
  rw [PlotRequest.segments, windowRequest, plottable.make_eq accepted]
  exact Window.exists_sample (Action.exists_valueAt compiled) _ _

theorem segments_of_obstacle
    (accepted : session.settings.sampler.Accepted)
    {defect : WindowDefect}
    (obstacle : session.settings.sampler.Obstacle defect)
    (expression : Expression Float) :
    let sampler := session.settings.sampler
    session.windowRequest.segments expression =
      .error (.window ⟨defect, sampler.xMin, sampler.xMax, .int sampler.columnCount⟩) := by
  rw [PlotRequest.segments, windowRequest, obstacle.make_eq accepted]
  rfl

/-- Under settings that are accepted, a source that compiles is plotted at every point of a session
just when the bounds are in order and the span is finite, and a panel shows the same segments.
Otherwise both are refused for what is in the way, with the window of the settings. The bounds can
only be out of order where one of them is given without the other. -/
theorem plot_of_accepted
    {document : Document}
    {profile : Option Key}
    {overrides : Value}
    (loaded : Settings.load document profile overrides = .ok session.settings)
    (reachable : session.Reachable workspace)
    {expression : Expression Float}
    (compiled : Expression.compile source session.declared = .ok expression)
    (bindings : Bindings Float) :
    let sampler := session.settings.sampler
    let plotted := ((session.plot source none none .null).runIn workspace).1
    let shown := ((session.panel source bindings true).runIn workspace).1
    ((∃ segments, plotted = .ok segments) ↔ sampler.IsPlottable) ∧
      (∀ segments, plotted = .ok segments →
        ∃ kept value, kept.value = expression ∧ shown = .ok (.accepted kept value segments)) ∧
      (∀ failure, plotted = .error failure ↔
        ∃ defect, sampler.Obstacle defect ∧
          failure = .window ⟨defect, sampler.xMin, sampler.xMax, .int sampler.columnCount⟩) ∧
      (∀ failure, plotted = .error failure → shown = .error failure) ∧
      ∀ merged, Settings.merge document profile overrides = .ok merged →
        Settings.BoundsTogether merged → Number.less sampler.xMin sampler.xMax = true := by
  intro sampler plotted shown
  have accepted := (Settings.accepted_of_load loaded).sampler
  obtain ⟨kept, value, same, onPanel, onPlot⟩ :=
    reachable.exists_runIn_panel_of_plot reachable compiled bindings
  have isPlotted : plotted = session.windowRequest.segments expression := onPlot
  have isShown : shown = plotted.map (.accepted kept value ·) := by
    rw [isPlotted]
    exact onPanel
  have ofPlottable (plottable : sampler.IsPlottable) : ∃ segments, plotted = .ok segments := by
    rw [isPlotted]
    exact exists_segments_of_plottable accepted compiled plottable
  have ofObstacle {defect : WindowDefect} (obstacle : sampler.Obstacle defect) :
      plotted = .error (.window ⟨defect, sampler.xMin, sampler.xMax, .int sampler.columnCount⟩) :=
    isPlotted.trans (segments_of_obstacle accepted obstacle expression)
  refine ⟨⟨?_, ofPlottable⟩, ?_, fun failure => ⟨?_, ?_⟩, ?_, ?_⟩
  · rintro ⟨segments, succeeded⟩
    rcases sampler.plottable_or_obstacle with plottable | ⟨defect, obstacle⟩
    · exact plottable
    · rw [ofObstacle obstacle] at succeeded
      cases succeeded
  · intro segments succeeded
    rw [succeeded] at isShown
    exact ⟨kept, value, same, isShown⟩
  · intro failed
    rcases sampler.plottable_or_obstacle with plottable | ⟨defect, obstacle⟩
    · obtain ⟨segments, succeeded⟩ := ofPlottable plottable
      rw [succeeded] at failed
      cases failed
    · rw [ofObstacle obstacle] at failed
      cases failed
      exact ⟨defect, obstacle, rfl⟩
  · rintro ⟨defect, obstacle, rfl⟩
    exact ofObstacle obstacle
  · intro failure failed
    rw [failed] at isShown
    exact isShown
  · intro merged mergedTo together
    have ordered := Settings.ordered_of_load mergedTo loaded together
    rwa [Number.atMost_eq_not_less accepted.xMin accepted.xMax, Bool.not_eq_false'] at ordered

/-- Half of a window is given over a profile without settings for the sampler, as an integer beside
the default bound, and is plotted. The whole of the doubles is too wide. -/
theorem plot_of_accepted_of_half_window :
    let document : Document :=
      some (.record [("profiles", .record [("half", .record [
        ("sampler", .null), ("cache", .record [("max_expressions", .int 2)])])])])
    (∃ settings before,
      Settings.load document (some "half") (.record [("sampler", .record
          [("x_min", .int 5), ("column_count", .int 3), ("y_limit", .float 2.5)])]) =
        .ok settings ∧
      (start settings none).runIn (.empty 256) = (.ok ⟨settings⟩, before) ∧
      let session : Session := ⟨settings⟩
      let workspace := session.afterTasks before
        [.plot "1/x" none none .null, .compile "x+", .panel "x" [] true, .evaluate "ln(x)" none]
      session.Reachable workspace ∧
        ∃ (expression : Expression Float) (segments : _) (kept : _) (value : _),
          Expression.compile "x" session.declared = .ok expression ∧
          ((session.plot "x" none none .null).runIn workspace).1 = .ok segments ∧
          ((session.panel "x" [("x", 7.0)] true).runIn workspace).1 =
            .ok (.accepted kept value segments)) ∧
    ∃ settings before,
      Settings.load document (some "half") (.record [("sampler", .record
          [("x_min", .float (-1.7e308)), ("x_max", .float 1.7e308)])]) = .ok settings ∧
      (start settings none).runIn (.empty 256) = (.ok ⟨settings⟩, before) ∧
      let session : Session := ⟨settings⟩
      let workspace := session.afterTasks before [.compile "x", .compile "x^2", .compile "x^3"]
      session.Reachable workspace ∧
        ∃ error, error.defect = .tooWide ∧
          ((session.plot "x" none none .null).runIn workspace).1 = .error (.window error) ∧
          ((session.panel "x" [] true).runIn workspace).1 = .error (.window error) := by
  intro document
  obtain ⟨expression, compiled, -⟩ := Expression.exists_identity
  constructor
  · have tested : (Settings.load document (some "half") (.record [("sampler", .record
          [("x_min", .int 5), ("column_count", .int 3), ("y_limit", .float 2.5)])])).toOption.any
        (fun settings => settings.parser.variableName == "x" &&
          decide (settings.cache.maxExpressions ≤ roomLimit) &&
          (Number.less settings.sampler.xMin settings.sampler.xMax &&
            settings.sampler.spanFinite?.toOption == some true)) = true := by
      decide +kernel
    obtain ⟨settings, before, loaded, started, reachable, declares, passed⟩ :=
      exists_begun_of_load tested
    rw [Bool.and_eq_true, beq_iff_eq] at passed
    have plottable : settings.sampler.IsPlottable :=
      ⟨passed.1, Outcome.toOption_eq_some_iff.mp passed.2⟩
    rw [← declares] at compiled
    refine ⟨settings, before, loaded, started, reachable.afterTasks _, ?_⟩
    obtain ⟨plotted_iff, shows, -⟩ :=
      plot_of_accepted loaded (reachable.afterTasks _) compiled [("x", 7.0)]
    obtain ⟨segments, plotted⟩ := plotted_iff.mpr plottable
    obtain ⟨kept, value, -, shown⟩ := shows segments plotted
    exact ⟨expression, segments, kept, value, compiled, plotted, shown⟩
  · have tested : (Settings.load document (some "half") (.record [("sampler", .record
          [("x_min", .float (-1.7e308)), ("x_max", .float 1.7e308)])])).toOption.any
        (fun settings => settings.parser.variableName == "x" &&
          decide (settings.cache.maxExpressions ≤ roomLimit) &&
          (Number.less settings.sampler.xMin settings.sampler.xMax &&
            settings.sampler.spanFinite?.toOption == some false)) = true := by
      decide +kernel
    obtain ⟨settings, before, loaded, started, reachable, declares, passed⟩ :=
      exists_begun_of_load tested
    rw [Bool.and_eq_true, beq_iff_eq] at passed
    have obstacle : settings.sampler.Obstacle .tooWide :=
      .tooWide passed.1 (Outcome.toOption_eq_some_iff.mp passed.2)
    rw [← declares] at compiled
    refine ⟨settings, before, loaded, started, reachable.afterTasks _, ?_⟩
    obtain ⟨-, -, failed_iff, fails, -⟩ :=
      plot_of_accepted loaded (reachable.afterTasks _) compiled []
    have failed := (failed_iff _).mpr ⟨_, obstacle, rfl⟩
    exact ⟨_, rfl, failed, fails _ failed⟩

/-- A left bound that is given alone, over a profile without settings for the sampler, may lie to
the right of the default. It is accepted and cannot be plotted. -/
theorem not_plotted_of_reversed_bounds :
    ∃ settings after,
      Settings.load
          (some (.record [("profiles", .record [("half", .record [("sampler", .null)])])]))
          (some "half") (.record [("sampler", .record [("x_min", .int 100)])]) = .ok settings ∧
      (start settings none).runIn (.empty 256) = (.ok ⟨settings⟩, after) ∧
      (∃ expression : Expression Float,
        Expression.compile "x" (Session.declared ⟨settings⟩) = .ok expression) ∧
      ∃ error, ((plot ⟨settings⟩ "x" none none .null).runIn after).1 = .error (.window error) ∧
        error.defect = .boundsReversed := by
  have tested : (Settings.load
        (some (.record [("profiles", .record [("half", .record [("sampler", .null)])])]))
        (some "half") (.record [("sampler", .record [("x_min", .int 100)])])).toOption.any
      (fun settings => settings.parser.variableName == "x" &&
        decide (settings.cache.maxExpressions ≤ roomLimit) &&
        !Number.less settings.sampler.xMin settings.sampler.xMax) = true := by
    decide +kernel
  obtain ⟨settings, after, loaded, started, reachable, declares, passed⟩ :=
    exists_begun_of_load tested
  have obstacle : settings.sampler.Obstacle .boundsReversed :=
    .reversed (by simpa using passed)
  obtain ⟨expression, compiled, -⟩ := Expression.exists_identity
  rw [← declares] at compiled
  obtain ⟨_, _, -, -, plotted⟩ := reachable.exists_runIn_panel_of_plot reachable compiled []
  have refused :=
    segments_of_obstacle (Settings.accepted_of_load loaded).sampler obstacle expression
  exact ⟨settings, after, loaded, started, ⟨expression, compiled⟩, _, plotted.trans refused, rfl⟩

end Session
end Calculator
