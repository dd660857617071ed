import Calculator.Session.Panel

/-!
# Sessions

A calculator under fixed settings, with a memo of its own. Every calculation
takes its variable, its plot window and its steps from the settings.
-/

namespace Calculator

/-- A calculator under fixed settings. -/
structure Session where
  settings : Settings

namespace Session

/-- The largest number of entries that a memo can count. -/
def roomLimit : Nat := powerOfTwo 63 - 1

/-- Begin a session in an empty workspace. -/
def start (settings : Settings) (profile : Option Key) : Action Session := do
  let room := settings.cache.maxExpressions
  if roomLimit < room then throw .capacity
  set (⟨.empty room, (← get).journal⟩ : Workspace)
  Action.note (.ready profile settings.parser.variableName room)
  return ⟨settings⟩

/-- The variable of a session as a value. -/
def declared (session : Session) : Value :=
  .text session.settings.parser.variableName

/-- Compile a source. A source that is no expression is noted. -/
def compile (session : Session) (source : String) : Action KeptExpression :=
  tryCatch (Action.compile .positional source session.declared) fun failure => do
    match failure.expressionDiagnostic? with
    | some diagnostic =>
        Action.note (.refused "Expression compilation failed" source diagnostic)
    | none => pure ()
    throw failure

/-- The plot over the window of the settings. -/
def windowRequest (session : Session) : PlotRequest :=
  let sampler := session.settings.sampler
  ⟨sampler.xMin, sampler.xMax, .int sampler.columnCount, sampler.yLimit⟩

/-- Compile a source and compute what is shown of it, with or without a plot. -/
def panel (session : Session) (source : String) (bindings : Bindings Float)
    (plot : Bool) : Action Panel :=
  Action.panel source session.declared bindings
    (if plot then some session.windowRequest else none)

/-- The value of a source, with its variable bound if a value is given. -/
def evaluate (session : Session) (source : String) (x : Option Float) : Action Float := do
  let kept ← session.compile source
  let bindings := match x with
    | some value => [(kept.value.variableName, value)]
    | none => []
  Action.ofExcept .evaluation (kept.value.evaluate bindings)

/-- The plot of a source. What is not given comes from the settings. -/
def plot (session : Session) (source : String) (xMin xMax : Option (Number Float))
    (columnCount : Value) : Action (List (Segment Float)) := do
  let kept ← session.compile source
  let window := session.windowRequest
  let columns := match columnCount with
    | .null => window.columnCount
    | given => given
  Action.sample kept.value (xMin.getD window.xMin) (xMax.getD window.xMax) columns window.limit

/-- The rate of return of a series. -/
def solveRate (session : Session) (flows : List Float) : Action (Iteration Float) :=
  Action.internalRate session.settings.rootFinder flows

/-- The rate of return of a series in its text form. -/
def solveRateText (session : Session) (text : String) : Action (Iteration Float) := do
  session.solveRate (← Action.ofExcept .cashFlow (CashFlow.read text))

/-- The derivative of a source. -/
def derivative (session : Session) (source : String) (x : Float) : Action Float := do
  let kept ← session.compile source
  let h ← Action.ofExcept .distance
    (Difference.distance session.settings.calculus.derivativeStep)
  Action.ofExcept id (Difference.slope (Action.valueAt kept.value) x h)

/-- The integral of a source. -/
def integral (session : Session) (source : String) (lower upper : Float) : Action Float := do
  let kept ← session.compile source
  let mesh ← Action.ofExcept .mesh
    (Mesh.cut lower upper session.settings.calculus.simpsonIntervals)
  Action.ofExcept id (mesh.integral (Action.valueAt kept.value))

/-- The limit of a source, if it has one. -/
def limit (session : Session) (source : String) (x : Float) : Action (Option Float) := do
  let kept ← session.compile source
  let h ← Action.ofExcept .distance
    (Difference.distance session.settings.calculus.limitStep)
  Action.ofExcept id
    (Difference.limit (Action.valueAt kept.value) x h session.settings.calculus.limitTolerance)

end Session

end Calculator
