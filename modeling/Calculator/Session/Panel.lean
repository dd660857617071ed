import Calculator.Session.Workspace

/-!
# Panels

What a panel shows after its expression has been edited: a value and a plot, or
a notice that the text is no expression.
-/

namespace Calculator

/-- A plot that is asked for. -/
structure PlotRequest where
  xMin : Number Float
  xMax : Number Float
  columnCount : Value
  limit : Option (Number Float)

namespace PlotRequest

/-- A plot is asked for when both bounds and the number of columns are given. -/
def ofParts (xMin xMax : Option (Number Float)) (columnCount : Value)
    (limit : Option (Number Float)) : Option PlotRequest :=
  match xMin, xMax, columnCount with
  | _, _, .null => none
  | some left, some right, columns => some ⟨left, right, columns, limit⟩
  | _, _, _ => none

end PlotRequest

/-- What is shown of an expression. -/
inductive Panel
  | accepted (kept : KeptExpression) (value : Option Float) (segments : List (Segment Float))
  | rejected (notice : Notice)

namespace Action

/-- The value of an expression where all its variables are bound. -/
def pointValue (bindings : Bindings Float) (expression : Expression Float) :
    Action (Option Float) := do
  if expression.variableNames.all fun name => (bindings.lookup name).isSome then
    return some (← ofExcept .evaluation (expression.evaluate bindings))
  else return none

/-- Compile a source and compute what is shown of it. A source that is no
expression is noted and gives a notice; every other failure stays one. -/
def panel (source : String) (declared : Value) (bindings : Bindings Float)
    (plot : Option PlotRequest) : Action Panel := do
  let compiled ← tryCatch (Except.ok <$> compile .positional source declared) fun failure =>
    match failure.expressionDiagnostic? with
    | some diagnostic => return Except.error diagnostic
    | none => throw failure
  match compiled with
  | .error diagnostic =>
      note (.refused "Expression rejected" source diagnostic)
      return .rejected diagnostic.notice
  | .ok kept =>
      let value ← pointValue bindings kept.value
      let segments ← match plot with
        | some request =>
            sample kept.value request.xMin request.xMax request.columnCount request.limit
        | none => pure []
      return .accepted kept value segments

end Action

end Calculator
