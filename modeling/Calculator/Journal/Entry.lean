import Calculator.Failure.Diagnostic
import Calculator.Journal.Level
import Calculator.Plot.Window
import Calculator.Value.Basic

/-!
# Journal entries

What the calculator notes about its work: an event with a level and fields, and
the form in which an entry is printed.
-/

namespace Calculator

/-- A note about an event. -/
structure JournalEntry where
  level : Level
  event : String
  fields : Entries

/-- The part of the calculator that keeps a journal. -/
inductive Subsystem
  | plain
  | rootFinder
  | expression
  deriving DecidableEq, Repr

/-- The fields that a part of the calculator adds to all its entries. -/
def Subsystem.fields : Subsystem → Entries
  | .plain => []
  | .rootFinder => [("subsystem", .text "root_finder")]
  | .expression => [("subsystem", .text "expression")]

namespace JournalEntry

/-- The note that an expression was sampled. -/
def sampled (source : String) (xMin xMax : Number Float) (columnCount : Value)
    (segmentCount : Nat) : JournalEntry :=
  let fields : Entries :=
    [("source", .text source), ("x_min", .ofNumber xMin), ("x_max", .ofNumber xMax),
      ("column_count", columnCount), ("segment_count", .int segmentCount)]
  ⟨.debug, "Expression sampled", Subsystem.expression.fields ++ fields⟩

/-- The note of an expression that was refused. -/
def refused (event source : String) (diagnostic : Diagnostic) : JournalEntry :=
  ⟨.warning, event,
    [("source", .text source), ("error_type", .text diagnostic.category.label),
      ("error", .text diagnostic.message),
      ("position", (diagnostic.details.find? "position").getD .null)]⟩

/-- The note that a calculator is ready. -/
def ready (profile : Option Key) (variableName : String) (room : Nat) : JournalEntry :=
  ⟨.info, "Calculation kernel initialized",
    [("profile", .ofOption Key.toValue profile), ("variable", .text variableName),
      ("cache_size", .int room)]⟩

end JournalEntry

/-- What a search reports about its end. -/
structure SolverOutcome where
  solver : Value
  converged : Bool
  value : Value
  iterations : Value
  reason : Value
  context : Value

namespace SolverOutcome

/-- The fields of an outcome. A reason that is null and a context that is empty
are left out. -/
def fields (outcome : SolverOutcome) : Entries :=
  let result := if outcome.converged then "CONVERGED" else "NO_CONVERGENCE"
  let estimate : Entries :=
    [("solver", outcome.solver), ("solver_result", .text result), ("value", outcome.value),
      ("iterations", outcome.iterations)]
  let reason : Entries := match outcome.reason with
    | .null => []
    | reason => [("reason", reason)]
  let context : Entries :=
    if outcome.context.isTruthy then [("context", outcome.context)] else []
  estimate ++ reason ++ context

/-- The note of an outcome. -/
def entry (subsystem : Subsystem) (outcome : SolverOutcome) : JournalEntry :=
  let fields := subsystem.fields ++ outcome.fields
  if outcome.converged then ⟨.info, "Solver converged", fields⟩
  else ⟨.warning, "Solver did not converge", fields⟩

/-- The outcome of the search for the rate of return of a series. -/
def ofRate (result : Iteration Float) (periods : Nat) : SolverOutcome where
  solver := .text "irr"
  converged := result.converged
  value := .ofNumber result.value
  iterations := .int result.iterations
  reason := .ofOption (fun reason => .text (StopReason.label reason)) result.reason
  context := .record [("periods", .int periods)]

end SolverOutcome

/-- What a printed journal shows besides the entries. -/
structure JournalFormat where
  threshold : Nat
  timestamp : Bool
  caller : Bool
  extra : Bool

namespace JournalFormat

/-- The name that a journal prints for itself. -/
def shownName (name : String) : String :=
  if name.isEmpty then "root" else name

/-- The fields of a printed line. What varies from run to run is shown as
true. -/
def marks (format : JournalFormat) : Entries :=
  let names := (if format.timestamp then ["timestamp"] else []) ++
    (if format.caller then ["filename", "lineno"] else []) ++
    (if format.extra then ["extra"] else [])
  names.map fun name => (Key.text name, .bool true)

/-- The line that an entry is printed as, unless it lies below the threshold.
The event, the name of the journal and the level replace fields of their
names. -/
def line? (format : JournalFormat) (name : String) (entry : JournalEntry) : Option Entries :=
  if entry.level.rank < format.threshold then none
  else
    let heading : Entries :=
      [("event", .text entry.event), ("logger", .text (shownName name)),
        ("level", .text entry.level.label)]
    some (Entries.ofPairs (entry.fields ++ heading ++ format.marks))

end JournalFormat

end Calculator
