import Calculator.Analysis.Difference
import Calculator.Analysis.Simpson
import Calculator.Expression.Basic
import Calculator.Failure.Diagnostic
import Calculator.Finance.CashFlow
import Calculator.Finance.Option
import Calculator.Plot.Window
import Calculator.Settings.Profile

/-!
# Failures

Everything that can go wrong in a calculation, and how each failure is
reported. Most failures have a category. The others are misuses that only their
sort and sometimes a message tell apart.
-/

namespace Calculator

/-- Why a calculation fails. -/
inductive Failure
  | compile (error : CompileError)
  | evaluation (error : EvaluationError)
  | window (error : WindowError Float)
  | distance (error : DistanceError Float)
  | mesh (error : MeshError Float)
  | option (error : OptionError Float)
  | cashFlow (error : CashFlowError)
  | unsolved (result : Iteration Float)
  | settings (failure : SettingsFailure)
  | arithmetic (fault : Fault)
  /-- A value that cannot be a key names the variable. -/
  | unusableKey
  /-- A memo is to hold more entries than can be counted. -/
  | capacity
  /-- There is no level of the given name. -/
  | unknownLevel

/-- How a failure is reported. -/
inductive Report
  | diagnostic (diagnostic : Diagnostic)
  | badValue (message : String)
  | overflow (message : String)
  | zeroDivision (message : String)
  | badType
  | badAttribute

namespace Report

/-- Report a failure of a category. -/
def failure (category : Category) (message : String) (given : Entries) : Report :=
  .diagnostic (Diagnostic.make category message given none)

/-- Report an arithmetic fault. -/
def ofFault (fault : Fault) : Report :=
  match fault with
  | .domain => .badValue fault.message
  | .undefinedProbability => .badValue fault.message
  | .range => .overflow fault.message
  | .integerTooLarge => .overflow fault.message
  | .zeroDivisor => .zeroDivision fault.message

end Report

namespace LexicalError

/-- Report a source without tokens. -/
def diagnostic (error : LexicalError) : Diagnostic :=
  Diagnostic.make .lexical error.message
    [("position", .int error.position), ("character", .text error.character.toString)] none

end LexicalError

namespace ParseError

/-- The details of an error beyond its place and token. -/
def ownDetails : ParseError → Entries
  | .unknownIdentifier token => [("identifier", .text token.text)]
  | .tooDeep _ => [("limit", .int nestingLimit)]
  | _ => []

/-- Report tokens that form no expression. -/
def diagnostic (error : ParseError) : Diagnostic :=
  let place : Entries :=
    [("position", .int error.position),
      ("token_text", .ofOption (fun token => .text token.text) error.token?)]
  Diagnostic.make (.ofKind error.kind) error.message (place ++ error.ownDetails) none

end ParseError

namespace VariableError

/-- Report a value that names no variable. The message holds the text of the value, so one
without a text is reported for the want of it. -/
def report (error : VariableError) : Report :=
  if error.value.isWritable then
    .failure .invalidParameter error.message
      [("parameter", .text "variable"), ("value", error.value)]
  else .badValue digitLimitMessage

end VariableError

namespace CompileError

/-- The diagnostic of a source that is not an expression. Other errors have
none. -/
def diagnostic? : CompileError → Option Diagnostic
  | .lexical error => some error.diagnostic
  | .parse (.grammar error) => some error.diagnostic
  | _ => none

/-- Report a source that does not compile. -/
def report : CompileError → Report
  | .lexical error => .diagnostic error.diagnostic
  | .unusableVariable error => error.report
  | .parse (.grammar error) => .diagnostic error.diagnostic
  | .parse (.unreadableNumber text) =>
      .badValue ("could not convert string to float: " ++ quoted text)
  | .parse .unfinished => .badValue "Token list must end with an END token"
  | .parse .exhausted => .badValue "Too many productions are active"

end CompileError

namespace EvaluationError

/-- Report a tree without a value. -/
def report : EvaluationError → Report
  | .unbound name bound =>
      .failure .unboundVariable ("No value bound for variable '" ++ name ++ "'")
        [("name", .text name), ("context", .record [("bound", .list (bound.map .text))])]
  | .unknownUnary operator => .badValue ("Unknown unary operator: " ++ operator)
  | .unknownBinary operator => .badValue ("Unknown binary operator: " ++ operator)
  | .unknownFunction name => .badValue ("Unknown function: " ++ name)
  | .notTree _ => .badType
  | .arithmetic fault => .ofFault fault
  | .underflow => .badType

end EvaluationError

namespace WindowError

/-- The wording for a window. -/
def message (error : WindowError Float) : String :=
  let columns := error.columnCount.inspect
  match error.defect with
  | .columnCount => "Column count must be a positive integer, got " ++ columns
  | .noText => digitLimitMessage
  | .boundsNotFinite => "Sampling window bounds must be finite"
  | .boundsReversed =>
      "x_min (" ++ error.xMin.text ++ ") must be less than x_max (" ++ error.xMax.text ++ ")"
  | .tooWide =>
      "Window [" ++ error.xMin.text ++ ", " ++ error.xMax.text
        ++ "] is too wide to sample in " ++ columns ++ " columns"
  | .arithmetic fault => fault.message

/-- Report a window that is refused. -/
def report (error : WindowError Float) : Report :=
  match error.defect with
  | .noText => .badValue error.message
  | .arithmetic fault => .ofFault fault
  | _ =>
      .failure .samplingRange error.message
        [("x_min", .ofNumber error.xMin), ("x_max", .ofNumber error.xMax),
          ("column_count", error.columnCount)]

end WindowError

namespace DistanceError

/-- Report a distance that is refused. -/
def report : DistanceError Float → Report
  | .notPositive distance =>
      .failure .invalidParameter "Step h must be positive"
        [("parameter", .text "h"), ("value", .ofNumber distance)]
  | .arithmetic fault => .ofFault fault

end DistanceError

namespace MeshError

/-- Report bounds of an integral that are refused. -/
def boundsReport (message : String) (lower upper : Float) : Report :=
  .failure .integrationRange message [("lower", .float lower), ("upper", .float upper)]

/-- Report an interval that is not cut. -/
def report : MeshError Float → Report
  | .boundsNotFinite lower upper =>
      boundsReport "Integration bounds must be finite" lower upper
  | .boundsReversed lower upper =>
      boundsReport
        ("Lower bound (" ++ Double.text lower ++ ") must be less than upper bound ("
          ++ Double.text upper ++ ")")
        lower upper
  | .tooFewParts parts =>
      .failure .invalidParameter "Simpson's rule needs at least 2 intervals"
        [("parameter", .text "intervals"), ("value", .int parts)]
  | .arithmetic fault => .ofFault fault

end MeshError

namespace OptionError

/-- Report an option without a price. -/
def report : OptionError Float → Report
  | .notPositive input value =>
      .failure .invalidParameter
        (input.label ++ " must be a positive finite number, got " ++ Double.text value)
        [("parameter", .text input.label), ("value", .float value)]
  | .rateNotFinite value =>
      .failure .invalidParameter "rate must be finite"
        [("parameter", .text OptionInput.rate.label), ("value", .float value)]
  | .arithmetic fault => .ofFault fault

end OptionError

namespace CashFlowError

/-- Report a text that is no series of cash flows. -/
def report (error : CashFlowError) : Report :=
  .failure .cashFlowFormat error.defect.message
    [("raw_data", .text error.source),
      ("index", .ofOption (fun index => .int (Int.ofNat index)) error.defect.index?)]

end CashFlowError

namespace Iteration

/-- Report a search without a usable estimate. -/
def report (result : Iteration Float) : Report :=
  .diagnostic (Diagnostic.make .noConvergence result.complaint
    [("context", .record [("iterations", .int result.iterations)])] (some result))

end Iteration

namespace ShapeFault

/-- Report a value without the shape of settings. -/
def report : ShapeFault → Report
  | .noMember => .badType
  | .noEntries => .badAttribute
  | .noOrder => .badType
  | .noText => .badValue digitLimitMessage
  | .arithmetic fault => .ofFault fault

end ShapeFault

namespace SettingsFailure

/-- The wording for broken rules. -/
def message (errors : List SettingError) : String :=
  "Invalid kernel configuration: " ++ "; ".intercalate (errors.map SettingError.summary)

/-- Report settings that cannot be loaded. -/
def report : SettingsFailure → Report
  | .rejected profile errors =>
      .failure .configuration (message errors)
        [("errors", .list (errors.map SettingError.toValue)),
          ("context", .record [("profile", .ofOption Key.toValue profile)])]
  | .shape fault => fault.report

end SettingsFailure

namespace Failure

/-- Report a failure. -/
def report : Failure → Report
  | .compile error => error.report
  | .evaluation error => error.report
  | .window error => error.report
  | .distance error => error.report
  | .mesh error => error.report
  | .option error => error.report
  | .cashFlow error => error.report
  | .unsolved result => result.report
  | .settings failure => failure.report
  | .arithmetic fault => .ofFault fault
  | .unusableKey => .badType
  | .capacity => .overflow "cannot fit 'int' into an index-sized integer"
  | .unknownLevel => .badAttribute

/-- The diagnostic of an expression that does not compile. Other failures have
none. -/
def expressionDiagnostic? : Failure → Option Diagnostic
  | .compile error => error.diagnostic?
  | _ => none

end Failure

end Calculator
