import Calculator.Expression.Variable
import Calculator.Settings.Member

/-!
# Checking settings

The rules that a record of settings has to obey. A check lists all broken rules
in a fixed order, and it fails only on a value without the shape of settings.
-/

namespace Calculator

/-- A broken rule: the setting, what it must be, and what it is. -/
structure SettingError where
  field : String
  message : String
  value : Value

namespace SettingError

/-- A broken rule as a list of three values. -/
def toValue (error : SettingError) : Value :=
  .list [.text error.field, .text error.message, error.value]

/-- How a message refers to a broken rule. -/
def summary (error : SettingError) : String :=
  error.field ++ ": " ++ error.message ++ " (got: " ++ error.value.shown ++ ")"

/-- Broken rules can be reported only when their values have texts. -/
def requireTexts (errors : List SettingError) : Except ShapeFault Unit :=
  if errors.all fun error => error.value.isWritable then .ok () else .error .noText

end SettingError

/-- The outcome of a check. -/
abbrev CheckResult := Except ShapeFault (List SettingError)

namespace Setting

/-- Whether a value is a finite number. -/
def isFinite (value : Value) : Except Fault Bool :=
  match value.number? with
  | some number => number.isFinite?
  | none => .ok false

/-- Whether a value is a number that is not at or below the given bound. -/
def isNotAtMost (bound : Int) (value : Value) : Bool :=
  match value.number? with
  | some number => !number.atMost (.int bound)
  | none => false

/-- Whether a value is a number that is not below the given bound. -/
def isNotBelow (bound : Int) (value : Value) : Bool :=
  match value.number? with
  | some number => !number.less (.int bound)
  | none => false

/-- Whether a value is an integer of at least the given size, which is positive
itself. -/
def isInteger (least : Nat) (value : Value) : Bool :=
  match value.positiveInteger? with
  | some n => least ≤ n
  | none => false

/-- Whether a value is a finite number above minus one. -/
def isRate (value : Value) : Except Fault Bool := do
  return (← isFinite value) && isNotAtMost (-1) value

/-- The rule that a setting, where present, has to pass a test. -/
def rule (given : Value) (field message : String) (passes : Value → Except Fault Bool) :
    CheckResult := do
  match ← given.member? field with
  | none => return []
  | some value =>
      if ← (passes value).mapError .arithmetic then return []
      else return [⟨field, message, value⟩]

/-- The rule of a test that never fails. -/
def simpleRule (given : Value) (field message : String) (passes : Value → Bool) :
    CheckResult :=
  rule given field message fun value => .ok (passes value)

end Setting

namespace Settings

open Setting

/-- The name of the variable. -/
def checkParser (given : Value) : CheckResult := do
  match ← given.member? "variable" with
  | none => return []
  | some value =>
      match Variable.check value with
      | .ok _ => return []
      | .error (.notLetters _) =>
          return [⟨"variable", "Must be a non-empty alphabetic name", value⟩]
      | .error (.reserved _) =>
          return [⟨"variable", "Must not be a built-in constant or function name", value⟩]

/-- The left bound of a window has to lie before the right one. -/
def checkOrder (entries : Entries) : List SettingError :=
  let bounds := (entries.find? "x_min", entries.find? "x_max")
  match bounds with
  | (some left, some right) =>
      match left.number?, right.number? with
      | some xMin, some xMax =>
          if xMax.atMost xMin then [⟨"x_max", "Must be greater than x_min", right⟩] else []
      | _, _ => []
  | _ => []

/-- A jump limit, where there is one, has to be positive. -/
def checkJumpLimit (entries : Entries) : List SettingError :=
  match entries.find? "y_limit" with
  | none => []
  | some .null => []
  | some value =>
      if isNotAtMost 0 value then []
      else [⟨"y_limit", "Must be a positive number or null", value⟩]

/-- The plot window and the jump limit. -/
def checkSampler (given : Value) : CheckResult := do
  let left ← rule given "x_min" "Must be a finite number" isFinite
  let right ← rule given "x_max" "Must be a finite number" isFinite
  let entries ← given.entries
  let order := checkOrder entries
  let columns ←
    simpleRule given "column_count" "Must be a positive integer" (isInteger 1)
  return left ++ right ++ order ++ columns ++ checkJumpLimit entries

/-- The search for roots. -/
def checkRootFinder (given : Value) : CheckResult := do
  let guess ←
    rule given "initial_guess" "Must be a finite number greater than -1" isRate
  let tolerance ←
    simpleRule given "tolerance" "Must be a positive number" (isNotAtMost 0)
  let limit ←
    simpleRule given "max_iterations" "Must be a positive integer" (isInteger 1)
  let floor ←
    simpleRule given "derivative_floor" "Must be a non-negative number" (isNotBelow 0)
  return guess ++ tolerance ++ limit ++ floor

/-- The steps of numeric calculus. -/
def checkCalculus (given : Value) : CheckResult := do
  let steps ← ["derivative_step", "limit_step", "limit_tolerance"].mapM fun field =>
    simpleRule given field "Must be a positive number" (isNotAtMost 0)
  let intervals ←
    simpleRule given "simpson_intervals" "Must be an integer of at least 2" (isInteger 2)
  return steps.flatten ++ intervals

/-- The room for compiled expressions. -/
def checkCache (given : Value) : CheckResult :=
  simpleRule given "max_expressions" "Must be a positive integer" (isInteger 1)

/-- The sections with their checks, in order. -/
def sections : List (String × (Value → CheckResult)) :=
  [("parser", checkParser),
    ("sampler", checkSampler),
    ("root_finder", checkRootFinder),
    ("calculus", checkCalculus),
    ("cache", checkCache)]

/-- Check every section that is present. -/
def check (value : Value) : CheckResult := do
  let errors ← sections.mapM fun (name, checkSection) => do
    match ← value.member? name with
    | none => return []
    | some given => checkSection given
  return errors.flatten

end Settings

end Calculator
