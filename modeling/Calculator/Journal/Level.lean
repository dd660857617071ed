/-!
# Levels of importance

The levels of journal entries and the thresholds below which entries are not
printed.
-/

namespace Calculator

/-- How important an entry is. -/
inductive Level
  | debug
  | info
  | warning
  | error
  | critical
  deriving DecidableEq, Repr

namespace Level

/-- The name of a level. -/
def label : Level → String
  | .debug => "debug"
  | .info => "info"
  | .warning => "warning"
  | .error => "error"
  | .critical => "critical"

/-- The level of a name. -/
def ofLabel? : String → Option Level
  | "debug" => some .debug
  | "info" => some .info
  | "warning" => some .warning
  | "warn" => some .warning
  | "error" => some .error
  | "critical" => some .critical
  | "fatal" => some .critical
  | _ => none

/-- The weight of a level. -/
def rank : Level → Nat
  | .debug => 10
  | .info => 20
  | .warning => 30
  | .error => 40
  | .critical => 50

/-- A letter in upper case. Two letters outside ASCII have an ASCII letter as
their upper case. -/
def upperLetter (c : Char) : Char :=
  if c = 'ı' then 'I' else if c = 'ſ' then 'S' else c.toUpper

/-- The least rank that is printed under a threshold of the given name, in
letters of either case. -/
def threshold? (name : String) : Option Nat :=
  match String.ofList (name.toList.map upperLetter) with
  | "CRITICAL" => some 50
  | "FATAL" => some 50
  | "ERROR" => some 40
  | "WARNING" => some 30
  | "WARN" => some 30
  | "INFO" => some 20
  | "DEBUG" => some 10
  | "NOTSET" => some 0
  | _ => none

end Level

end Calculator
