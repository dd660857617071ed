import Calculator.Settings.Basic
import Calculator.Settings.Check
import Calculator.Settings.Overlay

/-!
# Profiles

Named sets of settings from a configuration document. Settings are put together
from the defaults, a profile and further overrides, each laid over the one
before, and then checked.
-/

namespace Calculator

/-- Why settings cannot be loaded. -/
inductive SettingsFailure
  /-- A rule is broken. -/
  | rejected (profile : Option Key) (errors : List SettingError)
  /-- A value does not have the shape of settings. -/
  | shape (fault : ShapeFault)

/-- A configuration document, absent when there is none. -/
abbrev Document := Option Value

namespace Document

/-- A value unless it is empty, and the empty record then. -/
def orEmpty (value : Value) : Value :=
  if value.isTruthy then value else .record []

/-- The profiles of a document. -/
def profiles : Document → Except ShapeFault Value
  | none => .ok (.record [])
  | some content => do
      let entries ← (orEmpty content).entries
      return orEmpty ((entries.find? "profiles").getD .null)

/-- The names in the value of the profiles: the keys of a record, or the
characters of a text. -/
def namesIn : Value → Except ShapeFault (List Key)
  | .record entries => .ok (Entries.keys entries)
  | .text text => .ok (text.toList.map fun c => .text c.toString)
  | _ => .error .noMember

/-- The names of the profiles in increasing order. -/
def profileNames (document : Document) : Except ShapeFault (List Key) := do
  let names ← namesIn (← document.profiles)
  match Key.sorted? names with
  | some sorted => return sorted
  | none => throw .noOrder

/-- The settings of a profile, none for an unknown one. -/
def profile (document : Document) (name : Key) : Except ShapeFault Value := do
  let entries ← (← document.profiles).entries
  return (entries.find? name).getD (.record [])

/-- The profiles that the calculator comes with. -/
def shipped : Document :=
  some (.record [("profiles", .record [
    ("graphing-hires", .record [
      ("sampler", .record [("column_count", .int 1920)])]),
    ("graphing-asymptotes", .record [
      ("sampler", .record [("y_limit", .float 1000.0)])]),
    ("irr-preview", .record [
      ("root_finder", .record [
        ("tolerance", .float 1.0e-6),
        ("max_iterations", .int 100)])])])])

end Document

namespace Settings

/-- Lay a value over a record of settings. -/
def layer (base : Entries) (upper : Value) : Except ShapeFault Entries :=
  upper.entries.map (base.overlay ·)

/-- The defaults under a profile and overrides. A name that is empty, zero or
null and overrides that are empty change nothing. -/
def merge (document : Document) (profile : Option Key) (overrides : Value) :
    Except ShapeFault Entries := do
  let base := standard.toEntries
  let named ← match profile with
    | some name => if name.isTruthy then layer base (← document.profile name) else pure base
    | none => pure base
  if overrides.isTruthy then layer named overrides else return named

/-- The number at a key, or a default. -/
def numberOr (entries : Entries) (key : String) (default : Number Float) : Number Float :=
  ((entries.find? key).bind Value.number?).getD default

/-- The positive integer at a key, or a default. -/
def integerOr (entries : Entries) (key : String) (default : Nat) : Nat :=
  ((entries.find? key).bind Value.positiveInteger?).getD default

/-- The settings of the parser in a record that has passed its check. -/
def readParser (entries : Entries) : ParserSettings where
  variableName :=
    match entries.find? "variable" with
    | some (.text name) => name
    | _ => standard.parser.variableName

/-- The settings of the sampler in a record that has passed its check. -/
def readSampler (entries : Entries) : SamplerSettings where
  xMin := numberOr entries "x_min" standard.sampler.xMin
  xMax := numberOr entries "x_max" standard.sampler.xMax
  columnCount := integerOr entries "column_count" standard.sampler.columnCount
  yLimit := (entries.find? "y_limit").bind Value.number?

/-- The settings of root finding in a record that has passed its check. -/
def readRootFinder (entries : Entries) : RootSearch Float where
  initialGuess := numberOr entries "initial_guess" standard.rootFinder.initialGuess
  tolerance := numberOr entries "tolerance" standard.rootFinder.tolerance
  maxIterations := integerOr entries "max_iterations" standard.rootFinder.maxIterations.toNat
  derivativeFloor := numberOr entries "derivative_floor" standard.rootFinder.derivativeFloor

/-- The settings of calculus in a record that has passed its check. -/
def readCalculus (entries : Entries) : CalculusSettings where
  derivativeStep := numberOr entries "derivative_step" standard.calculus.derivativeStep
  simpsonIntervals := integerOr entries "simpson_intervals" standard.calculus.simpsonIntervals
  limitStep := numberOr entries "limit_step" standard.calculus.limitStep
  limitTolerance := numberOr entries "limit_tolerance" standard.calculus.limitTolerance

/-- The room for expressions in a record that has passed its check. -/
def readCache (entries : Entries) : CacheSettings where
  maxExpressions := integerOr entries "max_expressions" standard.cache.maxExpressions

/-- The entries of a section, none when it is missing. -/
def sectionEntries (merged : Entries) (name : String) : Except ShapeFault Entries :=
  ((merged.find? name).getD (.record [])).entries

/-- The settings in a merged record that has passed its check. Keys without a
meaning are dropped. -/
def read (merged : Entries) : Except ShapeFault Settings := do
  return {
    parser := readParser (← sectionEntries merged "parser")
    sampler := readSampler (← sectionEntries merged "sampler")
    rootFinder := readRootFinder (← sectionEntries merged "root_finder")
    calculus := readCalculus (← sectionEntries merged "calculus")
    cache := readCache (← sectionEntries merged "cache") }

/-- Merge, check and read settings. Broken rules are reported with their values. -/
def load (document : Document) (profile : Option Key) (overrides : Value) :
    Except SettingsFailure Settings := do
  let merged ← (merge document profile overrides).mapError .shape
  let errors ← (check (.record merged)).mapError .shape
  if errors.isEmpty then (read merged).mapError .shape
  else do
    (SettingError.requireTexts errors).mapError .shape
    throw (.rejected profile errors)

end Settings

end Calculator
