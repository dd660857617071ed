import Calculator.Analysis.Newton
import Calculator.Value.Basic

/-!
# Settings

The settings of the calculator in five sections, their defaults and the record
that lists them in order.
-/

namespace Calculator

/-- The variable of expressions. -/
structure ParserSettings where
  variableName : String := "x"

/-- The plot window and the jump that breaks a segment. -/
structure SamplerSettings where
  xMin : Number Float := .real (-10.0)
  xMax : Number Float := .real 10.0
  columnCount : Nat := 800
  yLimit : Option (Number Float) := none

/-- The steps of numeric calculus. -/
structure CalculusSettings where
  derivativeStep : Number Float := .real 1e-5
  simpsonIntervals : Nat := 1000
  limitStep : Number Float := .real 1e-6
  limitTolerance : Number Float := .real 1e-4

/-- The room for compiled expressions. -/
structure CacheSettings where
  maxExpressions : Nat := 256

/-- All settings. -/
structure Settings where
  parser : ParserSettings := {}
  sampler : SamplerSettings := {}
  rootFinder : RootSearch Float := .standard
  calculus : CalculusSettings := {}
  cache : CacheSettings := {}

namespace ParserSettings

/-- The settings as a record. -/
def toEntries (settings : ParserSettings) : Entries :=
  [("variable", .text settings.variableName)]

end ParserSettings

namespace SamplerSettings

/-- The settings as a record. -/
def toEntries (settings : SamplerSettings) : Entries :=
  [("x_min", .ofNumber settings.xMin),
    ("x_max", .ofNumber settings.xMax),
    ("column_count", .int settings.columnCount),
    ("y_limit", .ofOption .ofNumber settings.yLimit)]

end SamplerSettings

namespace RootSearch

/-- The settings as a record. -/
def toEntries (settings : RootSearch Float) : Entries :=
  [("initial_guess", .ofNumber settings.initialGuess),
    ("tolerance", .ofNumber settings.tolerance),
    ("max_iterations", .int settings.maxIterations),
    ("derivative_floor", .ofNumber settings.derivativeFloor)]

end RootSearch

namespace CalculusSettings

/-- The settings as a record. -/
def toEntries (settings : CalculusSettings) : Entries :=
  [("derivative_step", .ofNumber settings.derivativeStep),
    ("simpson_intervals", .int settings.simpsonIntervals),
    ("limit_step", .ofNumber settings.limitStep),
    ("limit_tolerance", .ofNumber settings.limitTolerance)]

end CalculusSettings

namespace CacheSettings

/-- The settings as a record. -/
def toEntries (settings : CacheSettings) : Entries :=
  [("max_expressions", .int settings.maxExpressions)]

end CacheSettings

namespace Settings

/-- The defaults. -/
def standard : Settings := {}

/-- The settings as a record of records. -/
def toEntries (settings : Settings) : Entries :=
  [("parser", .record settings.parser.toEntries),
    ("sampler", .record settings.sampler.toEntries),
    ("root_finder", .record settings.rootFinder.toEntries),
    ("calculus", .record settings.calculus.toEntries),
    ("cache", .record settings.cache.toEntries)]

end Settings

end Calculator
