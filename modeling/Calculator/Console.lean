import Calculator.Session.Basic

/-!
# Console programs

Two programs that print what the settings hold: one checks all profiles, the
other shows the defaults, the profiles and some overrides at work.
-/

namespace Calculator
namespace Console

/-- The lines that a program prints and its exit code, if it sets one. -/
structure Printout where
  lines : List String
  exitCode : Option Nat

/-- The lines for the check of one profile, and whether it passed. -/
def profileLines (document : Document) (profile : Key) :
    Except ShapeFault (List String × Bool) := do
  let merged ← Settings.merge document (some profile) .null
  let errors ← Settings.check (.record merged)
  let opening := ["", "📊 Validating " ++ profile.shown ++ "..."]
  if errors.isEmpty then
    return (opening ++ ["✅ " ++ profile.shown ++ " configuration is valid"], true)
  else
    SettingError.requireTexts errors
    let listed := errors.map fun error =>
      "  • " ++ error.field ++ ": " ++ error.message ++ " (value: " ++ error.value.shown ++ ")"
    let count := "❌ Found " ++ toString errors.length ++ " validation errors:"
    return (opening ++ count :: listed, false)

/-- The overrides that the check tries. -/
def trialOverrides : Value :=
  .record [
    ("sampler", .record [("x_min", .float (-1.0)), ("x_max", .float 1.0),
      ("column_count", .int 200)]),
    ("root_finder", .record [("max_iterations", .int 50)])]

/-- The lines for broken rules, without the values. -/
def ruleLines (indent : String) (errors : List SettingError) : List String :=
  errors.map fun error => indent ++ error.field ++ ": " ++ error.message

/-- The lines for the trial of overrides, and whether it passed. -/
def trialLines (document : Document) : Except ShapeFault (List String × Bool) :=
  let opening := ["", "📋 Testing per-call overrides..."]
  match Settings.load document (some "graphing-asymptotes") trialOverrides with
  | .ok settings =>
      let limit := (Value.ofOption Value.ofNumber settings.sampler.yLimit).shown
      let passed := "✅ Override build passed (column_count="
        ++ toString settings.sampler.columnCount ++ ", y_limit=" ++ limit ++ ")"
      .ok (opening ++ [passed], true)
  | .error (.rejected _ errors) =>
      .ok (opening ++ "❌ Override validation failed:" :: ruleLines "  • " errors, false)
  | .error (.shape fault) => .error fault

/-- Check all profiles and one that does not exist. -/
def check (document : Document) : Except ShapeFault Printout := do
  let names := (← document.profileNames) ++ [Key.text "unknown-profile"]
  let profiles ← names.mapM (profileLines document)
  let (trial, trialPassed) ← trialLines document
  let allPassed := profiles.all Prod.snd && trialPassed
  let closing :=
    if allPassed then "🎉 All configuration validation passed!"
    else "❌ Configuration validation failed!"
  return ⟨"🔍 Validating calc-kernel configuration..." :: (profiles.map Prod.fst).flatten
      ++ trial ++ ["", closing],
    some (if allPassed then 0 else 1)⟩

/-- A rule under a heading. -/
def ruler : String :=
  String.ofList (List.replicate 50 '=')

/-- The lines for the default settings. -/
def defaultLines : List String :=
  let listed := Settings.standard.toEntries.flatMap fun (name, given) =>
    let fields := match given with
      | .record entries => entries
      | _ => []
    ("   " ++ name.shown ++ ":") ::
      fields.map fun (field, value) => "      " ++ field.shown ++ ": " ++ value.shown
  "⚙️ DEFAULT CONFIGURATION" :: ruler :: listed ++ [""]

/-- The series whose rate of return the demonstration shows. -/
def previewSeries : String := "-10000, 2000, 3000, 4000, 5000"

/-- The line for the rate of return under the preview profile. -/
def previewLine (document : Document) : Action String := do
  let settings ← Action.ofExcept .settings (Settings.load document (some "irr-preview") .null)
  let session ← Session.start settings (some "irr-preview")
  let result ← session.solveRateText previewSeries
  let percentage := (result.percentage.map (Double.fixed 6)).getD (Value.inspect .null)
  return "   irr-preview IRR: " ++ percentage ++ "% in " ++ toString result.iterations
    ++ " iterations"

/-- The lines for the profiles. -/
def demonstratedProfiles (document : Document) : Action (List String) := do
  let shape := fun fault => Failure.settings (.shape fault)
  let names ← Action.ofExcept shape document.profileNames
  let listed ← Action.ofExcept shape <| names.mapM fun name => do
    return "   " ++ name.shown ++ ": " ++ (← document.profile name).shown
  return "📁 PROFILES" :: ruler :: listed ++ [← previewLine document, ""]

/-- Overrides of the plot window. -/
def windowOverrides (xMin xMax : Float) : Value :=
  .record [("sampler", .record [("x_min", .float xMin), ("x_max", .float xMax)])]

/-- The lines for overrides that are refused. -/
def refusedLines (document : Document) : Except SettingsFailure (List String) :=
  match Settings.load document none (windowOverrides 5.0 5.0) with
  | .ok _ => .ok []
  | .error (.rejected _ errors) =>
      .ok ("   Rejected configuration:" :: ruleLines "      " errors)
  | .error failure => .error failure

/-- The lines for overrides. -/
def overrideLines (document : Document) : Except SettingsFailure (List String) := do
  let settings ← Settings.load document (some "graphing-hires") (windowOverrides 0.0 1.0)
  let sampler := settings.sampler
  let window := "   Override window: [" ++ sampler.xMin.text ++ ", " ++ sampler.xMax.text
    ++ "], " ++ toString sampler.columnCount ++ " columns"
  return "✅ OVERRIDES AND VALIDATION" :: ruler :: window :: (← refusedLines document) ++ [""]

/-- Show the defaults, the profiles and some overrides. -/
def demonstrate (document : Document) : Action Printout := do
  let profiles ← demonstratedProfiles document
  let overrides ← Action.ofExcept .settings (overrideLines document)
  return ⟨defaultLines ++ profiles ++ overrides
      ++ ["✅ Configuration demo completed successfully!"],
    none⟩

/-- The program of a command. -/
def program? (command : String) (document : Document) : Option (Action Printout) :=
  match command with
  | "check" => some (Action.ofExcept (fun fault => .settings (.shape fault)) (check document))
  | "demonstrate" => some (demonstrate document)
  | _ => none

end Console
end Calculator
