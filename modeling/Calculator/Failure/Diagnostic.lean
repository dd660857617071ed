import Calculator.Failure.Category
import Calculator.Analysis.Iteration
import Calculator.Value.Basic

/-!
# Diagnostics

A failure as it is reported: its category, a message and the details that its
category asks for.
-/

namespace Calculator

/-- A reported failure. A failed search also carries its outcome. -/
structure Diagnostic where
  category : Category
  message : String
  details : Entries
  outcome : Option (Iteration Float)

namespace Diagnostic

/-- The value of a detail when it is not given. The text of the token is that of
the identifier where there is one. -/
def missing (given : Entries) : String → Value
  | "errors" => .list []
  | "token_text" => (given.find? "identifier").getD .null
  | _ => .null

/-- The value of a detail. -/
def detail (given : Entries) (name : String) : Value :=
  match given.find? name with
  | some value => if name = "errors" && !value.isTruthy then .list [] else value
  | none => missing given name

/-- The context of a failure, which is an empty record when none is given. -/
def contextOf (given : Entries) : Value :=
  match given.find? "context" with
  | some value => if value.isTruthy then value else .record []
  | none => .record []

/-- Report a failure with the given details. What its category asks for and is
not given is null or empty. -/
def make (category : Category) (message : String) (given : Entries)
    (outcome : Option (Iteration Float)) : Diagnostic :=
  let asked := category.details.map fun name => (Key.text name, detail given name)
  let kind : Entries := match category.kind? with
    | some kind => [("kind", .text kind.label)]
    | none => []
  let reason : Entries := if category = .noConvergence then
      [("reason", .ofOption (fun reason => .text (StopReason.label reason))
        (outcome.bind Iteration.reason))]
    else []
  let context : Entries := [("context", contextOf given),
    ("recoverable", .bool category.isRecoverable)]
  ⟨category, message, asked ++ kind ++ reason ++ context, outcome⟩

/-- Whether a category takes all of the given details. -/
def accepts (category : Category) (given : Entries) : Bool :=
  given.all fun (key, _) =>
    match key with
    | .text name => name = "context" || category.details.contains name
    | _ => false

end Diagnostic

/-- What the user is told about a failure: its message, its sort and the
position in the source. -/
structure Notice where
  message : String
  kind : String
  position : Value

namespace Diagnostic

/-- What the user is told about a reported failure. -/
def notice (diagnostic : Diagnostic) : Notice :=
  ⟨diagnostic.message, diagnostic.category.noticeLabel,
    (diagnostic.details.find? "position").getD .null⟩

end Diagnostic

end Calculator
