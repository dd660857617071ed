import Calculator.Expression.Function
import Calculator.Expression.Lexer
import Calculator.Value.Text

/-!
# Variable names

An expression has one variable, named by ASCII letters and not like a constant
or a function.
-/

namespace Calculator

/-- Why a value names no variable. -/
inductive VariableError
  | notLetters (value : Value)
  | reserved (name : String)

namespace VariableError

/-- The value that was refused. -/
def value : VariableError → Value
  | .notLetters value => value
  | .reserved name => .text name

/-- The wording of the error. -/
def message : VariableError → String
  | .notLetters value => "Variable name must be ASCII letters, got " ++ value.inspect
  | .reserved name => "Variable name '" ++ name ++ "' collides with a built-in name"

end VariableError

namespace Variable

/-- The name that variables have unless another is chosen. -/
def standard : String := "x"

/-- Whether a text is one or more ASCII letters. -/
def isWord (text : String) : Bool :=
  !text.toList.isEmpty && text.toList.all Lexer.isLetter

/-- The variable that a value names. -/
def check : Value → Except VariableError String
  | .text name =>
      if !isWord name then .error (.notLetters (.text name))
      else if reservedNames.contains name then .error (.reserved name)
      else .ok name
  | value => .error (.notLetters value)

/-- A usable variable is named by a word that is not reserved. -/
theorem check_eq_ok_iff
    {declared : Value}
    {name : String} :
    Variable.check declared = .ok name ↔
      declared = .text name ∧ isWord name = true ∧ name ∉ reservedNames := by
  constructor
  · intro checked
    cases declared with
    | text text =>
        rw [check] at checked
        split at checked
        · cases checked
        rename_i word
        split at checked
        · cases checked
        rename_i unreserved
        cases checked
        exact ⟨rfl, by simpa using word, by simpa using unreserved⟩
    | _ => cases checked
  · rintro ⟨rfl, word, unreserved⟩
    simp [check, word, unreserved]

end Variable

end Calculator
