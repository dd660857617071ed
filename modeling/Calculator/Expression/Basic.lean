import Calculator.Expression.Evaluation
import Calculator.Expression.Parser
import Calculator.Expression.Variable

/-!
# Compiled expressions

A source text together with its tree. The tree mentions the declared variable
or none.
-/

namespace Calculator

/-- Why a source text does not compile. -/
inductive CompileError
  | lexical (error : LexicalError)
  | unusableVariable (error : VariableError)
  | parse (failure : ParseFailure)

/-- An expression in one variable. -/
structure Expression (α : Type) where
  source : String
  root : Tree α
  variableName : String
  variableNames : List String

namespace Expression

variable {α : Type} [Elementary α]

/-- The tree of a list of tokens in the declared variable. -/
def treeOfTokens (declared : Value) (tokens : List Token) : Except CompileError (Tree α) := do
  let name ← (Variable.check declared).mapError .unusableVariable
  (Parser.parse name tokens).mapError .parse

/-- Compile a source text in the declared variable. The text is split into
tokens before the variable is looked at. -/
def compile (source : String) (declared : Value) : Except CompileError (Expression α) := do
  let tokens ← (Lexer.tokens source).mapError .lexical
  let name ← (Variable.check declared).mapError .unusableVariable
  let root ← (Parser.parse name tokens).mapError .parse
  return ⟨source, root, name, root.variableNames⟩

/-- A source compiles when each stage succeeds on what the one before made. -/
theorem compile_eq_ok_iff
    {source : String}
    {declared : Value}
    {expression : Expression α} :
    compile source declared = .ok expression ↔
      ∃ tokens name root,
        Lexer.tokens source = .ok tokens ∧ Variable.check declared = .ok name ∧
          Parser.parse name tokens = .ok root ∧
          expression = ⟨source, root, name, root.variableNames⟩ := by
  simp only [compile, Outcome.bind_eq_ok_iff, Outcome.mapError_eq_ok_iff]
  constructor
  · rintro ⟨tokens, scanned, name, checked, root, parsed, same⟩
    cases same
    exact ⟨tokens, name, root, scanned, checked, parsed, rfl⟩
  · rintro ⟨tokens, name, root, scanned, checked, parsed, rfl⟩
    exact ⟨tokens, scanned, name, checked, root, parsed, rfl⟩

/-- A source does not compile when one of the stages fails on what the ones before
made. -/
theorem compile_eq_error_iff
    {source : String}
    {declared : Value}
    {error : CompileError} :
    compile (α := α) source declared = .error error ↔
      (∃ cause, Lexer.tokens source = .error cause ∧ error = .lexical cause) ∨
        ∃ tokens, Lexer.tokens source = .ok tokens ∧
          ((∃ cause, Variable.check declared = .error cause ∧ error = .unusableVariable cause) ∨
            ∃ name, Variable.check declared = .ok name ∧
              ∃ failure, Parser.parse (α := α) name tokens = .error failure ∧
                error = .parse failure) := by
  simp only [compile, Outcome.bind_eq_error_iff, Outcome.mapError_eq_error_iff,
    Outcome.mapError_eq_ok_iff, Outcome.pure_eq_ok, reduceCtorEq, and_false, exists_false,
    or_false, eq_comm (a := error)]

/-- Whether an expression does not mention its variable. -/
def isConstant (expression : Expression α) : Bool :=
  expression.variableNames.isEmpty

/-- The value of an expression under bindings. -/
def evaluate (bindings : Bindings α) (expression : Expression α) : Except EvaluationError α :=
  expression.root.evaluate bindings

/-- The value of an expression at a value of its variable. -/
def at? (expression : Expression α) (x : α) : Except EvaluationError α :=
  expression.evaluate [(expression.variableName, x)]

end Expression

end Calculator
