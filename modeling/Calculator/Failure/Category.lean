import Calculator.Expression.Parser

/-!
# Categories of failures

The categories that failures are reported under. Each belongs to one of three
families and may be a special case of another category.
-/

namespace Calculator

/-- A category of failures. -/
inductive Category
  | expression
  | lexical
  | parse
  | unmatchedParenthesis
  | unknownIdentifier
  | trailingTokens
  | emptyExpression
  | unexpectedToken
  | nestingTooDeep
  | unboundVariable
  | numeric
  | noConvergence
  | samplingRange
  | integrationRange
  | invalidParameter
  | inputFormat
  | cashFlowFormat
  | configuration
  deriving DecidableEq, Repr

namespace Category

/-- All categories. -/
def all : List Category :=
  [.expression, .lexical, .parse, .unmatchedParenthesis, .unknownIdentifier, .trailingTokens,
    .emptyExpression, .unexpectedToken, .nestingTooDeep, .unboundVariable, .numeric,
    .noConvergence, .samplingRange, .integrationRange, .invalidParameter, .inputFormat,
    .cashFlowFormat, .configuration]

/-- The name that a category is reported under. -/
def label : Category → String
  | .expression => "ExpressionError"
  | .lexical => "LexError"
  | .parse => "ParseError"
  | .unmatchedParenthesis => "UnmatchedParenthesisError"
  | .unknownIdentifier => "UnknownIdentifierError"
  | .trailingTokens => "TrailingTokensError"
  | .emptyExpression => "EmptyExpressionError"
  | .unexpectedToken => "UnexpectedTokenError"
  | .nestingTooDeep => "NestingTooDeepError"
  | .unboundVariable => "UnboundVariableError"
  | .numeric => "NumericError"
  | .noConvergence => "NoConvergenceError"
  | .samplingRange => "SamplingRangeError"
  | .integrationRange => "IntegrationRangeError"
  | .invalidParameter => "InvalidParameterError"
  | .inputFormat => "InputFormatError"
  | .cashFlowFormat => "CashFlowFormatError"
  | .configuration => "ConfigurationError"

/-- The category of a name. -/
def ofLabel? (name : String) : Option Category :=
  all.find? (·.label = name)

/-- The category of a sort of parse errors. -/
def ofKind : ParseError.Kind → Category
  | .unmatchedParenthesis => .unmatchedParenthesis
  | .unknownIdentifier => .unknownIdentifier
  | .trailingTokens => .trailingTokens
  | .emptyExpression => .emptyExpression
  | .unexpectedToken => .unexpectedToken
  | .nestingTooDeep => .nestingTooDeep

/-- The sort of parse errors that a category holds. A parse error without a
sort of its own counts as an unexpected token. -/
def kind? : Category → Option ParseError.Kind
  | .parse => some .unexpectedToken
  | .unmatchedParenthesis => some .unmatchedParenthesis
  | .unknownIdentifier => some .unknownIdentifier
  | .trailingTokens => some .trailingTokens
  | .emptyExpression => some .emptyExpression
  | .unexpectedToken => some .unexpectedToken
  | .nestingTooDeep => some .nestingTooDeep
  | _ => none

/-- A category and the more general ones it belongs to, in order. -/
def lineage : Category → List Category
  | .expression => [.expression]
  | .lexical => [.lexical, .expression]
  | .parse => [.parse, .expression]
  | .unboundVariable => [.unboundVariable, .expression]
  | .numeric => [.numeric]
  | .noConvergence => [.noConvergence, .numeric]
  | .samplingRange => [.samplingRange, .numeric]
  | .integrationRange => [.integrationRange, .numeric]
  | .invalidParameter => [.invalidParameter, .numeric]
  | .inputFormat => [.inputFormat]
  | .cashFlowFormat => [.cashFlowFormat, .inputFormat]
  | .configuration => [.configuration, .inputFormat]
  | parseCategory => [parseCategory, .parse, .expression]

/-- Whether a category belongs to the failures of expressions. -/
def isExpression (category : Category) : Bool :=
  category.lineage.contains .expression

/-- Whether the cause of a failure can be mended by other input. -/
def isRecoverable : Category → Bool
  | .unboundVariable => false
  | .configuration => false
  | _ => true

/-- The details that failures of a category come with. -/
def details (category : Category) : List String :=
  let place := if category.isExpression then ["position"] else []
  let token := if category.kind?.isSome then ["token_text"] else []
  let own := match category with
    | .lexical => ["character"]
    | .unknownIdentifier => ["identifier"]
    | .nestingTooDeep => ["limit"]
    | .unboundVariable => ["name"]
    | .samplingRange => ["x_min", "x_max", "column_count"]
    | .integrationRange => ["lower", "upper"]
    | .invalidParameter => ["parameter", "value"]
    | .cashFlowFormat => ["raw_data", "index"]
    | .configuration => ["errors"]
    | _ => []
  place ++ token ++ own

/-- The label that a notice gives to failures of a category. -/
def noticeLabel (category : Category) : String :=
  match category.kind? with
  | some kind => kind.label
  | none => if category = .lexical then "lex_error" else "unbound_variable"

end Category

end Calculator
