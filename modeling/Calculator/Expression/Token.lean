/-!
# Tokens

The words of an expression, each with its kind and its place in the source.
-/

namespace Calculator

/-- The kinds of words. -/
inductive Token.Kind
  | number
  | identifier
  | operator
  | opener
  | closer
  | comma
  | finish
  deriving DecidableEq, Repr

/-- A word with the offset of its first character. -/
structure Token where
  kind : Token.Kind
  text : String
  position : Int
  deriving DecidableEq, Repr

namespace Token

/-- The token that ends every list of tokens. -/
def finish (position : Int) : Token :=
  ⟨.finish, "", position⟩

/-- Whether a token is one of the given operators. -/
def isOperator (token : Token) (symbols : List String) : Bool :=
  token.kind = .operator && symbols.contains token.text

/-- How a message refers to a token. -/
def description (token : Token) : String :=
  if token.kind = .finish then "end of input" else "'" ++ token.text ++ "'"

end Token

end Calculator
