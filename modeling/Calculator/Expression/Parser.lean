import Calculator.Decimal.Reader
import Calculator.Expression.Function
import Calculator.Expression.Token
import Calculator.Expression.Tree

/-!
# Reading a tree from tokens

The grammar, from the loosest to the tightest binding:

    expression     := additive finish
    additive       := multiplicative (("+" | "-") multiplicative)*
    multiplicative := unary (("*" | "/") unary)*
    unary          := ("-" | "+") unary | power
    power          := primary ("^" unary)?
    primary        := number | constant | variable
                    | function "(" additive ")" | "(" additive ")"

The exponent of `^` is read at the level of `unary`, so powers group to the
right, `2^-1` is a power and `-x^2` is the opposite of one. Parentheses, signs
and exponents each open a level of nesting, and there is a limit to their
number. Input that ends inside a parenthesis is reported at the innermost one.

Every production takes a budget of productions that may be active at the same
time, which the limit on nesting bounds.
-/

namespace Calculator

/-- Why tokens form no expression. -/
inductive ParseError
  /-- There are no tokens before the end. -/
  | emptySource (position : Int)
  /-- The input ends where an operand should stand, outside all parentheses. -/
  | missingOperand (position : Int)
  /-- A parenthesis is closed where an operand should stand. -/
  | emptyGroup (closer : Token)
  /-- A parenthesis is closed that was never opened. -/
  | strayCloser (closer : Token)
  /-- The input ends inside a parenthesis. -/
  | unclosed (opener : Token)
  /-- A token follows the complete expression. -/
  | trailing (token : Token)
  /-- A token stands where an operand should. -/
  | notOperand (token : Token)
  /-- A token stands where a parenthesis should close. -/
  | notCloser (function : Option String) (token : Token)
  /-- A token stands where the parenthesis of a function should open. -/
  | notOpener (function : String) (token : Token)
  /-- A word is no constant, function or variable. -/
  | unknownIdentifier (token : Token)
  /-- The nesting exceeds the limit. -/
  | tooDeep (token : Token)
  deriving DecidableEq, Repr

/-- How deep signs, exponents and parentheses may nest. -/
def nestingLimit : Nat := 100

namespace ParseError

/-- The sorts of parse errors. -/
inductive Kind
  | unmatchedParenthesis
  | unknownIdentifier
  | trailingTokens
  | emptyExpression
  | unexpectedToken
  | nestingTooDeep
  deriving DecidableEq, Repr

/-- The label of a sort of errors. -/
def Kind.label : Kind → String
  | .unmatchedParenthesis => "unmatched_parenthesis"
  | .unknownIdentifier => "unknown_identifier"
  | .trailingTokens => "trailing_tokens"
  | .emptyExpression => "empty_expression"
  | .unexpectedToken => "unexpected_token"
  | .nestingTooDeep => "nesting_too_deep"

/-- The sort of an error. -/
def kind : ParseError → Kind
  | .emptySource _ => .emptyExpression
  | .missingOperand _ => .emptyExpression
  | .emptyGroup _ => .emptyExpression
  | .strayCloser _ => .unmatchedParenthesis
  | .unclosed _ => .unmatchedParenthesis
  | .trailing _ => .trailingTokens
  | .notOperand _ => .unexpectedToken
  | .notCloser _ _ => .unexpectedToken
  | .notOpener _ _ => .unexpectedToken
  | .unknownIdentifier _ => .unknownIdentifier
  | .tooDeep _ => .nestingTooDeep

/-- The token that an error is about. -/
def token? : ParseError → Option Token
  | .emptySource _ => none
  | .missingOperand _ => none
  | .emptyGroup token => some token
  | .strayCloser token => some token
  | .unclosed token => some token
  | .trailing token => some token
  | .notOperand token => some token
  | .notCloser _ token => some token
  | .notOpener _ token => some token
  | .unknownIdentifier token => some token
  | .tooDeep token => some token

/-- Where an error is reported. -/
def position : ParseError → Int
  | .emptySource position => position
  | .missingOperand position => position
  | .emptyGroup token => token.position
  | .strayCloser token => token.position
  | .unclosed token => token.position
  | .trailing token => token.position
  | .notOperand token => token.position
  | .notCloser _ token => token.position
  | .notOpener _ token => token.position
  | .unknownIdentifier token => token.position
  | .tooDeep token => token.position

/-- What a parenthesis encloses. -/
def enclosed : Option String → String
  | some function => "argument of '" ++ function ++ "'"
  | none => "parenthesized expression"

/-- The wording of an error. -/
def message (error : ParseError) : String :=
  let place := " at position " ++ toString error.position
  match error with
  | .emptySource _ => "Expression is empty"
  | .missingOperand _ => "Expected an operand but reached end of input" ++ place
  | .emptyGroup _ => "Empty sub-expression before ')'" ++ place
  | .strayCloser _ => "Closing parenthesis without a matching '('" ++ place
  | .unclosed _ => "Parenthesis opened" ++ place ++ " is never closed"
  | .trailing token => "Unexpected " ++ token.description ++ " after complete expression" ++ place
  | .notOperand token => "Expected an operand but found " ++ token.description ++ place
  | .notCloser function token =>
      "Expected ')' to close " ++ enclosed function ++ " but found " ++ token.description ++ place
  | .notOpener function _ => "Function '" ++ function ++ "' must be followed by '('" ++ place
  | .unknownIdentifier token => "Unknown identifier '" ++ token.text ++ "'" ++ place
  | .tooDeep _ =>
      "Expression nests deeper than " ++ toString nestingLimit ++ " levels" ++ place

end ParseError

/-- How reading a tree fails. -/
inductive ParseFailure
  /-- The tokens do not form an expression. -/
  | grammar (error : ParseError)
  /-- The text of a number token is not a number. -/
  | unreadableNumber (text : String)
  /-- The last token is not the end of input. -/
  | unfinished
  /-- Too many productions are active. -/
  | exhausted
  deriving DecidableEq, Repr

namespace Parser

/-- What stays the same through a whole parse: the variable, the token that ends
the input and the number of tokens before it. -/
structure Frame where
  variableName : String
  finish : Token
  length : Nat

/-- Where in the nesting a production stands: the open parentheses, innermost
first, and the number of open levels of any sort. -/
structure Nesting where
  openers : List Token
  depth : Nat

/-- A production reads a tree from the front of the tokens before the end of
input, and leaves the rest of them. -/
abbrev Production (α : Type) :=
  List Token → Except ParseFailure (Tree α × List Token)

/-- Refuse the tokens for an error of the grammar. -/
def refuse {β : Type} (error : ParseError) : Except ParseFailure β :=
  .error (.grammar error)

/-- Open one more level of nesting at a token. -/
def Nesting.descend (nesting : Nesting) (token : Token) : Except ParseFailure Nesting :=
  if nesting.depth < nestingLimit then .ok ⟨nesting.openers, nesting.depth + 1⟩
  else refuse (.tooDeep token)

/-- Open one more level of nesting at a parenthesis. -/
def Nesting.descendGroup (nesting : Nesting) (opener : Token) : Except ParseFailure Nesting :=
  (nesting.descend opener).map fun inner => ⟨opener :: nesting.openers, inner.depth⟩

/-- The error of an input that ends where an operand should stand. -/
def Nesting.endError (nesting : Nesting) (finish : Token) : ParseError :=
  match nesting.openers with
  | opener :: _ => .unclosed opener
  | [] => .missingOperand finish.position

/-- The error of a parenthesis that closes where an operand should stand. -/
def Nesting.closerError (nesting : Nesting) (closer : Token) : ParseError :=
  if nesting.openers.isEmpty then .strayCloser closer else .emptyGroup closer

/-- Extend a tree to the right while one of the operators follows. Every round
takes at least the operator, so as many rounds as there are tokens are enough. -/
def chain {α : Type} (operand : Production α) (symbols : List String) :
    (rounds : Nat) → Tree α → Production α
  | 0, left, tokens => .ok (left, tokens)
  | _ + 1, left, [] => .ok (left, [])
  | rounds + 1, left, token :: rest =>
      if token.isOperator symbols then
        match operand rest with
        | .error failure => .error failure
        | .ok (right, after) =>
            chain operand symbols rounds (.binary token.text left right) after
      else .ok (left, token :: rest)

variable {α : Type} [Elementary α]

mutual

/-- Sums and differences. -/
def additive (frame : Frame) : (budget : Nat) → Nesting → Production α
  | 0, _, _ => .error .exhausted
  | budget + 1, nesting, tokens => do
      let (left, rest) ← multiplicative frame budget nesting tokens
      chain (multiplicative frame budget nesting) ["+", "-"] frame.length left rest

/-- Products and quotients. -/
def multiplicative (frame : Frame) : (budget : Nat) → Nesting → Production α
  | 0, _, _ => .error .exhausted
  | budget + 1, nesting, tokens => do
      let (left, rest) ← unary frame budget nesting tokens
      chain (unary frame budget nesting) ["*", "/"] frame.length left rest

/-- An operand under its signs. A plus sign leaves no trace. -/
def unary (frame : Frame) : (budget : Nat) → Nesting → Production α
  | 0, _, _ => .error .exhausted
  | budget + 1, nesting, tokens =>
      match tokens with
      | sign :: rest =>
          if sign.isOperator ["-", "+"] then do
            let inner ← nesting.descend sign
            let (operand, after) ← unary frame budget inner rest
            return (if sign.text = "-" then .unary "-" operand else operand, after)
          else power frame budget nesting tokens
      | [] => power frame budget nesting tokens

/-- An operand with its exponent, if it has one. -/
def power (frame : Frame) : (budget : Nat) → Nesting → Production α
  | 0, _, _ => .error .exhausted
  | budget + 1, nesting, tokens => do
      let (base, rest) ← primary frame budget nesting tokens
      match rest with
      | caret :: after =>
          if caret.isOperator ["^"] then do
            let inner ← nesting.descend caret
            let (exponent, left) ← unary frame budget inner after
            return (.binary "^" base exponent, left)
          else return (base, rest)
      | [] => return (base, rest)

/-- A number, a name or a group. -/
def primary (frame : Frame) : (budget : Nat) → Nesting → Production α
  | 0, _, _ => .error .exhausted
  | budget + 1, nesting, tokens =>
      match tokens with
      | [] => refuse (nesting.endError frame.finish)
      | token :: rest =>
          match token.kind with
          | .number =>
              match (Decimal.read? token.text.toList : Option α) with
              | some value => .ok (.literal value, rest)
              | none => .error (.unreadableNumber token.text)
          | .identifier => named frame budget nesting token rest
          | .opener => group frame budget nesting token none rest
          | .closer => refuse (nesting.closerError token)
          | _ => refuse (.notOperand token)

/-- What a word stands for, once the word has been taken. -/
def named (frame : Frame) : (budget : Nat) → Nesting → Token → Production α
  | 0, _, _, _ => .error .exhausted
  | budget + 1, nesting, token, tokens =>
      match Constant.ofName? token.text with
      | some constant => .ok (.literal constant.value, tokens)
      | none =>
          match Function.ofName? token.text with
          | some _ =>
              match tokens with
              | opener :: rest =>
                  if opener.kind = .opener then do
                    let (argument, after) ←
                      group frame budget nesting opener (some token.text) rest
                    return (.call token.text argument, after)
                  else refuse (.notOpener token.text opener)
              | [] => refuse (.notOpener token.text frame.finish)
          | none =>
              if token.text = frame.variableName then .ok (.symbol token.text, tokens)
              else refuse (.unknownIdentifier token)

/-- The inside of a parenthesis, once it has been opened, and its end. -/
def group (frame : Frame) :
    (budget : Nat) → Nesting → Token → Option String → Production α
  | 0, _, _, _, _ => .error .exhausted
  | budget + 1, nesting, opener, function, tokens => do
      let inner ← nesting.descendGroup opener
      let (body, rest) ← additive frame budget inner tokens
      match rest with
      | [] => refuse (.unclosed opener)
      | closer :: after =>
          if closer.kind = .closer then return (body, after)
          else refuse (.notCloser function closer)

end

/-- The tree of all tokens before the end of input. -/
def complete (frame : Frame) : (budget : Nat) → List Token → Except ParseFailure (Tree α)
  | 0, _ => .error .exhausted
  | budget + 1, tokens =>
      if tokens.isEmpty then refuse (.emptySource frame.finish.position)
      else do
        let (tree, rest) ← additive frame budget ⟨[], 0⟩ tokens
        match rest with
        | [] => return tree
        | token :: _ =>
            refuse (if token.kind = .closer then .strayCloser token else .trailing token)

/-- Seven productions stand between two levels of nesting, and eight more are
active at the ends. -/
def activeLimit : Nat := 7 * nestingLimit + 8

/-- The tree of a list of tokens that ends with the end of input, read up to the
first such token. -/
def parse (variableName : String) (tokens : List Token) : Except ParseFailure (Tree α) :=
  match tokens.getLast? with
  | none => .error .unfinished
  | some last =>
      if last.kind = .finish then
        let before := tokens.takeWhile fun token => token.kind ≠ .finish
        let finish := (tokens.drop before.length).headD last
        complete ⟨variableName, finish, before.length⟩ activeLimit before
      else .error .unfinished

end Parser

end Calculator
