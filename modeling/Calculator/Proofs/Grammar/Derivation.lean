import Calculator.Expression.Parser

/-!
# Derivations of the grammar

The grammar of expressions without a word about how it is read. A derivation is
a tree of applied productions. It has the tokens it derives, the expression tree
it stands for and the greatest number of parentheses, prefix signs and exponents
around one of its operands.

The operands of sums and of products are chains, which group to the left.
-/

namespace Calculator
namespace Grammar

/-- A token that is one of the given operators. -/
abbrev OperatorToken (symbols : List String) :=
  {token : Token // token.isOperator symbols = true}

/-- A token of a kind. -/
abbrev TokenOf (kind : Token.Kind) :=
  {token : Token // token.kind = kind}

/-- The levels of the grammar at which operands are chained. -/
inductive Precedence
  | additive
  | multiplicative

/-- What the grammar derives. -/
inductive Nonterminal
  | level (precedence : Precedence)
  | unary
  | power
  | primary

namespace Precedence

/-- The operators between the operands of a level. -/
def symbols : Precedence → List String
  | .additive => ["+", "-"]
  | .multiplicative => ["*", "/"]

/-- The operands of a level. -/
def operand : Precedence → Nonterminal
  | .additive => .level .multiplicative
  | .multiplicative => .unary

end Precedence

mutual

/-- A derivation of tokens in one variable. -/
inductive Derivation (variableName : String) : Nonterminal → Type
  | chain {precedence : Precedence}
      (first : Derivation variableName precedence.operand)
      (links : Links variableName precedence) :
      Derivation variableName (.level precedence)
  | signed
      (sign : OperatorToken ["-", "+"])
      (operand : Derivation variableName .unary) :
      Derivation variableName .unary
  | unsigned
      (operand : Derivation variableName .power) :
      Derivation variableName .unary
  | raised
      (base : Derivation variableName .primary)
      (caret : OperatorToken ["^"])
      (exponent : Derivation variableName .unary) :
      Derivation variableName .power
  | plain
      (base : Derivation variableName .primary) :
      Derivation variableName .power
  | number
      (token : TokenOf .number) :
      Derivation variableName .primary
  | constant
      (word : TokenOf .identifier)
      (meaning : Constant)
      (named : word.val.text = meaning.name) :
      Derivation variableName .primary
  | symbol
      (word : TokenOf .identifier)
      (named : word.val.text = variableName) :
      Derivation variableName .primary
  | call
      (word : TokenOf .identifier)
      (meaning : Function)
      (named : word.val.text = meaning.name)
      (opener : TokenOf .opener)
      (argument : Derivation variableName (.level .additive))
      (closer : TokenOf .closer) :
      Derivation variableName .primary
  | group
      (opener : TokenOf .opener)
      (body : Derivation variableName (.level .additive))
      (closer : TokenOf .closer) :
      Derivation variableName .primary

/-- What follows the first operand of a chain: operators, each with an operand. -/
inductive Links (variableName : String) : Precedence → Type
  | done {precedence : Precedence} : Links variableName precedence
  | link {precedence : Precedence}
      (sign : OperatorToken precedence.symbols)
      (operand : Derivation variableName precedence.operand)
      (links : Links variableName precedence) :
      Links variableName precedence

end

variable {variableName : String}

mutual

/-- The tokens that a derivation derives. -/
def Derivation.yield :
    {nonterminal : Nonterminal} → Derivation variableName nonterminal → List Token
  | _, .chain first links => first.yield ++ links.yield
  | _, .signed sign operand => sign.val :: operand.yield
  | _, .unsigned operand => operand.yield
  | _, .raised base caret exponent => base.yield ++ caret.val :: exponent.yield
  | _, .plain base => base.yield
  | _, .number token => [token.val]
  | _, .constant word _ _ => [word.val]
  | _, .symbol word _ => [word.val]
  | _, .call word _ _ opener argument closer =>
      word.val :: opener.val :: (argument.yield ++ [closer.val])
  | _, .group opener body closer => opener.val :: (body.yield ++ [closer.val])

/-- The tokens that the links of a chain derive. -/
def Links.yield : {precedence : Precedence} → Links variableName precedence → List Token
  | _, .done => []
  | _, .link sign operand links => sign.val :: (operand.yield ++ links.yield)

end

/-- Every derivation derives some token. -/
theorem Derivation.yield_ne_nil :
    {nonterminal : Nonterminal} → (derivation : Derivation variableName nonterminal) →
    derivation.yield ≠ []
  | _, .chain first links => by simp [yield, first.yield_ne_nil]
  | _, .signed sign operand => by simp [yield]
  | _, .unsigned operand => operand.yield_ne_nil
  | _, .raised base caret exponent => by simp [yield]
  | _, .plain base => base.yield_ne_nil
  | _, .number token => by simp [yield]
  | _, .constant word meaning named => by simp [yield]
  | _, .symbol word named => by simp [yield]
  | _, .call word meaning named opener argument closer => by simp [yield]
  | _, .group opener body closer => by simp [yield]

mutual

/-- The greatest number of parentheses, prefix signs and exponents around an
operand. -/
def Derivation.nesting :
    {nonterminal : Nonterminal} → Derivation variableName nonterminal → Nat
  | _, .chain first links => max first.nesting links.nesting
  | _, .signed _ operand => operand.nesting + 1
  | _, .unsigned operand => operand.nesting
  | _, .raised base _ exponent => max base.nesting (exponent.nesting + 1)
  | _, .plain base => base.nesting
  | _, .number _ => 0
  | _, .constant _ _ _ => 0
  | _, .symbol _ _ => 0
  | _, .call _ _ _ _ argument _ => argument.nesting + 1
  | _, .group _ body _ => body.nesting + 1

/-- The greatest number of levels around an operand of the links of a chain. -/
def Links.nesting : {precedence : Precedence} → Links variableName precedence → Nat
  | _, .done => 0
  | _, .link _ operand links => max operand.nesting links.nesting

end

variable {α : Type} [Elementary α]

/-- The scalar that a number token writes. -/
def numeral (token : Token) : α :=
  (Decimal.read? token.text.toList).getD Scalar.nan

mutual

/-- The expression tree that a derivation stands for. Plus signs before operands
and parentheses leave no trace. -/
def Derivation.tree :
    {nonterminal : Nonterminal} → Derivation variableName nonterminal → Tree α
  | _, .chain first links => links.extend first.tree
  | _, .signed sign operand =>
      if sign.val.text = "-" then .unary "-" operand.tree else operand.tree
  | _, .unsigned operand => operand.tree
  | _, .raised base _ exponent => .binary "^" base.tree exponent.tree
  | _, .plain base => base.tree
  | _, .number token => .literal (numeral token.val)
  | _, .constant _ meaning _ => .literal meaning.value
  | _, .symbol _ _ => .symbol variableName
  | _, .call _ meaning _ _ argument _ => .call meaning.name argument.tree
  | _, .group _ body _ => body.tree

/-- A tree with the links of a chain to its right, grouped to the left. -/
def Links.extend :
    {precedence : Precedence} → Tree α → Links variableName precedence → Tree α
  | _, left, .done => left
  | _, left, .link sign operand links => links.extend (.binary sign.val.text left operand.tree)

end

end Grammar
end Calculator
