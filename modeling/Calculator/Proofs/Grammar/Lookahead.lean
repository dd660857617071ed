import Calculator.Proofs.Grammar.Derivation

/-!
# What the next token decides

Where a derivation ends is decided by the token after it: it may be no operator
that would have extended the derivation. What the derivation of a primary looks
like is decided by its first token.
-/

namespace Calculator
namespace Grammar

variable {variableName : String}

/-! ## The token after a derivation -/

/-- The operators that would extend a derivation to the right. -/
def Nonterminal.continuations : Nonterminal → List String
  | .level .additive => ["+", "-", "*", "/", "^"]
  | .level .multiplicative => ["*", "/", "^"]
  | .unary => ["^"]
  | .power => ["^"]
  | .primary => []

/-- The tokens do not begin with one of the given operators. -/
def Stops (symbols : List String) (rest : List Token) : Prop :=
  ∀ token ∈ rest.head?, token.isOperator symbols = false

@[simp] theorem stops_nil (symbols : List String) : Stops symbols [] := by
  simp [Stops]

@[simp] theorem stops_cons (symbols : List String) (token : Token) (rest : List Token) :
    Stops symbols (token :: rest) ↔ token.isOperator symbols = false := by
  simp [Stops]

/-- Nothing extends a primary. -/
theorem stops_primary (rest : List Token) : Stops Nonterminal.primary.continuations rest := by
  intro token _
  simp [Nonterminal.continuations, Token.isOperator]

/-- Only operators are operators of some set. -/
theorem isOperator_of_kind_ne
    {token : Token}
    (other : token.kind ≠ .operator)
    (symbols : List String) :
    token.isOperator symbols = false := by
  simp [Token.isOperator, other]

/-- A parenthesis that closes extends nothing. -/
theorem stops_closer
    (closer : TokenOf .closer)
    (symbols : List String)
    (rest : List Token) :
    Stops symbols (closer.val :: rest) := by
  rw [stops_cons]
  exact isOperator_of_kind_ne (by simp [closer.property]) symbols

theorem isOperator_iff {token : Token} {symbols : List String} :
    token.isOperator symbols = true ↔ token.kind = .operator ∧ token.text ∈ symbols := by
  simp [Token.isOperator]

/-- Fewer operators extend less. -/
theorem Stops.of_subset
    {fewer symbols : List String}
    {rest : List Token}
    (stops : Stops symbols rest)
    (subset : fewer ⊆ symbols) :
    Stops fewer rest := by
  intro token first
  have outside := stops token first
  rw [Bool.eq_false_iff, ne_eq, isOperator_iff] at outside ⊢
  exact fun inside => outside ⟨inside.1, subset inside.2⟩

/-- A token that is no operator extends nothing behind tokens that end. -/
theorem Stops.append_of_kind
    {symbols : List String}
    {tokens : List Token}
    {last : Token}
    (stops : Stops symbols tokens)
    (other : last.kind ≠ .operator) :
    Stops symbols (tokens ++ [last]) := by
  cases tokens with
  | nil => exact (stops_cons _ _ _).mpr (isOperator_of_kind_ne other symbols)
  | cons token tokens => exact (stops_cons _ _ _).mpr ((stops_cons _ _ _).mp stops)

/-- What extends an operand of a level extends the level. -/
theorem Precedence.continuations_operand_subset (precedence : Precedence) :
    precedence.operand.continuations ⊆ (Nonterminal.level precedence).continuations := by
  cases precedence <;> simp [operand, Nonterminal.continuations]

/-- The operators of a level are among those that extend it. -/
theorem Precedence.symbols_subset (precedence : Precedence) :
    precedence.symbols ⊆ (Nonterminal.level precedence).continuations := by
  cases precedence <;> simp [symbols, Nonterminal.continuations]

/-- The operators of a level do not extend its operands. -/
theorem Precedence.stops_operand
    {precedence : Precedence}
    (sign : OperatorToken precedence.symbols)
    (rest : List Token) :
    Stops precedence.operand.continuations (sign.val :: rest) := by
  obtain ⟨token, isSign⟩ := sign
  rw [stops_cons, Bool.eq_false_iff, ne_eq, isOperator_iff]
  rw [isOperator_iff] at isSign
  rintro ⟨-, inside⟩
  cases precedence <;>
    simp only [symbols, operand, Nonterminal.continuations, List.mem_cons, List.not_mem_nil,
      or_false] at isSign inside <;>
    rcases isSign with ⟨-, text | text⟩ <;>
    simp [text] at inside

/-- The operators of a level extend it. -/
theorem Precedence.not_stops
    {precedence : Precedence}
    (sign : OperatorToken precedence.symbols)
    (rest : List Token) :
    ¬Stops (Nonterminal.level precedence).continuations (sign.val :: rest) := by
  intro stops
  have outside := stops.of_subset precedence.symbols_subset
  rw [stops_cons, sign.property] at outside
  cases outside

/-- An exponent extends a power. -/
theorem not_stops_caret
    (caret : OperatorToken ["^"])
    (rest : List Token) :
    ¬Stops Nonterminal.power.continuations (caret.val :: rest) := by
  intro stops
  rw [stops_cons, Nonterminal.continuations, caret.property] at stops
  cases stops

/-- The operand before the links of a chain stops where they begin. -/
theorem Links.stops
    {precedence : Precedence}
    (links : Links variableName precedence)
    {rest : List Token}
    (stops : Stops (Nonterminal.level precedence).continuations rest) :
    Stops precedence.operand.continuations (links.yield ++ rest) := by
  cases links with
  | done =>
      simp only [Links.yield, List.nil_append]
      exact stops.of_subset precedence.continuations_operand_subset
  | link sign operand links => exact Precedence.stops_operand sign _

/-! ## The first token of a primary -/

/-- What a primary begins with. -/
inductive Lead
  | number
  | constant (meaning : Constant)
  | symbol
  | call (meaning : Function)
  | group

/-- The form of a primary. -/
def Derivation.lead : Derivation variableName .primary → Lead
  | .number _ => .number
  | .constant _ meaning _ => .constant meaning
  | .symbol _ _ => .symbol
  | .call _ meaning _ _ _ _ => .call meaning
  | .group _ _ _ => .group

/-- The form of a primary that begins with a token. -/
def Lead.ofToken (token : Token) : Lead :=
  match token.kind with
  | .number => .number
  | .opener => .group
  | _ =>
      match Constant.ofName? token.text with
      | some meaning => .constant meaning
      | none =>
          match Function.ofName? token.text with
          | some meaning => .call meaning
          | none => .symbol

/-- A primary begins with a token that is no operator and tells its form. -/
theorem Derivation.exists_head
    (unreserved : variableName ∉ reservedNames)
    (derivation : Derivation variableName .primary) :
    ∃ head tail, derivation.yield = head :: tail ∧ head.kind ≠ .operator ∧
      derivation.lead = Lead.ofToken head := by
  cases derivation with
  | number token =>
      obtain ⟨token, isNumber⟩ := token
      exact ⟨token, [], rfl, by simp [isNumber], by simp [lead, Lead.ofToken, isNumber]⟩
  | constant word meaning named =>
      obtain ⟨word, isWord⟩ := word
      refine ⟨word, [], rfl, by simp [isWord], ?_⟩
      simp [lead, Lead.ofToken, isWord, Constant.ofName?_eq_some_iff.mpr named]
  | symbol word named =>
      obtain ⟨word, isWord⟩ := word
      refine ⟨word, [], rfl, by simp [isWord], ?_⟩
      have text : word.text = variableName := named
      simp [lead, Lead.ofToken, isWord, text, Constant.ofName?_eq_none unreserved,
        Function.ofName?_eq_none unreserved]
  | call word meaning named opener argument closer =>
      obtain ⟨word, isWord⟩ := word
      refine ⟨word, _, rfl, by simp [isWord], ?_⟩
      have text : word.text = meaning.name := named
      simp [lead, Lead.ofToken, isWord, text, Constant.ofName?_functionName,
        Function.ofName?_name]
  | group opener body closer =>
      obtain ⟨opener, isOpener⟩ := opener
      exact ⟨opener, _, rfl, by simp [isOpener], by simp [lead, Lead.ofToken, isOpener]⟩

/-- A power does not begin with an operator. -/
theorem Derivation.exists_head_of_power
    (unreserved : variableName ∉ reservedNames)
    (derivation : Derivation variableName .power) :
    ∃ head tail, derivation.yield = head :: tail ∧ head.kind ≠ .operator := by
  cases derivation with
  | raised base caret exponent =>
      obtain ⟨head, tail, yields, other, -⟩ := base.exists_head unreserved
      exact ⟨head, _, by rw [yield, yields]; rfl, other⟩
  | plain base =>
      obtain ⟨head, tail, yields, other, -⟩ := base.exists_head unreserved
      exact ⟨head, tail, by rw [yield, yields], other⟩

end Grammar
end Calculator
