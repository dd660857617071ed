import Calculator.Proofs.Grammar.Front

/-!
# Open parentheses

The parentheses that tokens leave open, found by matching every parenthesis that
closes with the innermost one that is open. A derivation leaves none open.
-/

namespace Calculator
namespace Grammar

variable {variableName : String}

/-- The parentheses that are open behind a token, innermost first, when `opened` are
before it. -/
def openBehind (opened : List Token) (token : Token) : List Token :=
  match token.kind with
  | .opener => token :: opened
  | .closer => opened.tail
  | _ => opened

/-- The parentheses that are open behind tokens, innermost first. -/
def stillOpen (opened tokens : List Token) : List Token :=
  tokens.foldl openBehind opened

@[simp] theorem stillOpen_nil (opened : List Token) : stillOpen opened [] = opened := rfl

@[simp] theorem stillOpen_cons (opened : List Token) (token : Token) (tokens : List Token) :
    stillOpen opened (token :: tokens) = stillOpen (openBehind opened token) tokens := rfl

@[simp] theorem stillOpen_append (opened left right : List Token) :
    stillOpen opened (left ++ right) = stillOpen (stillOpen opened left) right :=
  List.foldl_append

/-- What is open was open before or has been opened by one of the tokens. -/
theorem mem_of_mem_stillOpen
    {opened tokens : List Token}
    {opener : Token}
    (isOpen : opener ∈ stillOpen opened tokens) :
    opener ∈ opened ∨ (opener ∈ tokens ∧ opener.kind = .opener) := by
  induction tokens generalizing opened with
  | nil => exact Or.inl isOpen
  | cons token tokens tokensHypothesis =>
      rcases tokensHypothesis isOpen with before | ⟨inTokens, isOpener⟩
      · rw [openBehind] at before
        split at before
        · rename_i isOpener
          rcases List.mem_cons.mp before with rfl | before
          · exact Or.inr ⟨List.mem_cons_self, isOpener⟩
          · exact Or.inl before
        · exact Or.inl (List.mem_of_mem_tail before)
        · exact Or.inl before
      · exact Or.inr ⟨List.mem_cons_of_mem _ inTokens, isOpener⟩

@[simp] theorem openBehind_opener (opener : TokenOf .opener) (opened : List Token) :
    openBehind opened opener.val = opener.val :: opened := by
  rw [openBehind, opener.property]

@[simp] theorem openBehind_closer (closer : TokenOf .closer) (opened : List Token) :
    openBehind opened closer.val = opened.tail := by
  rw [openBehind, closer.property]

@[simp] theorem openBehind_number (token : TokenOf .number) (opened : List Token) :
    openBehind opened token.val = opened := by
  rw [openBehind, token.property]

@[simp] theorem openBehind_identifier (word : TokenOf .identifier) (opened : List Token) :
    openBehind opened word.val = opened := by
  rw [openBehind, word.property]

@[simp] theorem openBehind_operator
    {symbols : List String}
    (sign : OperatorToken symbols)
    (opened : List Token) :
    openBehind opened sign.val = opened := by
  rw [openBehind, (isOperator_iff.mp sign.property).1]

mutual

/-- A derivation closes the parentheses that it opens, and no others. -/
theorem Derivation.stillOpen_yield :
    {nonterminal : Nonterminal} → (derivation : Derivation variableName nonterminal) →
    (opened : List Token) → stillOpen opened derivation.yield = opened
  | _, .chain first links, opened => by
      rw [Derivation.yield, stillOpen_append, first.stillOpen_yield, links.stillOpen_yield]
  | _, .signed sign operand, opened => by
      rw [Derivation.yield, stillOpen_cons, openBehind_operator, operand.stillOpen_yield]
  | _, .unsigned operand, opened => operand.stillOpen_yield opened
  | _, .raised base caret exponent, opened => by
      rw [Derivation.yield, stillOpen_append, base.stillOpen_yield, stillOpen_cons,
        openBehind_operator, exponent.stillOpen_yield]
  | _, .plain base, opened => base.stillOpen_yield opened
  | _, .number token, opened => openBehind_number token opened
  | _, .constant word meaning named, opened => openBehind_identifier word opened
  | _, .symbol word named, opened => openBehind_identifier word opened
  | _, .call word meaning named opener argument closer, opened => by
      simp [Derivation.yield, argument.stillOpen_yield]
  | _, .group opener body closer, opened => by
      simp [Derivation.yield, body.stillOpen_yield]

theorem Links.stillOpen_yield :
    {precedence : Precedence} → (links : Links variableName precedence) →
    (opened : List Token) → stillOpen opened links.yield = opened
  | _, .done, opened => rfl
  | _, .link sign operand links, opened => by
      rw [Links.yield, stillOpen_cons, openBehind_operator, stillOpen_append,
        operand.stillOpen_yield, links.stillOpen_yield]

end

/-- Behind the opening of a group its parenthesis is open. -/
theorem Opening.stillOpen_eq
    {lead : List Token}
    {opener : Token}
    {function : Option String}
    (opening : Opening lead opener function)
    (opened : List Token) :
    stillOpen opened lead = opener :: opened := by
  cases opening with
  | group opener => simp
  | call word meaning named opener => simp

end Grammar
end Calculator
