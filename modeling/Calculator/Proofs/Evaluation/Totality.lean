import Calculator.Expression.Basic
import Calculator.Proofs.Evaluation.Scope
import Calculator.Proofs.Parser.Correctness

/-!
# Compiled expressions always have a value

A tree is closed when all its names have a meaning and it mentions no variable
but one. The trees of derivations are closed, so those of compiled expressions
are, and closed trees have a value wherever their variable is bound.
-/

namespace Calculator
namespace Tree

/-- A tree whose operators and functions are known and whose leaves are scalars
or one variable. -/
inductive IsClosed {α : Type} (variableName : String) : Tree α → Prop
  | literal (x : α) : IsClosed variableName (.literal x)
  | symbol : IsClosed variableName (.symbol variableName)
  | unary
      {text : String}
      (operator : UnaryOperator)
      {operand : Tree α}
      (known : UnaryOperator.ofText? text = some operator)
      (operandClosed : IsClosed variableName operand) :
      IsClosed variableName (.unary text operand)
  | binary
      {text : String}
      (operator : BinaryOperator)
      {left right : Tree α}
      (known : BinaryOperator.ofText? text = some operator)
      (leftClosed : IsClosed variableName left)
      (rightClosed : IsClosed variableName right) :
      IsClosed variableName (.binary text left right)
  | call
      {name : String}
      (function : Function)
      {argument : Tree α}
      (known : Function.ofName? name = some function)
      (argumentClosed : IsClosed variableName argument) :
      IsClosed variableName (.call name argument)

variable {α : Type} [Elementary α] {variableName : String}

omit [Elementary α] in
/-- A closed tree mentions no variable but one. -/
theorem IsClosed.eq_of_mentions
    {tree : Tree α}
    (closed : tree.IsClosed variableName)
    {name : String}
    (mentions : tree.Mentions name) :
    name = variableName := by
  induction closed with
  | literal x => cases mentions
  | symbol => exact mentions
  | unary operator known _ operandHypothesis => exact operandHypothesis mentions
  | binary operator known _ _ leftHypothesis rightHypothesis =>
      exact mentions.elim leftHypothesis rightHypothesis
  | call function known _ argumentHypothesis => exact argumentHypothesis mentions

omit [Elementary α] in
theorem IsClosed.isKnown
    {tree : Tree α}
    (closed : tree.IsClosed variableName) :
    tree.IsKnown := by
  induction closed with
  | literal x => exact .literal x
  | symbol => exact .symbol _
  | unary operator known _ operandKnown => exact .unary operator known operandKnown
  | binary operator known _ _ leftKnown rightKnown =>
      exact .binary operator known leftKnown rightKnown
  | call function known _ argumentKnown => exact .call function known argumentKnown

/-- A closed tree has a value where its variable is bound or not mentioned. -/
theorem exists_value
    {bindings : Bindings α}
    {tree : Tree α}
    (closed : tree.IsClosed variableName)
    (bound : tree.Mentions variableName → (bindings.lookup variableName).isSome) :
    ∃ y, tree.value bindings = .ok y := by
  refine closed.isKnown.exists_value fun name mentions => ?_
  obtain rfl := closed.eq_of_mentions mentions
  exact bound mentions

end Tree

namespace Grammar

variable {α : Type} [Elementary α] {variableName : String}

/-- The operators of the levels have a meaning. -/
theorem Precedence.exists_operator
    {precedence : Precedence}
    (sign : OperatorToken precedence.symbols) :
    ∃ operator, BinaryOperator.ofText? sign.val.text = some operator := by
  have isSymbol : sign.val.text ∈ precedence.symbols := (isOperator_iff.mp sign.property).2
  cases precedence with
  | additive =>
      simp only [symbols, List.mem_cons, List.not_mem_nil, or_false] at isSymbol
      rcases isSymbol with text | text
      · exact ⟨.add, by rw [text]; rfl⟩
      · exact ⟨.subtract, by rw [text]; rfl⟩
  | multiplicative =>
      simp only [symbols, List.mem_cons, List.not_mem_nil, or_false] at isSymbol
      rcases isSymbol with text | text
      · exact ⟨.multiply, by rw [text]; rfl⟩
      · exact ⟨.divide, by rw [text]; rfl⟩

mutual

/-- The tree of a derivation is closed. -/
theorem Derivation.isClosed_tree :
    {nonterminal : Nonterminal} → (derivation : Derivation variableName nonterminal) →
    (derivation.tree : Tree α).IsClosed variableName
  | _, .chain first links => links.isClosed_extend first.isClosed_tree
  | _, .signed sign operand => by
      rw [Derivation.tree]
      split
      · exact .unary .minus rfl operand.isClosed_tree
      · exact operand.isClosed_tree
  | _, .unsigned operand => operand.isClosed_tree
  | _, .raised base caret exponent =>
      .binary .power rfl base.isClosed_tree exponent.isClosed_tree
  | _, .plain base => base.isClosed_tree
  | _, .number token => .literal _
  | _, .constant word meaning named => .literal _
  | _, .symbol word named => .symbol
  | _, .call word meaning named opener argument closer =>
      .call meaning meaning.ofName?_name argument.isClosed_tree
  | _, .group opener body closer => body.isClosed_tree

/-- The links of a chain extend closed trees to closed trees. -/
theorem Links.isClosed_extend :
    {precedence : Precedence} → (links : Links variableName precedence) →
    {left : Tree α} → left.IsClosed variableName →
    (links.extend left).IsClosed variableName
  | _, .done, _, leftClosed => leftClosed
  | _, .link sign operand links, _, leftClosed => by
      obtain ⟨operator, known⟩ := Precedence.exists_operator sign
      exact links.isClosed_extend (.binary operator known leftClosed operand.isClosed_tree)

end

end Grammar

namespace Expression

variable {α : Type} [Elementary α] {source : String} {declared : Value}
  {expression : Expression α}

/-- The parts of a compiled expression: the declared variable and a tree that is
closed in it. -/
theorem isClosed_of_compile
    (compiled : compile source declared = .ok expression) :
    Variable.check declared = .ok expression.variableName ∧
      expression.root.IsClosed expression.variableName := by
  obtain ⟨tokens, name, root, scanned, checked, parsed, rfl⟩ := compile_eq_ok_iff.mp compiled
  obtain ⟨words, last, rfl, areWords⟩ := Lexer.exists_words scanned
  rw [Parser.parse_eq_complete areWords] at parsed
  obtain ⟨derivation, -, -, rfl⟩ := Parser.exists_derivation_of_complete parsed
  exact ⟨checked, derivation.isClosed_tree⟩

/-- A compiled expression has a value where its variable is bound or not mentioned. -/
theorem exists_evaluate_of_mentions
    (compiled : compile source declared = .ok expression)
    {bindings : Bindings α}
    (bound : expression.root.Mentions expression.variableName →
      (bindings.lookup expression.variableName).isSome) :
    ∃ y, expression.evaluate bindings = .ok y := by
  rw [evaluate, Tree.evaluate_eq_value]
  exact Tree.exists_value (isClosed_of_compile compiled).2 bound

/-- A compiled expression that mentions its variable fails where the variable is not bound. -/
theorem evaluate_of_unbound
    (compiled : compile source declared = .ok expression)
    (mentions : expression.root.Mentions expression.variableName)
    {bindings : Bindings α}
    (unbound : bindings.lookup expression.variableName = none) :
    expression.evaluate bindings =
      .error (.unbound expression.variableName bindings.names) := by
  have closed := (isClosed_of_compile compiled).2
  rw [evaluate, Tree.evaluate_eq_value]
  rcases closed.isKnown.value_or_unbound bindings with ⟨bound, -⟩ | ⟨name, leftmost, failed⟩
  · have isBound := Tree.firstUnbound?_eq_none_iff.mp bound _ mentions
    rw [unbound] at isBound
    cases isBound
  · have present := Tree.mem_symbols_iff.mp (List.mem_of_find?_eq_some leftmost)
    rw [failed, closed.eq_of_mentions present]

/-- A compiled expression has a value where its variable is bound. -/
theorem exists_evaluate
    (compiled : compile source declared = .ok expression)
    {bindings : Bindings α}
    (bound : (bindings.lookup expression.variableName).isSome) :
    ∃ y, expression.evaluate bindings = .ok y :=
  exists_evaluate_of_mentions compiled fun _ => bound

/-- A compiled expression has a value at every value of its variable. -/
theorem exists_at?
    (compiled : compile source declared = .ok expression)
    (x : α) :
    ∃ y, expression.at? x = .ok y :=
  exists_evaluate compiled (by simp)

/-- A compiled expression is a function of its variable. -/
theorem exists_function
    (compiled : compile source declared = .ok expression) :
    ∃ value : α → α, ∀ x, expression.at? x = .ok (value x) :=
  Classical.axiomOfChoice (exists_at? compiled)

/-- A compiled expression knows its operators and functions and mentions its
declared variable or none. Its value exists at every scalar and under all
bindings of the variable, since no operation fails. -/
theorem compile_total
    {variableName : String}
    (compiled : compile source (.text variableName) = .ok expression) :
    expression.root.IsClosed variableName ∧
      (∀ x : α, ∃ y, expression.at? x = .ok y) ∧
      (∀ bindings : Bindings α, variableName ∈ bindings.map Prod.fst →
        ∃ y, expression.evaluate bindings = .ok y) ∧
      (∀ (function : Function) (x : α), ∃ y, function.apply x = .ok y) ∧
      ∀ (operator : BinaryOperator) (x y : α), ∃ z, operator.apply x y = .ok z := by
  obtain ⟨checked, closed⟩ := isClosed_of_compile compiled
  obtain ⟨same, -, -⟩ := Variable.check_eq_ok_iff.mp checked
  cases same
  refine ⟨closed, exists_at? compiled, ?_, Function.exists_apply, BinaryOperator.exists_apply⟩
  intro bindings bound
  obtain ⟨⟨name, x⟩, present, rfl⟩ := List.mem_map.mp bound
  exact exists_evaluate compiled (List.lookup_isSome_iff.mpr ⟨_, present, beq_self_eq_true _⟩)

/-- The variable alone is its own value. -/
theorem exists_identity :
    ∃ expression : Expression Float, compile "x" (.text "x") = .ok expression ∧
      ∀ x, expression.at? x = .ok x := by
  refine ⟨⟨"x", .symbol "x", "x", (Tree.symbol "x" : Tree Float).variableNames⟩,
    compile_eq_ok_iff.mpr
      ⟨[⟨.identifier, "x", 0⟩, .finish 1], "x", .symbol "x", by rfl, by rfl, by rfl, rfl⟩,
    fun x => ?_⟩
  rw [at?, evaluate, Tree.evaluate_eq_value, Tree.value, Bindings.valueOf, List.lookup_cons_self]
  rfl

/-- A logarithm over its argument has a value at zero, where neither has one. -/
theorem compile_total_at_zero :
    ∃ expression : Expression Float,
      compile "ln(x)/x" (.text "x") = .ok expression ∧
        ∃ y, expression.at? 0 = .ok y := by
  let root : Tree Float := .binary "/" (.call "ln" (.symbol "x")) (.symbol "x")
  have compiled : compile "ln(x)/x" (.text "x") =
      .ok ⟨"ln(x)/x", root, "x", root.variableNames⟩ :=
    compile_eq_ok_iff.mpr
      ⟨[⟨.identifier, "ln", 0⟩, ⟨.opener, "(", 2⟩, ⟨.identifier, "x", 3⟩, ⟨.closer, ")", 4⟩,
          ⟨.operator, "/", 5⟩, ⟨.identifier, "x", 6⟩, .finish 7], "x", root,
        by rfl, by rfl, by rfl, rfl⟩
  obtain ⟨-, total, -⟩ := compile_total compiled
  exact ⟨_, compiled, total 0⟩

end Expression
end Calculator
