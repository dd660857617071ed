import Calculator.Proofs.Evaluation.Totality

/-!
# The variable in the text and in the tree

A derivation drops no word of its tokens and adds none, so that a compiled expression mentions its
variable when its source does.
-/

namespace Calculator

/-- A name stands among tokens as a word. -/
def Token.Occurs (name : String) (tokens : List Token) : Prop :=
  ∃ token ∈ tokens, token.kind = .identifier ∧ token.text = name

namespace Token

variable {name : String} {token : Token} {tokens others : List Token}

instance (name : String) (tokens : List Token) : Decidable (Occurs name tokens) :=
  List.decidableBEx _ tokens

@[simp] theorem not_occurs_nil : ¬Occurs name [] := by
  simp [Occurs]

theorem occurs_cons_iff :
    Occurs name (token :: tokens) ↔
      (token.kind = .identifier ∧ token.text = name) ∨ Occurs name tokens := by
  simp [Occurs]

@[simp] theorem occurs_append_iff :
    Occurs name (tokens ++ others) ↔ Occurs name tokens ∨ Occurs name others := by
  simp only [Occurs, List.mem_append, or_and_right, exists_or]

/-- Only words are names. -/
theorem occurs_cons_iff_of_kind
    {kind : Kind}
    (isKind : token.kind = kind)
    (other : kind ≠ .identifier) :
    Occurs name (token :: tokens) ↔ Occurs name tokens := by
  rw [occurs_cons_iff, or_iff_right]
  exact fun named => other (isKind.symm.trans named.1)

theorem occurs_concat_iff_of_kind
    {kind : Kind}
    (isKind : token.kind = kind)
    (other : kind ≠ .identifier) :
    Occurs name (tokens ++ [token]) ↔ Occurs name tokens := by
  rw [occurs_append_iff, occurs_cons_iff_of_kind isKind other, or_iff_left not_occurs_nil]

theorem occurs_word_iff (isWord : token.kind = .identifier) :
    Occurs name [token] ↔ token.text = name := by
  rw [occurs_cons_iff, or_iff_left not_occurs_nil, and_iff_right isWord]

end Token

namespace Grammar

open Token

variable {α : Type} [Elementary α] {variableName : String}

theorem OperatorToken.occurs_cons_iff
    {symbols : List String}
    (sign : OperatorToken symbols)
    {tokens : List Token} :
    Occurs variableName (sign.val :: tokens) ↔ Occurs variableName tokens :=
  occurs_cons_iff_of_kind (isOperator_iff.mp sign.property).1 nofun

mutual

/-- The tree of a derivation mentions the variable when it occurs in the tokens. -/
theorem Derivation.mentions_tree_iff (unreserved : variableName ∉ reservedNames) :
    {nonterminal : Nonterminal} → (derivation : Derivation variableName nonterminal) →
    ((derivation.tree : Tree α).Mentions variableName ↔ Occurs variableName derivation.yield)
  | _, .chain first links => by
      rw [Derivation.tree, links.mentions_extend_iff unreserved,
        first.mentions_tree_iff unreserved, Derivation.yield, occurs_append_iff]
  | _, .signed sign operand => by
      rw [Derivation.tree, Derivation.yield, sign.occurs_cons_iff]
      split
      · exact operand.mentions_tree_iff unreserved
      · exact operand.mentions_tree_iff unreserved
  | _, .unsigned operand => operand.mentions_tree_iff unreserved
  | _, .raised base caret exponent => by
      rw [Derivation.tree, Tree.Mentions, base.mentions_tree_iff unreserved,
        exponent.mentions_tree_iff unreserved, Derivation.yield, occurs_append_iff,
        caret.occurs_cons_iff]
  | _, .plain base => base.mentions_tree_iff unreserved
  | _, .number token => by
      rw [Derivation.tree, Tree.Mentions, Derivation.yield,
        occurs_cons_iff_of_kind token.property nofun]
      exact (iff_false_intro not_occurs_nil).symm
  | _, .constant word meaning named => by
      rw [Derivation.tree, Tree.Mentions, Derivation.yield, occurs_word_iff word.property, named]
      refine iff_of_false not_false fun isVariable => unreserved ?_
      exact isVariable ▸ meaning.name_mem_reservedNames
  | _, .symbol word named => by
      rw [Derivation.tree, Tree.Mentions, Derivation.yield, occurs_word_iff word.property]
      exact iff_of_true rfl named
  | _, .call word meaning named opener argument closer => by
      have other : word.val.text ≠ variableName := fun isVariable =>
        unreserved (isVariable ▸ named ▸ meaning.name_mem_reservedNames)
      rw [Derivation.tree, Tree.Mentions, argument.mentions_tree_iff unreserved, Derivation.yield,
        occurs_cons_iff, or_iff_right fun isVariable => other isVariable.2,
        occurs_cons_iff_of_kind opener.property nofun,
        occurs_concat_iff_of_kind closer.property nofun]
  | _, .group opener body closer => by
      rw [Derivation.tree, body.mentions_tree_iff unreserved, Derivation.yield,
        occurs_cons_iff_of_kind opener.property nofun,
        occurs_concat_iff_of_kind closer.property nofun]

/-- Links add the variable when it occurs in their tokens. -/
theorem Links.mentions_extend_iff (unreserved : variableName ∉ reservedNames) :
    {precedence : Precedence} → (links : Links variableName precedence) → {left : Tree α} →
    ((links.extend left).Mentions variableName ↔
      left.Mentions variableName ∨ Occurs variableName links.yield)
  | _, .done, left => (or_iff_left not_occurs_nil).symm
  | _, .link sign operand links, left => by
      rw [Links.extend, links.mentions_extend_iff unreserved, Tree.Mentions,
        operand.mentions_tree_iff unreserved, Links.yield, sign.occurs_cons_iff, occurs_append_iff,
        or_assoc]

end

end Grammar

/-- A closed tree has its variable, once, when it mentions it. -/
theorem Tree.IsClosed.variableNames_eq
    {α : Type}
    {variableName : String}
    {tree : Tree α}
    (closed : tree.IsClosed variableName) :
    tree.variableNames = if tree.Mentions variableName then [variableName] else [] := by
  split
  · next mentions =>
    refine List.perm_singleton.mp ?_
    rw [List.perm_ext_iff_of_nodup (nodup_variableNames tree) (List.pairwise_singleton _ _)]
    intro name
    rw [mem_variableNames_iff, List.mem_singleton]
    exact ⟨closed.eq_of_mentions, fun same => same ▸ mentions⟩
  · next absent =>
    refine List.eq_nil_iff_forall_not_mem.mpr fun name present => absent ?_
    rw [mem_variableNames_iff] at present
    rwa [closed.eq_of_mentions present] at present

namespace Expression

open Token

variable {α : Type} [Elementary α] {source variableName : String} {expression : Expression α}

/-- A compiled expression mentions its variable when it occurs in the tokens of its source. -/
theorem mentions_root_iff
    {tokens : List Token}
    (scanned : Lexer.tokens source = .ok tokens)
    (compiled : compile source (.text variableName) = .ok expression) :
    expression.root.Mentions variableName ↔ Occurs variableName tokens := by
  obtain ⟨found, name, root, scanned', checked, parsed, rfl⟩ := compile_eq_ok_iff.mp compiled
  obtain ⟨same, -, unreserved⟩ := Variable.check_eq_ok_iff.mp checked
  cases same
  cases scanned.symm.trans scanned'
  obtain ⟨words, last, rfl, areWords⟩ := Lexer.exists_words scanned
  rw [Parser.parse_eq_complete areWords] at parsed
  obtain ⟨derivation, yields, -, rfl⟩ := Parser.exists_derivation_of_complete parsed
  have finish : (Token.finish last).kind = .finish := rfl
  rw [derivation.mentions_tree_iff unreserved, yields, occurs_concat_iff_of_kind finish nofun]

/-- A compiled expression has its variable when the variable occurs in its source, and no other. It
is constant and has a value without bindings when the variable does not occur. -/
theorem compile_variableNames
    (compiled : compile source (.text variableName) = .ok expression) :
    ∃ tokens, Lexer.tokens source = .ok tokens ∧
      expression.variableNames = (if Occurs variableName tokens then [variableName] else []) ∧
      (expression.isConstant = true ↔ ¬Occurs variableName tokens) ∧
      ((∃ error, expression.evaluate [] = .error error) ↔ Occurs variableName tokens) ∧
      (∀ error, expression.evaluate [] = .error error → error = .unbound variableName []) := by
  obtain ⟨tokens, name, root, scanned, -, -, collected⟩ := compile_eq_ok_iff.mp compiled
  obtain ⟨checked, closed⟩ := isClosed_of_compile compiled
  obtain ⟨same, -, -⟩ := Variable.check_eq_ok_iff.mp checked
  have named : variableName = expression.variableName := Value.text.inj same
  have mentions := mentions_root_iff scanned compiled
  rw [named] at mentions ⊢
  have names : expression.variableNames =
      if Occurs expression.variableName tokens then [expression.variableName] else [] := by
    have ofRoot : expression.variableNames = expression.root.variableNames := by
      rw [collected]
    rw [ofRoot, closed.variableNames_eq]
    exact if_congr mentions rfl rfl
  refine ⟨tokens, scanned, names, ?_⟩
  rw [isConstant, names]
  by_cases occurs : Occurs expression.variableName tokens
  · have failed : expression.evaluate [] =
        .error (.unbound expression.variableName (Bindings.names [])) :=
      evaluate_of_unbound compiled (mentions.mpr occurs) rfl
    rw [Bindings.names, List.map_nil, List.mergeSort_nil] at failed
    rw [if_pos occurs, failed]
    refine ⟨iff_of_false Bool.false_ne_true (not_not_intro occurs), iff_of_true ⟨_, rfl⟩ occurs, ?_⟩
    exact fun error same => (Except.error.inj same).symm
  · obtain ⟨y, found⟩ : ∃ y, expression.evaluate [] = .ok y :=
      exists_evaluate_of_mentions compiled fun present => absurd (mentions.mp present) occurs
    rw [if_neg occurs, found]
    exact ⟨iff_of_true rfl occurs, iff_of_false (by simp) occurs, by simp⟩

/-- A plus sign and parentheses around a variable. -/
theorem compile_variableNames_of_sine :
    ∃ expression : Expression Float,
      compile "+(sin(x)*2)" (.text "x") = .ok expression ∧
        expression.variableNames = ["x"] ∧ expression.isConstant = false := by
  let root : Tree Float := .binary "*" (.call "sin" (.symbol "x")) (.literal 2.0)
  have scanned : Lexer.tokens "+(sin(x)*2)" =
      .ok [⟨.operator, "+", 0⟩, ⟨.opener, "(", 1⟩, ⟨.identifier, "sin", 2⟩, ⟨.opener, "(", 5⟩,
        ⟨.identifier, "x", 6⟩, ⟨.closer, ")", 7⟩, ⟨.operator, "*", 8⟩, ⟨.number, "2", 9⟩,
        ⟨.closer, ")", 10⟩, .finish 11] := rfl
  have compiled : compile "+(sin(x)*2)" (.text "x") =
      .ok ⟨"+(sin(x)*2)", root, "x", root.variableNames⟩ :=
    compile_eq_ok_iff.mpr ⟨_, "x", root, scanned, by rfl, by rfl, rfl⟩
  obtain ⟨tokens, scanned', names, constant, -⟩ := compile_variableNames compiled
  cases scanned.symm.trans scanned'
  have occurs : Occurs "x" [⟨.operator, "+", 0⟩, ⟨.opener, "(", 1⟩, ⟨.identifier, "sin", 2⟩,
      ⟨.opener, "(", 5⟩, ⟨.identifier, "x", 6⟩, ⟨.closer, ")", 7⟩, ⟨.operator, "*", 8⟩,
      ⟨.number, "2", 9⟩, ⟨.closer, ")", 10⟩, .finish 11] := by decide
  refine ⟨_, compiled, names.trans (if_pos occurs), ?_⟩
  rw [Bool.eq_false_iff, Ne, constant]
  exact not_not_intro occurs

end Expression

end Calculator
