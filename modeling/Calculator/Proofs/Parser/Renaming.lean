import Calculator.Proofs.Evaluation.Totality
import Calculator.Proofs.Parser.ActiveLimit
import Calculator.Proofs.Parser.Correspondence

/-!
# The name of the variable does not matter

Tokens in which the variable is called otherwise, by a usable name that no word of theirs is, are
read as the same tree with the variable called otherwise, or refused for the same error at the same
position. The two trees are one function.
-/

namespace Calculator

/-- A token in which a variable of one name is called by another. -/
def Token.renamed (old new : String) (token : Token) : Token :=
  if token.kind = .identifier ∧ token.text = old then { token with text := new } else token

/-! ## Tokens under another name -/

section Tokens

variable {old new : String} {token : Token}

@[simp] theorem Token.kind_renamed : (token.renamed old new).kind = token.kind := by
  rw [renamed]
  split <;> rfl

@[simp] theorem Token.position_renamed : (token.renamed old new).position = token.position := by
  rw [renamed]
  split <;> rfl

theorem Token.renamed_of_ne (other : token.kind = .identifier → token.text ≠ old) :
    token.renamed old new = token :=
  if_neg fun isOld => other isOld.1 isOld.2

/-- One of some tokens beside what it is under the other name. -/
def Token.Becomes (old new : String) (tokens : List Token) (token token' : Token) : Prop :=
  token ∈ tokens ∧ token' = token.renamed old new

/-- Tokens correspond to what they are under a usable name that is new to them. -/
theorem corresponding_becomes
    {tokens : List Token}
    (unreserved : old ∉ reservedNames)
    (unreserved' : new ∉ reservedNames)
    (fresh : ∀ token ∈ tokens, token.kind = .identifier → token.text ≠ new) :
    Corresponding old new (Token.Becomes old new tokens) where
  unreserved := unreserved
  unreserved' := unreserved'
  kind := by
    rintro token _ ⟨-, rfl⟩
    exact Token.kind_renamed
  text := by
    rintro token _ ⟨-, rfl⟩ notWord
    rw [Token.renamed_of_ne fun isWord => absurd isWord notWord]
  word := by
    rintro token _ ⟨present, rfl⟩ isWord
    by_cases isOld : token.text = old
    · exact .inl ⟨isOld, by rw [Token.renamed, if_pos ⟨isWord, isOld⟩]⟩
    · rw [Token.renamed_of_ne fun _ => isOld]
      exact .inr ⟨isOld, fresh token present isWord, rfl⟩

theorem forall₂_becomes
    {tokens words : List Token}
    (among : ∀ word ∈ words, word ∈ tokens) :
    List.Forall₂ (Token.Becomes old new tokens) words (words.map (Token.renamed old new)) := by
  rw [List.forall₂_map_right_iff, List.forall₂_same]
  exact fun word present => ⟨among word present, rfl⟩

end Tokens

/-! ## Values of trees under another name -/

namespace Tree

variable {α : Type} [Elementary α] {old new : String}

/-- A tree has the same value under another name where its names have the same values. -/
theorem value_renamed
    {bindings bindings' : Bindings α}
    {tree : Tree α}
    (agree : ∀ name, tree.Mentions name →
      bindings'.valueOf (if name = old then new else name) = bindings.valueOf name) :
    (tree.renamed old new).value bindings' = tree.value bindings := by
  induction tree with
  | literal value => rfl
  | symbol name => exact agree name rfl
  | unary operator operand operandHypothesis =>
      rw [renamed, value, value, operandHypothesis agree]
  | binary operator left right leftHypothesis rightHypothesis =>
      rw [renamed, value, value, leftHypothesis fun name mentions => agree name (.inl mentions),
        rightHypothesis fun name mentions => agree name (.inr mentions)]
  | call function argument argumentHypothesis =>
      rw [renamed, value, value, argumentHypothesis agree]
  | foreign text => rfl

/-- A closed tree and the same tree under another name are one function of the variable. -/
theorem IsClosed.exists_evaluate_renamed
    {tree : Tree α}
    (closed : tree.IsClosed old)
    (x : α) :
    ∃ y, tree.evaluate [(old, x)] = .ok y ∧ (tree.renamed old new).evaluate [(new, x)] = .ok y := by
  obtain ⟨y, found⟩ : ∃ y, tree.value [(old, x)] = .ok y := exists_value closed fun _ => by simp
  refine ⟨y, (evaluate_eq_value _ _).trans found, ?_⟩
  rw [evaluate_eq_value, ← found]
  refine value_renamed fun name mentions => ?_
  obtain rfl := closed.eq_of_mentions mentions
  rw [if_pos rfl, Bindings.valueOf, Bindings.valueOf, List.lookup_cons_self, List.lookup_cons_self]
  rfl

end Tree

/-! ## Reading under another name -/

namespace Parser

variable {α : Type} [Elementary α] {variableName : String} {tokens : List Token}

/-- Tokens that end with the end of input do not exhaust the budget. -/
theorem parse_ne_exhausted
    {last : Token}
    (ends : tokens.getLast? = some last)
    (isFinish : last.kind = .finish) :
    parse (α := α) variableName tokens ≠ .error .exhausted := by
  obtain ⟨before, finish, after, rfl, isEnd, others⟩ := exists_finish ends isFinish
  rw [parse_append_finish others isEnd ends isFinish]
  exact complete_ne_exhausted variableName finish before

/-- Tokens that end with the end of input come to the same under another name. -/
theorem related_parse_renamed
    {old new : String}
    (unreserved : old ∉ reservedNames)
    (unreserved' : new ∉ reservedNames)
    {last : Token}
    (ends : tokens.getLast? = some last)
    (isFinish : last.kind = .finish)
    (fresh : ∀ token ∈ tokens, token.kind = .identifier → token.text ≠ new) :
    Outcome.Related (FailuresMatch (Token.Becomes old new tokens))
      (fun tree tree' => tree' = tree.renamed old new)
      (parse (α := α) old tokens) (parse new (tokens.map (Token.renamed old new))) := by
  have corresponding := corresponding_becomes unreserved unreserved' fresh
  obtain ⟨before, finish, after, split, isEnd, others⟩ := exists_finish ends isFinish
  have among : ∀ word ∈ before, word ∈ tokens := by
    rw [split]
    exact fun word present => List.mem_append_left _ present
  have finishAmong : finish ∈ tokens := by simp [split]
  have renamed : tokens.map (Token.renamed old new) = before.map (Token.renamed old new) ++
      finish.renamed old new :: after.map (Token.renamed old new) := by
    rw [split, List.map_append, List.map_cons]
  have ends' : (tokens.map (Token.renamed old new)).getLast? = some (last.renamed old new) := by
    rw [List.getLast?_map, ends]
    rfl
  rw [renamed] at ends' ⊢
  have related := related_parse_append (α := α) corresponding others (forall₂_becomes among) isEnd
    ⟨finishAmong, rfl⟩ (split ▸ ends) isFinish ends' (Token.kind_renamed.trans isFinish)
  rwa [← split] at related

/-- The tree that is read from tokens which end with the end of input is closed. -/
theorem isClosed_of_parse
    {last : Token}
    (ends : tokens.getLast? = some last)
    (isFinish : last.kind = .finish)
    {tree : Tree α}
    (read : parse variableName tokens = .ok tree) :
    tree.IsClosed variableName := by
  obtain ⟨before, finish, after, rfl, isEnd, others⟩ := exists_finish ends isFinish
  rw [parse_append_finish others isEnd ends isFinish] at read
  obtain ⟨derivation, -, -, rfl⟩ := exists_derivation_of_complete read
  exact derivation.isClosed_tree

end Parser

namespace Expression

variable {α : Type} [Elementary α]

theorem treeOfTokens_of_check
    {declared : Value}
    {name : String}
    (usable : Variable.check declared = .ok name)
    (tokens : List Token) :
    treeOfTokens (α := α) declared tokens = (Parser.parse name tokens).mapError .parse := by
  rw [treeOfTokens, usable]
  rfl

/-- Tokens that end with the end of input are read alike in a usable variable and, with the variable
called otherwise, in any usable variable that is none of their words: as trees that are equal when
the variable of the one is called otherwise, and that are one function of it, or not at all, for the
same error at the same position, or for the same number that cannot be read. -/
theorem treeOfTokens_renamed
    {old new : String}
    (usable : Variable.check (.text old) = .ok old)
    (usable' : Variable.check (.text new) = .ok new)
    {tokens : List Token}
    {last : Token}
    (ends : tokens.getLast? = some last)
    (isFinish : last.kind = .finish)
    (fresh : ∀ token ∈ tokens, token.kind = .identifier → token.text ≠ new) :
    (∃ tree : Tree α,
        treeOfTokens (.text old) tokens = .ok tree ∧
          treeOfTokens (.text new) (tokens.map (Token.renamed old new)) =
            .ok (tree.renamed old new) ∧
          ∀ source source' x, ∃ y,
            at? ⟨source, tree, old, tree.variableNames⟩ x = .ok y ∧
              at? ⟨source', tree.renamed old new, new, (tree.renamed old new).variableNames⟩ x =
                .ok y) ∨
      (∃ error : ParseError, ∃ token ∈ tokens,
        treeOfTokens (α := α) (.text old) tokens = .error (.parse (.grammar (error.about token))) ∧
          treeOfTokens (α := α) (.text new) (tokens.map (Token.renamed old new)) =
            .error (.parse (.grammar (error.about (token.renamed old new)))) ∧
          (error.about (token.renamed old new)).kind = (error.about token).kind ∧
          (error.about (token.renamed old new)).position = (error.about token).position) ∨
      ∃ text,
        treeOfTokens (α := α) (.text old) tokens = .error (.parse (.unreadableNumber text)) ∧
          treeOfTokens (α := α) (.text new) (tokens.map (Token.renamed old new)) =
            .error (.parse (.unreadableNumber text)) := by
  obtain ⟨-, -, unreserved⟩ := Variable.check_eq_ok_iff.mp usable
  obtain ⟨-, -, unreserved'⟩ := Variable.check_eq_ok_iff.mp usable'
  rw [treeOfTokens_of_check usable, treeOfTokens_of_check usable']
  rcases (Parser.related_parse_renamed (α := α) unreserved unreserved' ends isFinish
    fresh).ok_or_error with
    ⟨tree, _, read, read', rfl⟩ | ⟨failure, failure', refused, refused', failures⟩
  · rw [read, read']
    have closed := Parser.isClosed_of_parse ends isFinish read
    exact .inl ⟨tree, rfl, rfl, fun _ _ x => closed.exists_evaluate_renamed x⟩
  · rw [refused, refused']
    cases failures with
    | @grammar error token token' becomes =>
        obtain ⟨present, rfl⟩ := becomes
        refine .inr (.inl ⟨error, token, present, rfl, rfl, ?_, ?_⟩)
        · rw [ParseError.kind_about, ParseError.kind_about]
        · rw [ParseError.position_about, ParseError.position_about, Token.position_renamed]
    | unreadableNumber text => exact .inr (.inr ⟨text, rfl, rfl⟩)
    | exhausted => exact absurd refused (Parser.parse_ne_exhausted ends isFinish)

/-- The name of a function stays, and so does what is not read. -/
theorem treeOfTokens_renamed_early_end :
    let tokens : List Token := [⟨.identifier, "sin", 0⟩, ⟨.opener, "(", 3⟩, ⟨.identifier, "t", 4⟩,
      ⟨.closer, ")", 5⟩, ⟨.operator, "-", 6⟩, ⟨.identifier, "t", 7⟩, .finish 8, ⟨.number, "t", 9⟩,
      .finish 10]
    let tokens' : List Token := [⟨.identifier, "sin", 0⟩, ⟨.opener, "(", 3⟩, ⟨.identifier, "in", 4⟩,
      ⟨.closer, ")", 5⟩, ⟨.operator, "-", 6⟩, ⟨.identifier, "in", 7⟩, .finish 8, ⟨.number, "t", 9⟩,
      .finish 10]
    Variable.check (.text "t") = .ok "t" ∧ Variable.check (.text "in") = .ok "in" ∧
      tokens.getLast? = some (.finish 10) ∧
      (∀ token ∈ tokens, token.kind = .identifier → token.text ≠ "in") ∧
      ∃ tree : Tree Float,
        treeOfTokens (.text "t") tokens = .ok tree ∧
          treeOfTokens (.text "in") tokens' = .ok (tree.renamed "t" "in") ∧
          ∀ x, ∃ y, at? ⟨"sin(t)-t", tree, "t", tree.variableNames⟩ x = .ok y ∧
            at? ⟨"sin(in)-in", tree.renamed "t" "in", "in",
              (tree.renamed "t" "in").variableNames⟩ x = .ok y := by
  intro tokens tokens'
  have usable : Variable.check (.text "t") = .ok "t" := rfl
  have usable' : Variable.check (.text "in") = .ok "in" := rfl
  have ends : tokens.getLast? = some (.finish 10) := rfl
  have fresh : ∀ token ∈ tokens, token.kind = .identifier → token.text ≠ "in" := by decide
  have read : treeOfTokens (.text "t") tokens =
      .ok (.binary "-" (.call "sin" (.symbol "t")) (.symbol "t") : Tree Float) := by rfl
  refine ⟨usable, usable', ends, fresh, ?_⟩
  rcases treeOfTokens_renamed (α := Float) usable usable' ends rfl fresh with
    ⟨tree, readTree, readTree', agree⟩ | ⟨error, token, -, refused, -⟩ | ⟨text, refused, -⟩
  · exact ⟨tree, readTree, readTree', agree _ _⟩
  · cases read.symm.trans refused
  · cases read.symm.trans refused

end Expression

end Calculator
