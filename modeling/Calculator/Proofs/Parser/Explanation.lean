import Calculator.Proofs.Grammar.Parenthesis
import Calculator.Proofs.Parser.Refusal

/-!
# What an error tells about the tokens

An error of the grammar is reported either at the innermost parenthesis that the
tokens leave open, or at the first token with which they no longer begin what is
read. Both are carried from the refused operand to the productions around it.
-/

namespace Calculator
namespace Parser

open Grammar

variable {α : Type} [Elementary α] {frame : Frame} {nonterminal : Nonterminal}
  {nesting : Nesting} {tokens : List Token} {error : ParseError}

/-- How an error that is no matter of depth explains why the tokens before the end of
input are refused as a nonterminal inside some open parentheses. -/
inductive Explanation
    (frame : Frame)
    (nonterminal : Nonterminal)
    (opened tokens : List Token)
    (error : ParseError) : Prop
  | unfinished
      {opener : Token}
      (innermost : (stillOpen opened tokens).head? = some opener)
      (begins : Begins frame.variableName nonterminal tokens)
      (shown : error = .unclosed opener)
  | blocked
      (before after : List Token)
      (token : Token)
      (split : tokens ++ [frame.finish] = before ++ token :: after)
      (begins : Begins frame.variableName nonterminal before)
      (noFront : ∀ rest, ¬HasFront frame.variableName nonterminal (before ++ token :: rest))
      (position : error.position = token.position)
      (closer : error.kind = .unmatchedParenthesis →
        token.kind = .closer ∧ error.token? = some token)

/-- An explanation for the tokens behind some front explains the whole, if what is
read goes on behind the front with what is explained. -/
theorem Explanation.behind
    (front : List Token)
    {inner : Nonterminal}
    {opened inside : List Token}
    (explanation : Explanation frame inner inside tokens error)
    (opens : stillOpen opened front = inside)
    (begins : ∀ {text}, Begins frame.variableName inner text →
      Begins frame.variableName nonterminal (front ++ text))
    (narrow : ∀ {text}, text.head? = (tokens ++ [frame.finish]).head? →
      HasFront frame.variableName nonterminal (front ++ text) →
        HasFront frame.variableName inner text) :
    Explanation frame nonterminal opened (front ++ tokens) error := by
  cases explanation with
  | unfinished innermost beginsInner shown =>
      exact .unfinished (by rw [stillOpen_append, opens, innermost]) (begins beginsInner) shown
  | blocked before after token split beginsInner noFront position closer =>
      refine .blocked (front ++ before) after token ?_ (begins beginsInner) ?_ position closer
      · rw [List.append_assoc, split, List.append_assoc]
      · intro rest hasFront
        rw [List.append_assoc] at hasFront
        refine noFront rest (narrow ?_ hasFront)
        rw [split]
        cases before with
        | nil => rfl
        | cons head before => rfl

/-- An error at the first token, which begins no derivation. -/
theorem Explanation.atFirst
    {opened rest : List Token}
    {token : Token}
    (first : tokens ++ [frame.finish] = token :: rest)
    (noFront : ∀ rest, ¬HasFront frame.variableName nonterminal (token :: rest))
    (position : error.position = token.position)
    (closer : error.kind = .unmatchedParenthesis →
      token.kind = .closer ∧ error.token? = some token) :
    Explanation frame nonterminal opened tokens error :=
  .blocked [] rest token first (begins_nil nonterminal) noFront position closer

/-! ## Refused primaries -/

/-- A primary does not begin with a token that is no number, word or parenthesis that
opens. -/
theorem not_hasFront_of_kind
    {token : Token}
    (other : token.kind ∉ [.number, .identifier, .opener])
    (rest : List Token) :
    ¬HasFront frame.variableName .primary (token :: rest) := by
  intro hasFront
  simp only [List.mem_cons, List.not_mem_nil, or_false, not_or] at other
  obtain ⟨notNumber, notWord, notOpener⟩ := other
  rcases hasFront.head with isNumber | isOpener | ⟨isWord, -⟩
  · exact notNumber isNumber
  · exact notOpener isOpener
  · exact notWord isWord

theorem explanation_of_ended
    (finishKind : frame.finish.kind = .finish) :
    Explanation frame .primary nesting.openers [] (nesting.endError frame.finish) := by
  obtain ⟨openers, depth⟩ := nesting
  cases openers with
  | cons opener openers => exact .unfinished rfl (begins_nil _) rfl
  | nil =>
      exact .atFirst rfl (not_hasFront_of_kind (by simp [finishKind])) rfl nofun

theorem explanation_of_closer
    (closer : TokenOf .closer) :
    Explanation frame .primary nesting.openers (closer.val :: tokens)
      (nesting.closerError closer.val) := by
  refine .atFirst rfl (not_hasFront_of_kind (by simp [closer.property])) ?_ ?_
  · rw [Nesting.closerError]
    split <;> rfl
  · rw [Nesting.closerError]
    split
    · exact fun _ => ⟨closer.property, rfl⟩
    · exact nofun

theorem explanation_of_unknown
    (word : TokenOf .identifier)
    (noConstant : Constant.ofName? word.val.text = none)
    (noFunction : Function.ofName? word.val.text = none)
    (noVariable : word.val.text ≠ frame.variableName) :
    Explanation frame .primary nesting.openers (word.val :: tokens)
      (.unknownIdentifier word.val) := by
  refine .atFirst rfl (fun rest hasFront => ?_) rfl nofun
  rcases hasFront.known_word with ⟨constant, named⟩ | named | ⟨function, named, -⟩
  · rw [Constant.ofName?_eq_some_iff.mpr named] at noConstant
    cases noConstant
  · exact noVariable named
  · rw [Function.ofName?_eq_some_iff.mpr named] at noFunction
    cases noFunction

theorem explanation_of_notOpener
    (unreserved : frame.variableName ∉ reservedNames)
    (finishKind : frame.finish.kind = .finish)
    (word : TokenOf .identifier)
    (meaning : Function)
    (named : word.val.text = meaning.name)
    (other : ∀ token ∈ tokens.head?, token.kind ≠ .opener) :
    Explanation frame .primary nesting.openers (word.val :: tokens)
      (.notOpener word.val.text (tokens.headD frame.finish)) := by
  have begins : Begins frame.variableName .primary [word.val] := by
    have inside : Begins frame.variableName (.level .additive) [] := begins_nil _
    obtain ⟨derivation, rest, yields⟩ :=
      inside.inside (.call word meaning named ⟨⟨.opener, "(", 0⟩, rfl⟩)
    exact ⟨derivation, ⟨.opener, "(", 0⟩ :: rest, yields⟩
  have notOpener : (tokens.headD frame.finish).kind ≠ .opener := by
    cases tokens with
    | nil => simp [finishKind]
    | cons token tokens => exact other token rfl
  obtain ⟨after, split⟩ : ∃ after,
      tokens ++ [frame.finish] = tokens.headD frame.finish :: after := by
    cases tokens with
    | nil => exact ⟨[], rfl⟩
    | cons token tokens => exact ⟨tokens ++ [frame.finish], rfl⟩
  refine .blocked [word.val] after _ (by rw [List.cons_append, split]; rfl) begins
    (fun rest hasFront => ?_) rfl nofun
  obtain ⟨opener, follows, isOpener⟩ := hasFront.exists_opener unreserved named
  cases follows
  exact notOpener isOpener

theorem explanation_of_unclosed
    {lead : List Token}
    {opener : Token}
    {function : Option String}
    (opening : Opening lead opener function)
    (body : Derivation frame.variableName (.level .additive)) :
    Explanation frame .primary nesting.openers (lead ++ body.yield) (.unclosed opener) := by
  refine .unfinished ?_ (body.begins.inside opening) rfl
  rw [stillOpen_append, opening.stillOpen_eq, body.stillOpen_yield]
  rfl

theorem explanation_of_notCloser
    (unreserved : frame.variableName ∉ reservedNames)
    {lead : List Token}
    {opener token : Token}
    {function : Option String}
    (opening : Opening lead opener function)
    (body : Derivation frame.variableName (.level .additive))
    (other : token.kind ≠ .closer)
    (stops : Stops (Nonterminal.level .additive).continuations (token :: tokens)) :
    Explanation frame .primary nesting.openers (lead ++ (body.yield ++ token :: tokens))
      (.notCloser function token) := by
  refine .blocked (lead ++ body.yield) (tokens ++ [frame.finish]) token (by simp)
    (body.begins.inside opening) (fun rest hasFront => ?_) rfl nofun
  rw [List.append_assoc] at hasFront
  exact other
    (hasFront.closes unreserved opening ((stops_cons _ _ _).mpr ((stops_cons _ _ _).mp stops)))

/-- A refusal that is no matter of depth is explained by its error. -/
theorem Refusal.explanation
    (unreserved : frame.variableName ∉ reservedNames)
    (finishKind : frame.finish.kind = .finish)
    {failure : ParseFailure}
    (refusal : Refusal α frame nonterminal nesting tokens failure)
    (isError : failure = .grammar error)
    (shallow : error.kind ≠ .nestingTooDeep) :
    Explanation frame nonterminal nesting.openers tokens error := by
  -- A refusal one production further is explained there, and what was read before it is
  -- put in front of the explanation.
  induction refusal with
  | first _ operandHypothesis =>
      exact (operandHypothesis isError).behind [] rfl Begins.level
        fun _ hasFront => hasFront.operand
  | next left sign _ operandHypothesis =>
      rw [List.append_cons]
      refine (operandHypothesis isError).behind (left.yield ++ [sign.val]) ?_ ?_ ?_
      · simp [left.stillOpen_yield]
      · intro text begins
        simpa using begins.link left sign
      · intro text _ hasFront
        rw [← List.append_cons] at hasFront
        exact hasFront.link unreserved
  | signTooDeep sign deep =>
      cases isError
      exact absurd rfl shallow
  | signed sign _ operandHypothesis =>
      exact (operandHypothesis isError).behind [sign.val] (openBehind_operator sign _)
        (Begins.signed sign) fun _ hasFront => hasFront.signed unreserved
  | unsigned noSign _ operandHypothesis =>
      refine (operandHypothesis isError).behind [] rfl Begins.unsigned ?_
      intro text sameHead hasFront
      have notOperator : frame.finish.kind ≠ .operator := by simp [finishKind]
      have stops := noSign.append_of_kind notOperator
      exact hasFront.unsigned fun token first => stops token (sameHead ▸ first)
  | base _ baseHypothesis =>
      exact (baseHypothesis isError).behind [] rfl Begins.base
        fun _ hasFront => hasFront.base
  | caretTooDeep base caret deep =>
      cases isError
      exact absurd rfl shallow
  | exponent base caret _ exponentHypothesis =>
      rw [List.append_cons]
      refine (exponentHypothesis isError).behind (base.yield ++ [caret.val]) ?_ ?_ ?_
      · simp [base.stillOpen_yield, Nesting.deeper]
      · intro text begins
        simpa using begins.exponent base caret
      · intro text _ hasFront
        rw [← List.append_cons] at hasFront
        exact hasFront.exponent unreserved
  | ended =>
      cases isError
      exact explanation_of_ended finishKind
  | unreadable token noNumber => cases isError
  | unknown word noConstant noFunction noVariable =>
      cases isError
      exact explanation_of_unknown word noConstant noFunction noVariable
  | notOpener word meaning named other =>
      cases isError
      exact explanation_of_notOpener unreserved finishKind word meaning named other
  | groupTooDeep opening deep =>
      cases isError
      exact absurd rfl shallow
  | inside opening _ bodyHypothesis =>
      refine (bodyHypothesis isError).behind _ (opening.stillOpen_eq _) (Begins.inside opening) ?_
      intro text _ hasFront
      obtain ⟨body, closer, rest, rfl⟩ := hasFront.inside unreserved opening
      exact ⟨body, closer.val :: rest, stops_closer closer _ _, rfl⟩
  | unclosed opening body =>
      cases isError
      exact explanation_of_unclosed opening body
  | notCloser opening body other stops =>
      cases isError
      exact explanation_of_notCloser unreserved opening body other stops
  | closer closer =>
      cases isError
      exact explanation_of_closer closer
  | notOperand other =>
      cases isError
      refine .atFirst rfl (not_hasFront_of_kind ?_) rfl nofun
      simp_all

end Parser
end Calculator
