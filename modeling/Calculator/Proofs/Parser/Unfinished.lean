import Calculator.Proofs.Parser.EarliestError
import Calculator.Proofs.Parser.ShownToken

/-!
# Input that ends too soon

Tokens that could go on to an expression within the limit on nesting are refused at the
end of input and nowhere before. The innermost parenthesis that they leave open is
reported, unless they end with the name of a function: then the end of input is reported
where the parenthesis of the function should open.
-/

namespace Calculator
namespace Grammar

/-- The name of a function, behind which only a parenthesis can stand. -/
def IsFunctionName (token : Token) : Prop :=
  token.kind = .identifier ∧ ∃ meaning : Function, token.text = meaning.name

/-- Tokens that do not end with the name of a function. -/
def EndsPlain (tokens : List Token) : Prop :=
  ∀ word ∈ tokens.getLast?, ¬IsFunctionName word

theorem endsPlain_nil : EndsPlain [] := nofun

@[simp] theorem endsPlain_singleton_iff {token : Token} :
    EndsPlain [token] ↔ ¬IsFunctionName token := by
  simp [EndsPlain]

theorem endsPlain_of_kind
    {token : Token}
    (other : token.kind ≠ .identifier) :
    EndsPlain [token] :=
  endsPlain_singleton_iff.mpr fun named => other named.1

theorem EndsPlain.append
    {left right : List Token}
    (leftPlain : EndsPlain left)
    (rightPlain : EndsPlain right) :
    EndsPlain (left ++ right) := by
  intro word last
  rw [List.getLast?_append, Option.mem_def, Option.or_eq_some_iff] at last
  rcases last with last | ⟨-, last⟩
  · exact rightPlain word last
  · exact leftPlain word last

theorem endsPlain_operator
    {symbols : List String}
    (sign : OperatorToken symbols) :
    EndsPlain [sign.val] :=
  endsPlain_of_kind (by simp [(isOperator_iff.mp sign.property).1])

theorem Opening.endsPlain
    {lead : List Token}
    {opener : Token}
    {function : Option String}
    (opening : Opening lead opener function) :
    EndsPlain lead := by
  cases opening with
  | group opener => exact endsPlain_of_kind (by simp [opener.property])
  | call word meaning named opener =>
      rw [EndsPlain, List.getLast?_cons_cons]
      exact endsPlain_of_kind (by simp [opener.property])

variable {variableName : String}

mutual

/-- No derivation ends with the name of a function. -/
theorem Derivation.endsPlain_yield (unreserved : variableName ∉ reservedNames) :
    {nonterminal : Nonterminal} → (derivation : Derivation variableName nonterminal) →
    EndsPlain derivation.yield
  | _, .chain first links =>
      (first.endsPlain_yield unreserved).append (links.endsPlain_yield unreserved)
  | _, .signed sign operand =>
      (endsPlain_operator sign).append (operand.endsPlain_yield unreserved)
  | _, .unsigned operand => operand.endsPlain_yield unreserved
  | _, .raised base caret exponent =>
      (base.endsPlain_yield unreserved).append
        ((endsPlain_operator caret).append (exponent.endsPlain_yield unreserved))
  | _, .plain base => base.endsPlain_yield unreserved
  | _, .number token => endsPlain_of_kind (by simp [token.property])
  | _, .constant word meaning named => by
      refine endsPlain_singleton_iff.mpr ?_
      rintro ⟨-, function, sameName⟩
      have found := Constant.ofName?_eq_some_iff.mpr named
      rw [sameName, Constant.ofName?_functionName] at found
      cases found
  | _, .symbol word named => by
      refine endsPlain_singleton_iff.mpr ?_
      rintro ⟨-, function, sameName⟩
      exact unreserved (named ▸ sameName ▸ function.name_mem_reservedNames)
  | _, .call word meaning named opener argument closer =>
      (Opening.call word meaning named opener).endsPlain.append
        ((argument.endsPlain_yield unreserved).append
          (endsPlain_of_kind (by simp [closer.property])))
  | _, .group opener body closer =>
      (Opening.group opener).endsPlain.append
        ((body.endsPlain_yield unreserved).append
          (endsPlain_of_kind (by simp [closer.property])))

theorem Links.endsPlain_yield (unreserved : variableName ∉ reservedNames) :
    {precedence : Precedence} → (links : Links variableName precedence) →
    EndsPlain links.yield
  | _, .done => endsPlain_nil
  | _, .link sign operand links =>
      (endsPlain_operator sign).append
        ((operand.endsPlain_yield unreserved).append (links.endsPlain_yield unreserved))

end

end Grammar

namespace Parser

open Grammar

variable {α : Type} [Elementary α] {frame : Frame} {nonterminal : Nonterminal}
  {nesting : Nesting} {tokens : List Token} {error : ParseError}

/-- What is reported at the end of input behind tokens that could go on, when some
parentheses have been opened before them. -/
inductive EndReport (finish : Token) (opened tokens : List Token) : ParseError → Prop
  | function
      {front : List Token}
      {word : Token}
      (split : tokens = front ++ [word])
      (named : IsFunctionName word) :
      EndReport finish opened tokens (.notOpener word.text finish)
  | innermost
      (plain : EndsPlain tokens) :
      EndReport finish opened tokens (Nesting.endError ⟨stillOpen opened tokens, 0⟩ finish)

/-- A report on tokens behind some front is a report on the whole. -/
theorem EndReport.behind
    {finish : Token}
    {front opened inside : List Token}
    (report : EndReport finish inside tokens error)
    (frontPlain : EndsPlain front)
    (opens : stillOpen opened front = inside) :
    EndReport finish opened (front ++ tokens) error := by
  subst opens
  cases report with
  | function split named => exact .function (by rw [split, List.append_assoc]) named
  | innermost plain =>
      rw [← stillOpen_append]
      exact .innermost (frontPlain.append plain)

/-- Behind the body of a group its parenthesis is reported. -/
theorem endReport_of_body
    (unreserved : frame.variableName ∉ reservedNames)
    (body : Derivation frame.variableName (.level .additive))
    (opener : Token)
    (opened : List Token) :
    EndReport frame.finish (opener :: opened) body.yield (.unclosed opener) := by
  have report : EndReport frame.finish (opener :: opened) body.yield _ :=
    .innermost (body.endsPlain_yield unreserved)
  rw [body.stillOpen_yield] at report
  exact report

/-- Where nothing is left to read, the end of input is reported. -/
theorem Refusal.eq_endError_of_nil
    {failure : ParseFailure}
    (refusal : Refusal α frame nonterminal nesting tokens failure)
    (empty : tokens = []) :
    failure = .grammar (nesting.endError frame.finish) := by
  induction refusal with
  | first _ operandHypothesis => exact operandHypothesis empty
  | unsigned _ _ operandHypothesis => exact operandHypothesis empty
  | base _ baseHypothesis => exact baseHypothesis empty
  | ended => rfl
  | groupTooDeep opening deep => cases opening <;> cases empty
  | inside opening _ _ => cases opening <;> cases empty
  | unclosed opening body => cases opening <;> cases empty
  | notCloser opening body other stops => cases opening <;> cases empty
  | _ => simp at empty

/-- Tokens that go on to what is read, within the levels of nesting that are left, are
refused at the end of input. -/
theorem Refusal.endReport
    (unreserved : frame.variableName ∉ reservedNames)
    {failure : ParseFailure}
    (refusal : Refusal α frame nonterminal nesting tokens failure)
    (isError : failure = .grammar error)
    {rest : List Token}
    (front : HasFrontWithin frame.variableName nonterminal (nestingLimit - nesting.depth)
      (tokens ++ rest)) :
    EndReport frame.finish nesting.openers tokens error := by
  -- The derivation that the tokens go on to is taken apart along the refusal: it shows
  -- that no token is refused, and that the limit is not reached.
  induction refusal with
  | first _ operandHypothesis => exact operandHypothesis isError front.operand
  | next left sign _ operandHypothesis =>
      rw [List.append_assoc, List.cons_append] at front
      rw [List.append_cons]
      refine (operandHypothesis isError (front.link unreserved)).behind ?_ ?_
      · exact (left.endsPlain_yield unreserved).append (endsPlain_operator sign)
      · simp [left.stillOpen_yield]
  | signTooDeep sign deep =>
      obtain ⟨below, -⟩ := front.signed unreserved
      omega
  | signed sign _ operandHypothesis =>
      obtain ⟨-, deeper⟩ := front.signed unreserved
      exact (operandHypothesis isError deeper).behind (endsPlain_operator sign)
        (openBehind_operator sign _)
  | @unsigned nesting tokens failure noSign refusal operandHypothesis =>
      cases tokens with
      | nil =>
          -- The tokens that follow may begin with a sign, but nothing has been read yet.
          rw [refusal.eq_endError_of_nil rfl] at isError
          cases isError
          exact .innermost endsPlain_nil
      | cons token tokens =>
          exact operandHypothesis isError
            (front.unsigned ((stops_cons _ _ _).mpr ((stops_cons _ _ _).mp noSign)))
  | base _ baseHypothesis => exact baseHypothesis isError front.base
  | caretTooDeep base caret deep =>
      rw [List.append_assoc, List.cons_append] at front
      obtain ⟨below, -⟩ := front.exponent unreserved
      omega
  | exponent base caret _ exponentHypothesis =>
      rw [List.append_assoc, List.cons_append] at front
      obtain ⟨-, deeper⟩ := front.exponent unreserved
      rw [List.append_cons]
      refine (exponentHypothesis isError deeper).behind ?_ ?_
      · exact (base.endsPlain_yield unreserved).append (endsPlain_operator caret)
      · simp [base.stillOpen_yield, Nesting.deeper]
  | ended =>
      cases isError
      exact .innermost endsPlain_nil
  | unreadable token noNumber => cases isError
  | unknown word noConstant noFunction noVariable =>
      rcases (hasFront_iff.mpr ⟨_, front⟩).known_word with
        ⟨constant, named⟩ | named | ⟨function, named, -⟩
      · rw [Constant.ofName?_eq_some_iff.mpr named] at noConstant
        cases noConstant
      · exact absurd named noVariable
      · rw [Function.ofName?_eq_some_iff.mpr named] at noFunction
        cases noFunction
  | @notOpener nesting tokens word meaning named other =>
      cases isError
      obtain ⟨opener, follows, isOpener⟩ :=
        (hasFront_iff.mpr ⟨_, front⟩).exists_opener unreserved named
      cases tokens with
      | nil => exact .function (List.nil_append _).symm ⟨word.property, meaning, named⟩
      | cons token tokens => exact absurd isOpener (other opener follows)
  | groupTooDeep opening deep =>
      rw [List.append_assoc] at front
      obtain ⟨below, -⟩ := front.inside unreserved opening
      omega
  | inside opening _ bodyHypothesis =>
      rw [List.append_assoc] at front
      obtain ⟨-, body, closer, after, shallow, equal⟩ := front.inside unreserved opening
      exact (bodyHypothesis isError
        ⟨body, closer.val :: after, shallow, stops_closer closer _ _, equal⟩).behind
          opening.endsPlain (opening.stillOpen_eq _)
  | unclosed opening body =>
      cases isError
      exact (endReport_of_body unreserved body _ _).behind opening.endsPlain
        (opening.stillOpen_eq _)
  | notCloser opening body other stops =>
      rw [List.append_assoc, List.append_assoc] at front
      exact absurd ((hasFront_iff.mpr ⟨_, front⟩).closes unreserved opening
        ((stops_cons _ _ _).mpr ((stops_cons _ _ _).mp stops))) other
  | closer closer =>
      exact absurd (hasFront_iff.mpr ⟨_, front⟩)
        (not_hasFront_of_kind (by simp [closer.property]) _)
  | notOperand other =>
      refine absurd (hasFront_iff.mpr ⟨_, front⟩) (not_hasFront_of_kind ?_ _)
      simp_all

/-- The whole of the tokens, when it leaves a parenthesis open and goes on to an
expression within the limit, is refused at the end of input. -/
theorem WholeRefusal.endReport
    (unreserved : frame.variableName ∉ reservedNames)
    (refusal : WholeRefusal α frame tokens (.grammar error))
    {rest : List Token}
    {derivation : Derivation frame.variableName (.level .additive)}
    (yields : derivation.yield = tokens ++ rest)
    (shallow : derivation.nesting ≤ nestingLimit)
    (unclosed : stillOpen [] tokens ≠ []) :
    EndReport frame.finish [] tokens error := by
  cases refusal with
  | empty => exact absurd rfl unclosed
  | inside refusal =>
      have front : HasFrontWithin frame.variableName (.level .additive) nestingLimit
          (tokens ++ rest) :=
        ⟨derivation, [], shallow, stops_nil _, by rw [List.append_nil, yields]⟩
      exact refusal.endReport unreserved rfl front
  | behind shorter stops =>
      -- The derivation is the shorter one, so no token stands behind that.
      rw [List.append_assoc, ← List.append_nil derivation.yield] at yields
      obtain ⟨-, behind⟩ := derivation.eq_of_yield_append_eq unreserved shorter (stops_nil _)
        ((stops_cons _ _ _).mpr ((stops_cons _ _ _).mp stops)) yields
      cases behind

end Parser

namespace Expression

open Grammar

variable {α : Type} [Elementary α]

variable {source variableName : String} {declared : Value} {words rest : List Token}
  {finish : Token}

/-- A source whose words go on to an expression within the limit on nesting, and leave a
parenthesis open, is refused at the end of input. -/
theorem exists_endReport
    (usable : Variable.check declared = .ok variableName)
    (scanned : Lexer.tokens source = .ok (words ++ [finish]))
    {derivation : Derivation variableName (.level .additive)}
    (yields : derivation.yield = words ++ rest)
    (shallow : derivation.nesting ≤ nestingLimit)
    (unclosed : stillOpen [] words ≠ []) :
    ∃ error, compile (α := α) source declared = .error (.parse (.grammar error)) ∧
      Parser.EndReport finish [] words error := by
  obtain ⟨-, -, unreserved⟩ := Variable.check_eq_ok_iff.mp usable
  obtain ⟨words', same, covers⟩ := Lexer.exists_covers scanned
  obtain ⟨rfl, isFinish⟩ := List.append_inj' same rfl
  cases isFinish
  have parsed : (Parser.parse variableName (words ++ [Token.finish source.length]) :
      Except ParseFailure (Tree α)) = _ :=
    Parser.parse_eq_complete (fun word present => covers.isWord present) _ _
  cases outcome : Parser.parse (α := α) variableName (words ++ [Token.finish source.length]) with
  | ok tree =>
      rw [parsed] at outcome
      obtain ⟨whole, yieldsWhole, -, -⟩ := Parser.exists_derivation_of_complete outcome
      have closed := whole.stillOpen_yield []
      rw [yieldsWhole] at closed
      exact absurd closed unclosed
  | error failure =>
      obtain ⟨error, rfl⟩ := exists_error_of_parse usable scanned outcome
      refine ⟨error, ?_, ?_⟩
      · exact compile_eq_error_iff.mpr
          (.inr ⟨_, scanned, .inr ⟨variableName, usable, _, outcome, rfl⟩⟩)
      · rw [parsed] at outcome
        exact (Parser.refusal_of_complete (Nat.le_refl _) outcome).endReport unreserved yields
          shallow unclosed

/-- A source whose words go on to an expression within the limit on nesting, and leave a
parenthesis open, is no expression. The innermost of its open parentheses is reported,
unless the last word is the name of a function, behind which the end of input is
reported. -/
theorem unclosed_reported_iff
    {derivation : Derivation variableName (.level .additive)}
    (usable : Variable.check declared = .ok variableName)
    (scanned : Lexer.tokens source = .ok (words ++ [finish]))
    (yields : derivation.yield = words ++ rest)
    (shallow : derivation.nesting ≤ nestingLimit)
    (unclosed : stillOpen [] words ≠ []) :
    ∃ opener, (stillOpen [] words).head? = some opener ∧ opener.text = "(" ∧
      (compile (α := α) source declared = .error (.parse (.grammar (.unclosed opener))) ↔
        EndsPlain words) ∧
      ∀ word ∈ words.getLast?, IsFunctionName word →
        compile (α := α) source declared =
          .error (.parse (.grammar (.notOpener word.text finish))) := by
  obtain ⟨error, failed, report⟩ :=
    exists_endReport (α := α) usable scanned yields shallow unclosed
  obtain ⟨opener, opened, isOpen⟩ := List.exists_cons_of_ne_nil unclosed
  have text : opener.text = "(" := by
    obtain ⟨words', same, covers⟩ := Lexer.exists_covers scanned
    obtain ⟨rfl, -⟩ := List.append_inj' same rfl
    have present : opener ∈ stillOpen [] words := by simp [isOpen]
    rcases mem_of_mem_stillOpen present with none | ⟨present, isOpener⟩
    · cases none
    · exact (text_of_sign covers present).1 isOpener
  refine ⟨opener, by rw [isOpen]; rfl, text, ?_⟩
  rw [failed]
  cases report with
  | @function front word split named =>
      have last : words.getLast? = some word := by rw [split, List.getLast?_concat]
      constructor
      · refine ⟨fun same => ?_, fun plain => absurd named (plain word last)⟩
        cases same
      · intro other isLast _
        rw [last] at isLast
        cases isLast
        rfl
  | innermost plain =>
      rw [isOpen]
      exact ⟨⟨fun _ => plain, fun _ => rfl⟩, fun word last named => absurd named (plain word last)⟩

/-- The parenthesis of a call is reported when its argument ends at an operator. -/
theorem unclosed_reported_iff_of_operator :
    ∃ (words rest : List Token) (finish : Token) (derivation : Derivation "x" (.level .additive)),
      Variable.check (.text "x") = .ok "x" ∧
        Lexer.tokens "2^(ln(x*" = .ok (words ++ [finish]) ∧
        derivation.yield = words ++ rest ∧ derivation.nesting ≤ nestingLimit ∧
        stillOpen [] words ≠ [] ∧
        compile (α := Float) "2^(ln(x*" (.text "x") =
          .error (.parse (.grammar (.unclosed ⟨.opener, "(", 5⟩))) := by
  let words : List Token :=
    [⟨.number, "2", 0⟩, ⟨.operator, "^", 1⟩, ⟨.opener, "(", 2⟩, ⟨.identifier, "ln", 3⟩,
      ⟨.opener, "(", 5⟩, ⟨.identifier, "x", 6⟩, ⟨.operator, "*", 7⟩]
  let rest : List Token := [⟨.identifier, "x", 8⟩, ⟨.closer, ")", 9⟩, ⟨.closer, ")", 10⟩]
  have usable : Variable.check (.text "x") = .ok "x" := by rfl
  have scanned : Lexer.tokens "2^(ln(x*" = .ok (words ++ [Token.finish 8]) := by rfl
  have unclosed : stillOpen [] words ≠ [] := by decide
  obtain ⟨tree, read⟩ : ∃ tree : Tree Float,
      Parser.complete ⟨"x", Token.finish 11, 10⟩ Parser.activeLimit (words ++ rest) = .ok tree :=
    ⟨_, rfl⟩
  obtain ⟨derivation, yields, shallow, -⟩ := Parser.exists_derivation_of_complete read
  refine ⟨words, rest, _, derivation, usable, scanned, yields, shallow, unclosed, ?_⟩
  obtain ⟨opener, isHead, -, reported, -⟩ :=
    unclosed_reported_iff (α := Float) usable scanned yields shallow unclosed
  cases isHead
  refine reported.mpr ?_
  rintro word ⟨⟩ ⟨isWord, -⟩
  cases isWord

/-- A parenthesis that is open behind the name of a function is not reported, although the
words are the first ones of an expression. -/
theorem not_unclosed_behind_function :
    ∃ (words rest : List Token) (finish : Token),
      Lexer.tokens "(sin" = .ok (words ++ [finish]) ∧
        (∃ last, Lexer.tokens "(sin(x))" = .ok (words ++ rest ++ [last])) ∧ rest ≠ [] ∧
        (∃ expression : Expression Float, compile "(sin(x))" (.text "x") = .ok expression) ∧
        (stillOpen [] words).head? = some ⟨.opener, "(", 0⟩ ∧
        compile (α := Float) "(sin" (.text "x") =
          .error (.parse (.grammar (.notOpener "sin" finish))) := by
  let words : List Token := [⟨.opener, "(", 0⟩, ⟨.identifier, "sin", 1⟩]
  let rest : List Token :=
    [⟨.opener, "(", 4⟩, ⟨.identifier, "x", 5⟩, ⟨.closer, ")", 6⟩, ⟨.closer, ")", 7⟩]
  have scanned : Lexer.tokens "(sin" = .ok (words ++ [Token.finish 4]) := by rfl
  have longer : Lexer.tokens "(sin(x))" = .ok (words ++ rest ++ [Token.finish 8]) := by rfl
  have compiled : ∃ expression : Expression Float,
      compile "(sin(x))" (.text "x") = .ok expression :=
    ⟨_, compile_eq_ok_iff.mpr
      ⟨_, "x", .call "sin" (.symbol "x"), longer, by rfl, by rfl, rfl⟩⟩
  have refused : compile (α := Float) "(sin" (.text "x") =
      .error (.parse (.grammar (.notOpener "sin" (Token.finish 4)))) :=
    compile_eq_error_iff.mpr (.inr ⟨_, scanned, .inr ⟨"x", by rfl, _, by rfl, rfl⟩⟩)
  exact ⟨words, rest, _, scanned, ⟨_, longer⟩, List.cons_ne_nil _ _, compiled, rfl, refused⟩

end Expression
end Calculator
