import Calculator.Proofs.Parser.Correctness
import Calculator.Proofs.Parser.Explanation

/-!
# Errors are reported as early as possible

Tokens are viable when they can be continued to an expression of any depth. An error
of the grammar that is no matter of depth is reported at the innermost parenthesis
that is left open, in which case all tokens are viable, or at the first token with
which the tokens cease to be viable.
-/

namespace Calculator
namespace Grammar

variable {variableName : String}

/-- The tokens of an expression before the end of input, without a limit on nesting. -/
def Accepted (variableName : String) (tokens : List Token) : Prop :=
  ∃ (derivation : Derivation variableName (.level .additive)) (finish : TokenOf .finish),
    tokens = derivation.yield ++ [finish.val]

/-- Tokens that can be continued to accepted ones. -/
def Viable (variableName : String) (front : List Token) : Prop :=
  ∃ rest, Accepted variableName (front ++ rest)

theorem Begins.viable
    {front : List Token}
    (begins : Begins variableName (.level .additive) front) :
    Viable variableName front := by
  obtain ⟨derivation, rest, yields⟩ := begins
  refine ⟨rest ++ [Token.finish 0], derivation, ⟨Token.finish 0, rfl⟩, ?_⟩
  rw [yields, List.append_assoc]

/-- Tokens that begin viable tokens are viable. -/
theorem Viable.of_isPrefix
    {front shorter : List Token}
    (viable : Viable variableName front)
    (stands : shorter <+: front) :
    Viable variableName shorter := by
  obtain ⟨rest, accepted⟩ := viable
  obtain ⟨between, rfl⟩ := stands
  exact ⟨between ++ rest, by rwa [← List.append_assoc]⟩

/-- Viable tokens have an expression at the front of a continuation. -/
theorem Viable.exists_hasFront
    {before : List Token}
    {token : Token}
    (viable : Viable variableName (before ++ [token])) :
    ∃ rest, HasFront variableName (.level .additive) (before ++ token :: rest) := by
  obtain ⟨rest, derivation, finish, equal⟩ := viable
  refine ⟨rest, derivation, [finish.val], ?_, ?_⟩
  · exact (stops_cons _ _ _).mpr (isOperator_of_kind_ne (by simp [finish.property]) _)
  · rw [← equal, List.append_assoc]
    rfl

end Grammar

namespace Parser

open Grammar

variable {α : Type} [Elementary α] {frame : Frame} {tokens : List Token} {error : ParseError}

/-- Where an error is reported: at the innermost parenthesis that viable tokens leave
open, or at the first token, the end of input included, with which they cease to be
viable. -/
inductive Location (variableName : String) (words : List Token) (finish : Token)
    (error : ParseError) : Prop
  | unfinished
      {opener : Token}
      (innermost : (stillOpen [] words).head? = some opener)
      (viable : Viable variableName words)
      (shown : error = .unclosed opener)
  | blocked
      (before after : List Token)
      (token : Token)
      (split : words ++ [finish] = before ++ token :: after)
      (viable : Viable variableName before)
      (notViable : ¬Viable variableName (before ++ [token]))
      (position : error.position = token.position)
      (closer : error.kind = .unmatchedParenthesis →
        token.kind = .closer ∧ error.token? = some token)

theorem Explanation.location
    (explanation : Explanation frame (.level .additive) [] tokens error) :
    Location frame.variableName tokens frame.finish error := by
  cases explanation with
  | unfinished innermost begins shown => exact .unfinished innermost begins.viable shown
  | blocked before after token split begins noFront position closer =>
      refine .blocked before after token split begins.viable ?_ position closer
      intro viable
      obtain ⟨rest, hasFront⟩ := viable.exists_hasFront
      exact noFront rest hasFront

/-- No expression begins with the end of input. -/
theorem explanation_of_empty
    (finishKind : frame.finish.kind = .finish) :
    Explanation frame (.level .additive) [] [] (.emptySource frame.finish.position) := by
  refine .atFirst rfl (fun rest hasFront => ?_) rfl nofun
  have noSign : Stops ["-", "+"] (frame.finish :: rest) :=
    (stops_cons _ _ _).mpr (isOperator_of_kind_ne (by simp [finishKind]) _)
  exact not_hasFront_of_kind (by simp [finishKind]) rest
    (hasFront.operand.operand.unsigned noSign).base

/-- A token behind a whole expression ends viability. -/
theorem location_of_trailing
    (unreserved : frame.variableName ∉ reservedNames)
    (derivation : Derivation frame.variableName (.level .additive))
    {token : Token}
    {after : List Token}
    (stops : Stops (Nonterminal.level .additive).continuations (token :: after))
    (notFinish : token.kind ≠ .finish) :
    Location frame.variableName (derivation.yield ++ token :: after) frame.finish
      (if token.kind = .closer then .strayCloser token else .trailing token) := by
  refine .blocked derivation.yield (after ++ [frame.finish]) token (by simp)
    derivation.begins.viable ?_ ?_ ?_
  -- Any continuation has the same derivation at its front, which the token does not
  -- extend.
  · rintro ⟨rest, other, finish, equal⟩
    rw [List.append_assoc] at equal
    obtain ⟨-, same⟩ := derivation.eq_of_yield_append_eq unreserved other
      ((stops_cons _ _ _).mpr ((stops_cons _ _ _).mp stops))
      ((stops_cons _ _ _).mpr (isOperator_of_kind_ne (by simp [finish.property]) _)) equal
    obtain ⟨rfl, -⟩ := List.cons.inj same
    exact notFinish finish.property
  · split <;> rfl
  · split
    · rename_i isCloser
      exact fun _ => ⟨isCloser, rfl⟩
    · exact nofun

/-- An error that is no matter of depth is reported where tokens cease to be viable. -/
theorem WholeRefusal.location
    (refusal : WholeRefusal α frame tokens (.grammar error))
    (shallow : error.kind ≠ .nestingTooDeep)
    (unreserved : frame.variableName ∉ reservedNames)
    (finishKind : frame.finish.kind = .finish)
    (noFinish : ∀ word ∈ tokens, word.kind ≠ .finish) :
    Location frame.variableName tokens frame.finish error := by
  cases refusal with
  | empty => exact (explanation_of_empty finishKind).location
  | inside refusal => exact (refusal.explanation unreserved finishKind rfl shallow).location
  | behind derivation stops =>
      exact location_of_trailing unreserved derivation stops (noFinish _ (by simp))

end Parser

namespace Expression

open Grammar

variable {α : Type} [Elementary α] {source variableName : String} {declared : Value}

/-- The text of a parenthesis of a source. -/
theorem text_of_sign
    {words : List Token}
    (covers : Lexer.Covers words source.toList)
    {word : Token}
    (present : word ∈ words) :
    (word.kind = .opener → word.text = "(") ∧ (word.kind = .closer → word.text = ")") := by
  have form := covers.hasForm present
  constructor
  · intro isOpener
    rw [isOpener] at form
    obtain ⟨sign, isSign, same⟩ := form
    rw [List.mem_singleton.mp isSign] at same
    exact String.toList_inj.mp same
  · intro isCloser
    rw [isCloser] at form
    obtain ⟨sign, isSign, same⟩ := form
    rw [List.mem_singleton.mp isSign] at same
    exact String.toList_inj.mp same

/-- An error of the grammar other than that of too deep a nesting is reported as early
as it can be. One that shows an unmatched parenthesis that opens is reported at the
last one that is left open, and then the words are viable. Every other one is reported
at the first token, the end of input included, with which the words are not. -/
theorem parse_error_earliest
    {error : ParseError}
    (usable : Variable.check declared = .ok variableName)
    (failed : compile (α := α) source declared = .error (.parse (.grammar error)))
    (shallow : error.kind ≠ .nestingTooDeep) :
    ∃ words finish, Lexer.tokens source = .ok (words ++ [finish]) ∧ finish.kind = .finish ∧
      if error.kind = .unmatchedParenthesis ∧ error.token?.map Token.text = some "(" then
        Viable variableName words ∧
          ∃ opener, (stillOpen [] words).head? = some opener ∧
            error.position = opener.position
      else
        ∃ before token after, words ++ [finish] = before ++ token :: after ∧
          (∀ earlier, earlier <+: before → Viable variableName earlier) ∧
          ¬Viable variableName (before ++ [token]) ∧ error.position = token.position := by
  obtain ⟨-, -, unreserved⟩ := Variable.check_eq_ok_iff.mp usable
  obtain ⟨words, scanned, covers, refused⟩ := exists_refused_words usable failed
  refine ⟨words, Token.finish source.length, scanned, rfl, ?_⟩
  have location := (Parser.refusal_of_complete (Nat.le_refl _) refused).location shallow
    unreserved rfl fun word present => covers.kind_ne present
  cases location with
  | unfinished innermost viable shown =>
      subst shown
      rename_i opener
      have isOpen : opener ∈ stillOpen [] words := List.mem_of_mem_head? innermost
      rcases mem_of_mem_stillOpen isOpen with none | ⟨present, isOpener⟩
      · cases none
      have text : opener.text = "(" := (text_of_sign covers present).1 isOpener
      rw [if_pos ⟨rfl, by simp [ParseError.token?, text]⟩]
      exact ⟨viable, opener, innermost, rfl⟩
  | blocked before after token split viable notViable position closer =>
      rw [if_neg]
      · exact ⟨before, token, after, split, fun earlier stands => viable.of_isPrefix stands,
          notViable, position⟩
      · rintro ⟨unmatched, text⟩
        obtain ⟨isCloser, shown⟩ := closer unmatched
        have present : token ∈ words ++ [Token.finish source.length] := by
          rw [split]
          simp
        rcases List.mem_append.mp present with inWords | isFinish
        · rw [shown, Option.map_some, (text_of_sign covers inWords).2 isCloser] at text
          simp at text
        · rw [List.mem_singleton.mp isFinish] at isCloser
          cases isCloser

/-- A parenthesis that closes behind an operator is where the words cease to be
viable. -/
theorem parse_error_earliest_at_closer :
    compile (α := Float) "ln(x*)" (.text "x") =
        .error (.parse (.grammar (.emptyGroup ⟨.closer, ")", 5⟩))) ∧
      ∃ words finish, Lexer.tokens "ln(x*)" = .ok (words ++ [finish]) ∧
        ∃ before token after, words ++ [finish] = before ++ token :: after ∧
          Viable "x" before ∧ ¬Viable "x" (before ++ [token]) ∧ token.position = 5 := by
  have usable : Variable.check (.text "x") = .ok "x" := by rfl
  have failed : compile (α := Float) "ln(x*)" (.text "x") =
      .error (.parse (.grammar (.emptyGroup ⟨.closer, ")", 5⟩))) :=
    compile_eq_error_iff.mpr <| .inr
      ⟨[⟨.identifier, "ln", 0⟩, ⟨.opener, "(", 2⟩, ⟨.identifier, "x", 3⟩, ⟨.operator, "*", 4⟩,
          ⟨.closer, ")", 5⟩, .finish 6], by rfl, .inr ⟨"x", usable, _, by rfl, rfl⟩⟩
  refine ⟨failed, ?_⟩
  obtain ⟨words, finish, scanned, -, earliest⟩ :=
    parse_error_earliest usable failed (by decide)
  rw [if_neg (by decide)] at earliest
  obtain ⟨before, token, after, split, viable, notViable, position⟩ := earliest
  exact ⟨words, finish, scanned, before, token, after, split, viable _ (List.prefix_refl _),
    notViable, position.symm⟩

end Expression
end Calculator
