import Calculator.Proofs.Parser.Correctness
import Calculator.Proofs.Parser.Refusal

/-!
# The tokens that errors show

When the numbers among the tokens can be read, tokens are refused for an error of the
grammar and nothing else. The error is placed at one of the tokens, the end of input
included, and shows that token or none.
-/

namespace Calculator

/-- An error is placed at a token, and shows that token or none. -/
structure ParseError.Shows (error : ParseError) (token : Token) : Prop where
  position : error.position = token.position
  shown : ∀ shown ∈ error.token?, shown = token

namespace Parser

open Grammar

variable {α : Type} [Elementary α] {frame : Frame} {Known : Token → Prop}

/-- A failure is an error of the grammar at a known token. -/
def BlamesKnown (Known : Token → Prop) (failure : ParseFailure) : Prop :=
  ∃ error token, failure = .grammar error ∧ Known token ∧ error.Shows token

theorem blamesKnown_of_shows
    {error : ParseError}
    {token : Token}
    (known : Known token)
    (position : error.position = token.position)
    (shown : ∀ shown ∈ error.token?, shown = token) :
    BlamesKnown Known (.grammar error) :=
  ⟨error, token, rfl, known, position, shown⟩

/-- Refused tokens whose numbers can be read are refused at one of them, at an open
parenthesis or at the end of input. -/
theorem Refusal.blamesKnown
    {nonterminal : Nonterminal}
    {nesting : Nesting}
    {tokens : List Token}
    {failure : ParseFailure}
    (refusal : Refusal α frame nonterminal nesting tokens failure)
    (readable : Readable α tokens)
    (finish : Known frame.finish)
    (openers : ∀ opener ∈ nesting.openers, Known opener)
    (known : ∀ token ∈ tokens, Known token) :
    BlamesKnown Known failure := by
  induction refusal with
  | first _ operandHypothesis => exact operandHypothesis readable openers known
  | next left sign _ operandHypothesis =>
      rw [readable_append, readable_cons] at readable
      rw [List.forall_mem_append, List.forall_mem_cons] at known
      exact operandHypothesis readable.2.2 openers known.2.2
  | signTooDeep sign deep =>
      exact blamesKnown_of_shows (known _ List.mem_cons_self) rfl (by simp [ParseError.token?])
  | signed sign _ operandHypothesis =>
      rw [readable_cons] at readable
      rw [List.forall_mem_cons] at known
      exact operandHypothesis readable.2 openers known.2
  | unsigned noSign _ operandHypothesis => exact operandHypothesis readable openers known
  | base _ baseHypothesis => exact baseHypothesis readable openers known
  | caretTooDeep base caret deep =>
      exact blamesKnown_of_shows (known _ (by simp)) rfl (by simp [ParseError.token?])
  | exponent base caret _ exponentHypothesis =>
      rw [readable_append, readable_cons] at readable
      rw [List.forall_mem_append, List.forall_mem_cons] at known
      exact exponentHypothesis readable.2.2 openers known.2.2
  | @ended nesting =>
      rw [Nesting.endError]
      split
      · rename_i opener outer isOpen
        exact blamesKnown_of_shows (openers opener (by simp [isOpen])) rfl
          (by simp [ParseError.token?])
      · exact blamesKnown_of_shows finish rfl nofun
  | unreadable token noNumber =>
      rw [readable_cons, noNumber] at readable
      exact absurd (readable.1 token.property) (by simp)
  | unknown word noConstant noFunction noVariable =>
      exact blamesKnown_of_shows (known _ List.mem_cons_self) rfl (by simp [ParseError.token?])
  | @notOpener nesting tokens word meaning named other =>
      refine blamesKnown_of_shows ?_ rfl (by simp [ParseError.token?])
      cases tokens with
      | nil => exact finish
      | cons token tokens => exact known token (by simp)
  | groupTooDeep opening deep =>
      exact blamesKnown_of_shows (known _ (List.mem_append_left _ opening.opener_mem)) rfl
        (by simp [ParseError.token?])
  -- The parenthesis stays open inside, and may be the one that is shown.
  | inside opening _ bodyHypothesis =>
      rw [readable_append] at readable
      rw [List.forall_mem_append] at known
      exact bodyHypothesis readable.2
        (List.forall_mem_cons.mpr ⟨known.1 _ opening.opener_mem, openers⟩) known.2
  | unclosed opening body =>
      exact blamesKnown_of_shows (known _ (List.mem_append_left _ opening.opener_mem)) rfl
        (by simp [ParseError.token?])
  | notCloser opening body other stops =>
      exact blamesKnown_of_shows (known _ (by simp)) rfl (by simp [ParseError.token?])
  | @closer nesting tokens closer =>
      rw [Nesting.closerError]
      split <;>
        exact blamesKnown_of_shows (known _ List.mem_cons_self) rfl
          (by simp [ParseError.token?])
  | notOperand other =>
      exact blamesKnown_of_shows (known _ List.mem_cons_self) rfl (by simp [ParseError.token?])

/-- Words whose numbers can be read are refused at one of them or at the end of
input. -/
theorem WholeRefusal.blamesKnown
    {tokens : List Token}
    {failure : ParseFailure}
    (refusal : WholeRefusal α frame tokens failure)
    (readable : Readable α tokens)
    (finish : Known frame.finish)
    (known : ∀ token ∈ tokens, Known token) :
    BlamesKnown Known failure := by
  cases refusal with
  | empty => exact blamesKnown_of_shows finish rfl nofun
  | inside refusal => exact refusal.blamesKnown readable finish nofun known
  | @behind token after derivation stops =>
      refine blamesKnown_of_shows (known token (by simp)) ?_ ?_
      · split <;> rfl
      · split <;> simp [ParseError.token?]

end Parser

namespace Expression

variable {α : Type} [Elementary α]

/-- A source whose tokens are not read in a usable variable has an error of the grammar,
at a place of the source where the token that it shows stands. -/
theorem parse_error_place
    {source variableName : String}
    {declared : Value}
    {failure : ParseFailure}
    (usable : Variable.check declared = .ok variableName)
    (failed : compile (α := α) source declared = .error (.parse failure)) :
    ∃ error token, failure = .grammar error ∧ Lexer.Occurs source.toList token ∧
      error.Shows token := by
  obtain ⟨words, -, covers, refused⟩ := exists_refused_words usable failed
  refine (Parser.refusal_of_complete (Nat.le_refl _) refused).blamesKnown ?_ ?_ ?_
  · exact Parser.readable_of_areWords fun word present => covers.isWord present
  · exact Lexer.occurs_finish source
  · exact fun word present => covers.occurs present

/-- The numbers among the tokens of a source can be read. -/
theorem readable_of_tokens
    {source : String}
    {tokens : List Token}
    (scanned : Lexer.tokens source = .ok tokens) :
    Parser.Readable α tokens := by
  obtain ⟨words, rfl, covers⟩ := Lexer.exists_covers scanned
  rw [Parser.readable_append, Parser.readable_cons]
  refine ⟨Parser.readable_of_areWords fun word present => covers.isWord present, nofun, nofun⟩

/-- A source whose tokens are refused in a usable variable does not compile. -/
theorem compile_of_parse_error
    {source variableName : String}
    {declared : Value}
    {tokens : List Token}
    {failure : ParseFailure}
    (scanned : Lexer.tokens source = .ok tokens)
    (usable : Variable.check declared = .ok variableName)
    (refused : Parser.parse (α := α) variableName tokens = .error failure) :
    compile (α := α) source declared = .error (.parse failure) :=
  compile_eq_error_iff.mpr
    (.inr ⟨tokens, scanned, .inr ⟨variableName, usable, failure, refused, rfl⟩⟩)

/-- The tokens of a source are refused for errors of the grammar. -/
theorem exists_error_of_parse
    {source variableName : String}
    {declared : Value}
    (usable : Variable.check declared = .ok variableName)
    {tokens : List Token}
    (scanned : Lexer.tokens source = .ok tokens)
    {failure : ParseFailure}
    (refused : Parser.parse (α := α) variableName tokens = .error failure) :
    ∃ error, failure = .grammar error := by
  obtain ⟨error, -, same, -, -⟩ :=
    parse_error_place usable (compile_of_parse_error scanned usable refused)
  exact ⟨error, same⟩

end Expression
end Calculator
