import Calculator.Failure.Basic
import Calculator.Proofs.Parser.ShownToken

/-!
# The places of notices

Whatever is said about a source that is no expression has a sort of its own and a place
in the source. Where a token is shown, its text stands there.
-/

namespace Calculator

/-- A diagnostic has the label of errors of the lexer or of a sort of errors of the
grammar, and a position in the source at which the token that it shows stands. -/
structure Diagnostic.LiesIn (diagnostic : Diagnostic) (source : String) : Prop where
  label : diagnostic.notice.kind = "lex_error" ∨
    ∃ kind : ParseError.Kind, diagnostic.notice.kind = kind.label
  place : ∃ before after, source.toList = before ++ after ∧
    diagnostic.notice.position = .int before.length ∧
    ∀ text, diagnostic.details.find? "token_text" = some (.text text) → text.toList <+: after

/-- A notice about the lexer lies where the character stands that it refuses. -/
theorem LexicalError.diagnostic_liesIn
    {source : String}
    {error : LexicalError}
    (refused : Lexer.tokens source = .error error) :
    error.diagnostic.LiesIn source where
  label := .inl rfl
  place := by
    have within := Lexer.position_lt_of_error refused
    refine ⟨source.toList.take error.position, source.toList.drop error.position,
      (List.take_append_drop _ _).symm, ?_, nofun⟩
    rw [List.length_take, String.length_toList, Nat.min_eq_left (Nat.le_of_lt within)]
    rfl

namespace ParseError

theorem notice_kind (error : ParseError) :
    error.diagnostic.notice.kind = error.kind.label := by
  cases error <;> rfl

theorem notice_position (error : ParseError) :
    error.diagnostic.notice.position = .int error.position := by
  cases error <;> rfl

/-- The diagnostic of an error shows the text of its token. -/
theorem find?_token_text (error : ParseError) :
    error.diagnostic.details.find? "token_text" =
      some (.ofOption (fun token => .text token.text) error.token?) := by
  cases error <;> rfl

/-- A notice about the grammar lies where the token stands that its error shows. -/
theorem diagnostic_liesIn
    {source : String}
    {error : ParseError}
    {token : Token}
    (occurs : Lexer.Occurs source.toList token)
    (shows : error.Shows token) :
    error.diagnostic.LiesIn source where
  label := .inr ⟨error.kind, error.notice_kind⟩
  place := by
    obtain ⟨before, after, split, position⟩ := occurs
    refine ⟨before, token.text.toList ++ after, by rw [split, List.append_assoc], ?_, ?_⟩
    · rw [error.notice_position, shows.position, position]
    · intro text shown
      rw [error.find?_token_text] at shown
      cases given : error.token? with
      | none =>
          rw [given] at shown
          cases shown
      | some other =>
          rw [given] at shown
          cases shown
          rw [shows.shown other given]
          exact List.prefix_append _ _

end ParseError

namespace Expression

variable {α : Type} [Elementary α]

/-- A source that does not compile in a usable variable has a diagnostic that lies in
the source. -/
theorem exists_diagnostic
    {source variableName : String}
    {declared : Value}
    {error : CompileError}
    (usable : Variable.check declared = .ok variableName)
    (failed : compile (α := α) source declared = .error error) :
    ∃ diagnostic, error.diagnostic? = some diagnostic ∧ diagnostic.LiesIn source := by
  rcases compile_eq_error_iff.mp failed with ⟨cause, refused, rfl⟩ | ⟨tokens, -, stage⟩
  · exact ⟨cause.diagnostic, rfl, LexicalError.diagnostic_liesIn refused⟩
  rcases stage with ⟨cause, unusable, -⟩ | ⟨name, -, failure, -, rfl⟩
  · rw [usable] at unusable
    cases unusable
  · obtain ⟨cause, token, rfl, occurs, shows⟩ := parse_error_place usable failed
    exact ⟨cause.diagnostic, rfl, cause.diagnostic_liesIn occurs shows⟩

end Expression
end Calculator
