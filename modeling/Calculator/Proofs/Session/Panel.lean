import Calculator.Proofs.Failure.Place
import Calculator.Proofs.Session.History

/-!
# What panels show

A panel in a usable variable always shows something: an expression, with its value if
it has one, or a notice that lies in the source. It does so after every history of
requests.
-/

namespace Calculator

namespace Parser

variable {α : Type} [Elementary α]

/-- The rest that a production leaves is the end of the tokens that it was given. -/
theorem rest_isSuffix
    {frame : Frame}
    {nonterminal : Grammar.Nonterminal}
    {budget : Nat}
    {nesting : Nesting}
    (within : nesting.depth ≤ nestingLimit)
    {tokens rest : List Token}
    {tree : Tree α}
    (read : production frame nonterminal budget nesting tokens = .ok (tree, rest)) :
    rest <:+ tokens := by
  obtain ⟨derivation, yields, -, -⟩ :=
    sound_production frame nonterminal budget nesting within read
  exact ⟨derivation.yield, yields⟩

end Parser

namespace Panel

/-- What a panel shows of a source under bindings of its variable. -/
inductive Shows (source : String) (declared : Value) (variableName : String)
    (bindings : Bindings Float) : Panel → Prop
  /-- The source is an expression. Its value is there when the variable is bound or not
  mentioned. -/
  | accepted
      {kept : KeptExpression}
      {value : Option Float}
      (compiled : Expression.compile source declared = .ok kept.value)
      (present : value.isSome ↔
        ¬kept.value.root.Mentions variableName ∨ (bindings.lookup variableName).isSome)
      (evaluated : ∀ y ∈ value, kept.value.root.evaluate bindings = .ok y) :
      Shows source declared variableName bindings (.accepted kept value [])
  /-- The source is no expression. -/
  | rejected
      {error : CompileError}
      {diagnostic : Diagnostic}
      (failed : Expression.compile (α := Float) source declared = .error error)
      (reported : error.diagnostic? = some diagnostic)
      (lies : diagnostic.LiesIn source) :
      Shows source declared variableName bindings (.rejected diagnostic.notice)

variable {declared : Value} {variableName : String}

/-- A panel is shown after every history. -/
theorem exists_shows
    (usable : Variable.check declared = .ok variableName)
    (room : Nat)
    (history : List Request)
    (source : String)
    (bindings : Bindings Float) :
    ∃ shown,
      ((Action.panel source declared bindings none).runIn (.after room history)).1 = .ok shown ∧
        Shows source declared variableName bindings shown := by
  obtain ⟨rfl, -, -⟩ := Variable.check_eq_ok_iff.mp usable
  have recalls := Request.recalls_after room history
  let request : Request := .panel source ⟨.text variableName, rfl⟩ bindings
  cases outcome : request.fresh with
  | ok expression =>
      obtain ⟨⟨kept, called, rfl⟩, -⟩ := Request.call_of_compiled recalls outcome
      obtain ⟨value, shown, present, evaluated⟩ := Request.runIn_panel_of_call_ok called outcome
      have compiled : Expression.compile source (.text variableName) = .ok kept.value := outcome
      have same : kept.value.variableName = variableName :=
        Except.ok.inj ((Expression.isClosed_of_compile compiled).1.symm.trans usable)
      rw [same, Decidable.imp_iff_not_or] at present
      exact ⟨.accepted kept value [], shown, .accepted compiled present evaluated⟩
  | error error =>
      have failed : Expression.compile source (.text variableName) = .error error := outcome
      obtain ⟨called, -, -⟩ := Request.call_of_failed recalls outcome
      obtain ⟨diagnostic, reported, lies⟩ := Expression.exists_diagnostic usable failed
      have shown := Request.runIn_panel_of_call_error called reported
      exact ⟨.rejected diagnostic.notice, shown, .rejected failed reported lies⟩

/-- A panel in a usable variable shows the expression of its source, with a value just
when the variable is bound or not mentioned, or else a notice that lies in the source.
The numbers among the tokens can be read, the parser refuses tokens for errors of the
grammar only, and what its productions leave is always the end of the tokens. -/
theorem shows_after_history
    (usable : Variable.check declared = .ok variableName)
    (room : Nat)
    (history : List Request)
    (source : String)
    (bindings : Bindings Float) :
    (∃ shown,
      ((Action.panel source declared bindings none).runIn (.after room history)).1 = .ok shown ∧
        Shows source declared variableName bindings shown) ∧
      (∀ tokens, Lexer.tokens source = .ok tokens →
        Parser.Readable Float tokens ∧
          ∀ failure, Parser.parse (α := Float) variableName tokens = .error failure →
            ∃ error, failure = .grammar error) ∧
      ∀ frame nonterminal budget (nesting : Parser.Nesting) tokens (tree : Tree Float) rest,
        nesting.depth ≤ nestingLimit →
          Parser.production frame nonterminal budget nesting tokens = .ok (tree, rest) →
            rest <:+ tokens := by
  refine ⟨exists_shows usable room history source bindings, ?_, ?_⟩
  · intro tokens scanned
    exact ⟨Expression.readable_of_tokens scanned,
      fun failure refused => Expression.exists_error_of_parse usable scanned refused⟩
  · intro frame nonterminal budget nesting tokens tree rest within read
    exact Parser.rest_isSuffix within read

/-- A parenthesis that is left open is shown where it stands, also when the source has
been refused before. -/
theorem shows_after_history_of_unclosed :
    Variable.check (.text "x") = .ok "x" ∧
      ∃ notice,
        ((Action.panel "x*(x+" (.text "x") [] none).runIn (.after 256 [.bare "x*(x+"])).1 =
          .ok (.rejected notice) ∧
        notice.kind = "unmatched_parenthesis" ∧ notice.position = .int 2 := by
  have usable : Variable.check (.text "x") = .ok "x" := by rfl
  have unclosed : Expression.compile (α := Float) "x*(x+" (.text "x") =
      .error (.parse (.grammar (.unclosed ⟨.opener, "(", 2⟩))) :=
    Expression.compile_eq_error_iff.mpr <| .inr
      ⟨[⟨.identifier, "x", 0⟩, ⟨.operator, "*", 1⟩, ⟨.opener, "(", 2⟩, ⟨.identifier, "x", 3⟩,
          ⟨.operator, "+", 4⟩, .finish 5], by rfl, .inr ⟨"x", usable, _, by rfl, rfl⟩⟩
  refine ⟨usable, ?_⟩
  obtain ⟨⟨shown, runs, shows⟩, -, -⟩ :=
    shows_after_history usable 256 [.bare "x*(x+"] "x*(x+" []
  cases shows with
  | accepted compiled =>
      rw [unclosed] at compiled
      cases compiled
  | rejected failed reported lies =>
      rw [unclosed] at failed
      cases failed
      cases reported
      exact ⟨_, runs, ParseError.notice_kind _, ParseError.notice_position _⟩

end Panel
end Calculator
