import Calculator.Proofs.Evaluation.Occurrence
import Calculator.Proofs.Parser.Refusal
import Calculator.Proofs.Settings.Accepted

/-!
# Names of variables

The settings, the parser and the scanner agree on what names a variable. It is a text that is one
word to the scanner, and no constant or function. Such a text is an expression, the variable itself.
-/

namespace Calculator

namespace Lexer

/-- A text is scanned as one word when it consists of letters. -/
theorem tokens_eq_word_iff {name : String} :
    Lexer.tokens name = .ok [⟨.identifier, name, 0⟩, Token.finish name.length] ↔
      Variable.isWord name = true := by
  have isWord_iff : Variable.isWord name = true ↔ HasForm .identifier name.toList := by
    simp [Variable.isWord, HasForm]
  rw [isWord_iff]
  constructor
  · intro scanned
    obtain ⟨words, same, covers⟩ := exists_covers scanned
    obtain rfl : [⟨.identifier, name, 0⟩] = words := List.append_cancel_right same
    exact covers.hasForm (List.mem_singleton_self _)
  · rintro ⟨nonempty, letters⟩
    have standing : Lexeme .identifier name.toList [] := .identifier letters nonempty nofun
    have scanned := scan_token standing 0
    rw [List.append_nil, String.ofList_toList, Nat.zero_add, String.length_toList] at scanned
    exact scanned

end Lexer

namespace Parser

variable {α : Type} [Elementary α] {frame : Frame}

/-- A production does not look at the end of the tokens. -/
theorem Refusal.ne_unfinished
    {nonterminal : Grammar.Nonterminal}
    {nesting : Nesting}
    {tokens : List Token}
    {failure : ParseFailure}
    (refusal : Refusal α frame nonterminal nesting tokens failure) :
    failure ≠ .unfinished := by
  induction refusal with
  | first _ inner | next _ _ _ inner | signed _ _ inner | unsigned _ _ inner | base _ inner
  | exponent _ _ _ inner | inside _ _ inner => exact inner
  | _ => exact nofun

theorem WholeRefusal.ne_unfinished
    {tokens : List Token}
    {failure : ParseFailure}
    (refusal : WholeRefusal α frame tokens failure) :
    failure ≠ .unfinished := by
  cases refusal with
  | inside refusal => exact refusal.ne_unfinished
  | empty | behind => exact nofun

/-- Tokens that end with the end of input are not refused for want of it. -/
theorem parse_ne_unfinished
    {variableName : String}
    {tokens : List Token}
    {last : Token}
    (ends : tokens.getLast? = some last)
    (isFinish : last.kind = .finish) :
    parse (α := α) variableName tokens ≠ .error .unfinished := by
  simp only [parse, ends]
  rw [if_pos isFinish]
  exact fun failed => (refusal_of_complete (Nat.le_refl _) failed).ne_unfinished rfl

end Parser

namespace Variable

/-- A value names a variable: it is a text, one word to the scanner, and no constant or function. -/
def IsWritable (declared : Value) : Prop :=
  ∃ name, declared = .text name ∧ name ∉ reservedNames ∧
    Lexer.tokens name = .ok [⟨.identifier, name, 0⟩, Token.finish name.length]

/-- The usable values are those that the scanner takes as one word. -/
theorem exists_check_iff {declared : Value} :
    (∃ name, check declared = .ok name) ↔ IsWritable declared := by
  refine exists_congr fun name => ?_
  rw [check_eq_ok_iff, Lexer.tokens_eq_word_iff, and_comm (a := name ∉ reservedNames)]

end Variable

namespace Settings

/-- A variable in the settings passes the check when it is usable. -/
theorem checkParser_eq_nil_iff {declared : Value} :
    checkParser (.record [("variable", declared)]) = .ok [] ↔
      ∃ name, Variable.check declared = .ok name := by
  have found : Entries.find? "variable" [("variable", declared)] = some declared := rfl
  refine ⟨fun passed => usable_of_checkParser passed found, ?_⟩
  rintro ⟨name, usable⟩
  rw [checkParser, Value.member?_record, found, Outcome.ok_bind]
  simp only [usable]
  rfl

end Settings

namespace Expression

variable {α : Type} [Elementary α]

/-- The parser takes on a declared variable with tokens: it refuses neither the variable nor the end
of the tokens. -/
def TakesOn (α : Type) [Elementary α] (declared : Value) (tokens : List Token) : Prop :=
  (∀ error, treeOfTokens (α := α) declared tokens ≠ .error (.unusableVariable error)) ∧
    treeOfTokens (α := α) declared tokens ≠ .error (.parse .unfinished)

/-- Tokens that end with the end of input are taken on with a usable variable. -/
theorem takesOn_iff
    {declared : Value}
    {tokens : List Token}
    {last : Token}
    (ends : tokens.getLast? = some last)
    (isFinish : last.kind = .finish) :
    TakesOn α declared tokens ↔ ∃ name, Variable.check declared = .ok name := by
  rw [TakesOn, treeOfTokens]
  cases Variable.check declared with
  | error error =>
      refine iff_of_false ?_ (by simp)
      rintro ⟨usable, -⟩
      exact usable error rfl
  | ok name =>
      have finished : Parser.parse (α := α) name tokens ≠ .error .unfinished :=
        Parser.parse_ne_unfinished ends isFinish
      rw [Outcome.mapError_ok, Outcome.ok_bind]
      refine iff_of_true ⟨fun error refused => ?_, fun refused => ?_⟩ ⟨name, rfl⟩
      · obtain ⟨failure, -, other⟩ := Outcome.mapError_eq_error_iff.mp refused
        cases other
      · obtain ⟨failure, parsed, same⟩ := Outcome.mapError_eq_error_iff.mp refused
        cases same
        exact finished parsed

/-- A word alone is read as the variable of its name. -/
theorem parse_word
    {name : String}
    (unreserved : name ∉ reservedNames) :
    Parser.parse (α := α) name [⟨.identifier, name, 0⟩, Token.finish name.length] =
      .ok (.symbol name) := by
  let word : Token := ⟨.identifier, name, 0⟩
  let symbol : Grammar.Derivation name .primary := .symbol ⟨word, rfl⟩ rfl
  let whole : Grammar.Derivation name (.level .additive) :=
    .chain (.chain (.unsigned (.plain symbol)) .done) .done
  have isWord : ∀ token ∈ [word], Lexer.IsWord token := by
    simp [word, Lexer.IsWord]
  exact (Parser.parse_eq_complete isWord name name.length).trans
    (Parser.complete_yield ⟨name, Token.finish name.length, 1⟩ unreserved whole
      (Parser.readable_of_areWords isWord) (Nat.le_refl _) (Nat.zero_le _))

/-- The settings accept a variable when the parser takes it on with any tokens, and when it is one
word to the scanner and no reserved name. As a source it is then the variable. -/
theorem variable_accepted_iff (α : Type) [Elementary α] (declared : Value) :
    (Settings.checkParser (.record [("variable", declared)]) = .ok [] ↔
        Variable.IsWritable declared) ∧
      (∀ tokens last, tokens.getLast? = some last → last.kind = .finish →
        (TakesOn α declared tokens ↔ Variable.IsWritable declared)) ∧
      ∀ name, declared = .text name → Variable.IsWritable declared →
        compile (α := α) name declared = .ok ⟨name, .symbol name, name, [name]⟩ := by
  refine ⟨?_, ?_, ?_⟩
  · rw [Settings.checkParser_eq_nil_iff, Variable.exists_check_iff]
  · intro tokens last ends isFinish
    rw [takesOn_iff ends isFinish, Variable.exists_check_iff]
  · rintro name rfl ⟨other, same, unreserved, scanned⟩
    cases same
    have usable : Variable.check (.text name) = .ok name :=
      Variable.check_eq_ok_iff.mpr ⟨rfl, Lexer.tokens_eq_word_iff.mp scanned, unreserved⟩
    have names : (Tree.symbol (α := α) name).variableNames = [name] :=
      Tree.IsClosed.symbol.variableNames_eq.trans (if_pos rfl)
    rw [← names]
    exact compile_eq_ok_iff.mpr
      ⟨_, name, .symbol name, scanned, usable, parse_word unreserved, rfl⟩

/-- A name that begins with that of a function. -/
theorem variable_accepted_sinh :
    Settings.checkParser (.record [("variable", .text "sinh")]) = .ok [] ∧
      TakesOn Float (.text "sinh") [Token.finish 0] ∧
      compile (α := Float) "sinh" (.text "sinh") =
        .ok ⟨"sinh", .symbol "sinh", "sinh", ["sinh"]⟩ := by
  have writable : Variable.IsWritable (.text "sinh") := ⟨"sinh", rfl, by decide, rfl⟩
  obtain ⟨accepted, taken, written⟩ := variable_accepted_iff Float (.text "sinh")
  exact ⟨accepted.mpr writable, (taken _ _ rfl rfl).mpr writable, written _ rfl writable⟩

end Expression

end Calculator
