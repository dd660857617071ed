import Calculator.Proofs.Session.Agreement

/-!
# Unusable variables

A value that names no variable is a mistake of the caller. A panel says so when the value can be
part of a key and has a text, and when its source has tokens: the memo looks at the value before the
source is read, and the source is split into tokens before the value is checked. What the panel has
been asked for before does not matter.
-/

namespace Calculator

/-- A value that is no word, or a reserved one. -/
def Variable.IsUnusable (declared : Value) : Prop :=
  ∀ name, declared = .text name → isWord name = true → name ∈ reservedNames

theorem Variable.isUnusable_of_reserved {name : String} (reserved : name ∈ reservedNames) :
    IsUnusable (.text name) := by
  rintro _ ⟨⟩ -
  exact reserved

/-- The check blames an unusable value, and only such a value. -/
theorem Variable.isUnusable_iff {declared : Value} :
    IsUnusable declared ↔
      ∃ error, Variable.check declared = .error error ∧ error.value = declared := by
  constructor
  · intro unusable
    cases declared with
    | text name =>
        rw [check]
        by_cases word : isWord name = true
        · have reserved : name ∈ reservedNames := unusable name rfl word
          exact ⟨.reserved name, by simp [word, reserved], rfl⟩
        · exact ⟨.notLetters (.text name), by simp [word], rfl⟩
    | _ => exact ⟨.notLetters _, rfl, rfl⟩
  · rintro ⟨error, refused, -⟩ name rfl word
    by_contra unreserved
    cases refused.symm.trans (check_eq_ok_iff.mpr ⟨rfl, word, unreserved⟩)

namespace Workspace

/-- The workspaces that requests and panels leave, from an empty one on. -/
inductive IsLeft (room : Nat) : Workspace → Prop
  | empty : IsLeft room (.empty room)
  | request
      {workspace : Workspace}
      (left : IsLeft room workspace)
      (request : Request) :
      IsLeft room (request.action.runIn workspace).2
  | panel
      {workspace : Workspace}
      (left : IsLeft room workspace)
      (source : String)
      (declared : Value)
      (bindings : Bindings Float)
      (plot : Option PlotRequest) :
      IsLeft room ((Action.panel source declared bindings plot).runIn workspace).2

/-- The memo that is left keeps what fresh compilations make of the sources. -/
theorem IsLeft.isFaithful {room : Nat} {workspace : Workspace} (left : IsLeft room workspace) :
    workspace.IsFaithful := by
  induction left with
  | empty => exact ⟨[], Memo.recalls_empty _ _⟩
  | request _ request faithful =>
      obtain ⟨used, recalls⟩ := faithful
      exact ⟨_, (Request.runIn_of_recalls recalls request).2.1⟩
  | panel _ source declared bindings plot faithful =>
      exact Action.isFaithful_panel source declared bindings plot _ faithful

end Workspace

namespace Action

variable {source : String} {declared : Value} {workspace after : Workspace}
  {bindings : Bindings Float} {plot : Option PlotRequest}

/-- A panel ends with a failure of its compilation that is no error of the source. -/
theorem runIn_panel_of_refused
    {failure : Failure}
    (ran : (compile .positional source declared).runIn workspace = (.error failure, after))
    (unreported : failure.expressionDiagnostic? = none)
    (bindings : Bindings Float)
    (plot : Option PlotRequest) :
    ((panel source declared bindings plot).runIn workspace).1 = .error failure := by
  rw [panel, runIn_bind, runIn_tryCatch, runIn_map, ran]
  dsimp only [Except.map]
  rw [unreported]
  rfl

/-- A source that does not compile fails to, whatever the memo holds. -/
theorem exists_runIn_compile_of_failed
    (faithful : workspace.IsFaithful)
    (hashable : isKey declared = true)
    {error : CompileError}
    (failed : Expression.compile (α := Float) source declared = .error error) :
    ∃ after, (compile .positional source declared).runIn workspace =
      (.error (.compile error), after) := by
  obtain ⟨used, recalls⟩ := faithful
  let request : Request := .positional source ⟨declared, hashable⟩
  have fresh : request.fresh = .error error := failed
  obtain ⟨called, -⟩ := Request.call_of_failed recalls fresh
  have ran := request.runIn_compile workspace
  rw [called] at ran
  exact ⟨_, ran⟩

/-- What a panel comes to with a value that the check refuses. -/
def refusal (source : String) (declared : Value) (error : VariableError) : Except Failure Panel :=
  if isKey declared then
    match Lexer.tokens source with
    | .error cause => .ok (.rejected cause.diagnostic.notice)
    | .ok _ => .error (.compile (.unusableVariable error))
  else .error .unusableKey

/-- The stages that come before the check may fail first. -/
theorem runIn_panel_of_check
    (faithful : workspace.IsFaithful)
    {error : VariableError}
    (refused : Variable.check declared = .error error)
    (bindings : Bindings Float)
    (plot : Option PlotRequest) :
    ((panel source declared bindings plot).runIn workspace).1 = refusal source declared error := by
  rw [refusal]
  cases hashable : isKey declared with
  | false =>
      have ran : (compile .positional source declared).runIn workspace =
          (.error .unusableKey, workspace) := by
        rw [compile, hashable]
        rfl
      exact runIn_panel_of_refused ran rfl bindings plot
  | true =>
      rw [if_pos rfl]
      cases scanned : Lexer.tokens source with
      | error cause =>
          have failed : Expression.compile (α := Float) source declared = .error (.lexical cause) :=
            Expression.compile_eq_error_iff.mpr (.inl ⟨cause, scanned, rfl⟩)
          obtain ⟨after, ran⟩ := exists_runIn_compile_of_failed faithful hashable failed
          exact runIn_panel_of_failed ran rfl bindings plot
      | ok tokens =>
          have failed : Expression.compile (α := Float) source declared =
              .error (.unusableVariable error) :=
            Expression.compile_eq_error_iff.mpr
              (.inr ⟨tokens, scanned, .inl ⟨error, refused, rfl⟩⟩)
          obtain ⟨after, ran⟩ := exists_runIn_compile_of_failed faithful hashable failed
          exact runIn_panel_of_refused ran rfl bindings plot

/-- The caller is told that the value of its variable is unusable. -/
def BlamesVariable (declared : Value) (outcome : Except Failure Panel) : Prop :=
  ∃ failure message, outcome = .error failure ∧
    failure.report = .failure .invalidParameter message
      [("parameter", .text "variable"), ("value", declared)]

theorem report_unusableVariable (error : VariableError) :
    (Failure.compile (.unusableVariable error)).report =
      if error.value.isWritable then
        .failure .invalidParameter error.message
          [("parameter", .text "variable"), ("value", error.value)]
      else .badValue digitLimitMessage :=
  rfl

/-- The value is blamed where the check is what refuses it and the report has its text. -/
theorem blamesVariable_refusal_iff
    {error : VariableError}
    (same : error.value = declared) :
    BlamesVariable declared (refusal source declared error) ↔
      isKey declared = true ∧ (∃ tokens, Lexer.tokens source = .ok tokens) ∧
        declared.isWritable = true := by
  constructor
  · rintro ⟨failure, message, ended, reported⟩
    rw [refusal] at ended
    split at ended
    · next isPart =>
      split at ended
      · cases ended
      · next tokens scanned =>
        cases ended
        refine ⟨isPart, ⟨tokens, scanned⟩, ?_⟩
        by_contra unwritable
        rw [report_unusableVariable, same, if_neg unwritable] at reported
        cases reported
    · cases ended
      cases reported
  · rintro ⟨isPart, ⟨tokens, scanned⟩, writable⟩
    refine ⟨.compile (.unusableVariable error), error.message, ?_, ?_⟩
    · rw [refusal, if_pos isPart, scanned]
    · rw [report_unusableVariable, same, if_pos writable]

/-- Whatever a panel has been asked for before, it ends with the blame of an unusable variable
just when the value can be part of a key and has a text, and the source has tokens. A value that
can be part of no key is no key to the memo. Otherwise a source without tokens is shown its lexical
error, as though the variable were usable, and a value without a text is reported for the want of
it. -/
theorem panel_blames_variable_iff
    {room : Nat}
    (left : workspace.IsLeft room)
    (source : String)
    (unusable : Variable.IsUnusable declared)
    (bindings : Bindings Float)
    (plot : Option PlotRequest) :
    (BlamesVariable declared ((panel source declared bindings plot).runIn workspace).1 ↔
        isKey declared = true ∧ (∃ tokens, Lexer.tokens source = .ok tokens) ∧
          declared.isWritable = true) ∧
      (isKey declared = false →
        ((panel source declared bindings plot).runIn workspace).1 = .error .unusableKey) ∧
      (isKey declared = true → ∀ cause, Lexer.tokens source = .error cause →
        ((panel source declared bindings plot).runIn workspace).1 =
          .ok (.rejected cause.diagnostic.notice)) ∧
      (isKey declared = true → ∀ tokens, Lexer.tokens source = .ok tokens →
        declared.isWritable = false →
        ∃ failure, ((panel source declared bindings plot).runIn workspace).1 = .error failure ∧
          failure.report = .badValue digitLimitMessage) ∧
      ∀ otherRoom other, other.IsLeft otherRoom →
        ((panel source declared bindings plot).runIn other).1 =
          ((panel source declared bindings plot).runIn workspace).1 := by
  obtain ⟨error, refused, same⟩ := Variable.isUnusable_iff.mp unusable
  rw [runIn_panel_of_check left.isFaithful refused]
  refine ⟨blamesVariable_refusal_iff same, ?_, ?_, ?_, ?_⟩
  · intro notKey
    rw [refusal, notKey]
    rfl
  · intro isPart cause scanned
    rw [refusal, isPart, if_pos rfl, scanned]
  · intro isPart tokens scanned unwritable
    rw [refusal, isPart, if_pos rfl, scanned]
    refine ⟨_, rfl, ?_⟩
    rw [report_unusableVariable, same, if_neg (by rw [unwritable]; decide)]
  · exact fun _ _ other => runIn_panel_of_check other.isFaithful refused bindings plot

/-- Of a source with tokens, a reserved name is blamed. -/
theorem panel_blames_reserved_name :
    Workspace.IsLeft 256 (.empty 256) ∧ Variable.IsUnusable (.text "pi") ∧
      BlamesVariable (.text "pi")
        ((panel "pi)" (.text "pi") [] none).runIn (.empty 256)).1 := by
  have unusable := Variable.isUnusable_of_reserved (show "pi" ∈ reservedNames by decide)
  have left : Workspace.IsLeft 256 (.empty 256) := .empty
  obtain ⟨blames, -⟩ := panel_blames_variable_iff left "pi)" unusable [] none
  exact ⟨left, unusable, blames.mpr ⟨rfl, ⟨_, rfl⟩, rfl⟩⟩

/-- A source without tokens hides an unusable variable. -/
theorem not_blamed_behind_lexical_error :
    ¬∀ (source : String) (declared : Value), Variable.IsUnusable declared →
      BlamesVariable declared ((panel source declared [] none).runIn (.empty 256)).1 := by
  intro always
  have unusable := Variable.isUnusable_of_reserved (show "pi" ∈ reservedNames by decide)
  obtain ⟨failure, message, ended, -⟩ := always "2 # 3" (.text "pi") unusable
  have shown : ((panel "2 # 3" (.text "pi") [] none).runIn (.empty 256)).1 =
      .ok (.rejected (LexicalError.unrecognized '#' 2).diagnostic.notice) := rfl
  rw [shown] at ended
  cases ended

end Action

end Calculator
