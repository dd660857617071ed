import Calculator.Proofs.Evaluation.Totality
import Calculator.Session.Panel

/-!
# Carrying out calculations

A calculation is carried out step by step, each in the workspace that the one before
leaves. A compilation changes the memo as a call does, and a panel without a plot
changes it like the compilation that it begins with.
-/

namespace Calculator
namespace Action

variable {β γ ε : Type} {workspace : Workspace}

/-! ## Steps -/

@[simp] theorem runIn_get :
    (get : Action Workspace).runIn workspace = (.ok workspace, workspace) :=
  rfl

@[simp] theorem runIn_set (after : Workspace) :
    (set after : Action PUnit).runIn workspace = (.ok ⟨⟩, after) :=
  rfl

@[simp] theorem runIn_ofExcept (wrap : ε → Failure) (result : Except ε β) :
    (ofExcept wrap result).runIn workspace = (result.mapError wrap, workspace) := by
  cases result <;> rfl

theorem runIn_bind (action : Action β) (next : β → Action γ) :
    (action >>= next).runIn workspace =
      match action.runIn workspace with
      | (.ok x, after) => (next x).runIn after
      | (.error failure, after) => (.error failure, after) := by
  change ExceptT.bindCont next (action.runIn workspace).1 (action.runIn workspace).2 = _
  rcases action.runIn workspace with ⟨_ | _, after⟩
  · rfl
  · rfl

theorem runIn_map (action : Action β) (f : β → γ) :
    (f <$> action).runIn workspace =
      ((action.runIn workspace).1.map f, (action.runIn workspace).2) := by
  rw [← bind_pure_comp, runIn_bind]
  rcases action.runIn workspace with ⟨_ | _, after⟩
  · rfl
  · rfl

theorem runIn_tryCatch (action : Action β) (recover : Failure → Action β) :
    (tryCatch action recover).runIn workspace =
      match action.runIn workspace with
      | (.ok x, after) => (.ok x, after)
      | (.error failure, after) => (recover failure).runIn after := by
  simp only [tryCatch, tryCatchThe, MonadExceptOf.tryCatch, ExceptT.tryCatch, ExceptT.mk, runIn,
    ExceptT.run, StateT.run_bind]
  rcases StateT.run action workspace with ⟨_ | _, after⟩
  · rfl
  · rfl

/-! ## Compilations and panels -/

variable {declared : Value} {bindings : Bindings Float}

/-- A compilation is a call of the memo. -/
theorem runIn_compile
    (form : CallForm)
    (source : String)
    (hashable : isKey declared = true) :
    (compile form source declared).runIn workspace =
      let called := workspace.memo.call (fun _ => Expression.compile source declared)
        ⟨form, source, nameOf? declared⟩
      (called.1.mapError .compile, ⟨called.2, workspace.journal⟩) := by
  simp [compile, hashable, runIn_bind]

/-- The value of an expression leaves the workspace as it is. -/
theorem runIn_pointValue (expression : Expression Float) :
    (pointValue bindings expression).runIn workspace =
      (if expression.variableNames.all fun name => (bindings.lookup name).isSome then
          ((expression.evaluate bindings).map some).mapError .evaluation
        else .ok none,
        workspace) := by
  rw [pointValue]
  split
  · simp only [runIn_bind, runIn_ofExcept]
    cases expression.evaluate bindings with
    | error error => rfl
    | ok y => rfl
  · rfl

/-- A panel shows what its compilation makes of the source. -/
theorem runIn_panel (source : String) :
    (panel source declared bindings none).runIn workspace =
      match (compile .positional source declared).runIn workspace with
      | (.ok kept, after) =>
          ((.accepted kept · []) <$> pointValue bindings kept.value : Action Panel).runIn after
      | (.error failure, after) =>
          match failure.expressionDiagnostic? with
          | some diagnostic =>
              (.ok (.rejected diagnostic.notice),
                ⟨after.memo,
                  after.journal ++ [.refused "Expression rejected" source diagnostic]⟩)
          | none => (.error failure, after) := by
  rw [panel, runIn_bind, runIn_tryCatch, runIn_map]
  rcases (compile .positional source declared).runIn workspace with ⟨failure | kept, after⟩
  · dsimp only [Except.map]
    cases failure.expressionDiagnostic? with
    | none => rfl
    | some diagnostic => rfl
  · dsimp only [Except.map]
    rw [runIn_bind, runIn_map]
    rcases (pointValue bindings kept.value).runIn after with ⟨_ | _, last⟩
    · rfl
    · rfl

/-! ## Values -/

variable {source variableName : String} {expression : Expression Float}

/-- All variables of a compiled expression are bound when the declared one is bound or
not mentioned. -/
theorem names_bound_iff
    (compiled : Expression.compile source declared = .ok expression) :
    (expression.variableNames.all fun name => (bindings.lookup name).isSome) = true ↔
      (expression.root.Mentions expression.variableName →
        (bindings.lookup expression.variableName).isSome) := by
  have closed := (Expression.isClosed_of_compile compiled).2
  obtain ⟨tokens, name, root, -, -, -, rfl⟩ := Expression.compile_eq_ok_iff.mp compiled
  simp only [List.all_eq_true, Tree.mem_variableNames_iff]
  constructor
  · exact fun bound mentions => bound _ mentions
  · intro bound name mentions
    obtain rfl := closed.eq_of_mentions mentions
    exact bound mentions

/-- The value of a compiled expression is there when its variable is bound or not
mentioned, and it is that of its tree. -/
theorem exists_pointValue
    (compiled : Expression.compile source declared = .ok expression)
    (bindings : Bindings Float) :
    ∃ value, (pointValue bindings expression).runIn workspace = (.ok value, workspace) ∧
      (value.isSome ↔ (expression.root.Mentions expression.variableName →
        (bindings.lookup expression.variableName).isSome)) ∧
      ∀ y ∈ value, expression.evaluate bindings = .ok y := by
  rw [runIn_pointValue, ← names_bound_iff compiled]
  split
  · rename_i bound
    obtain ⟨y, evaluated⟩ :=
      Expression.exists_evaluate_of_mentions compiled ((names_bound_iff compiled).mp bound)
    rw [evaluated]
    exact ⟨some y, rfl, by simp [bound], by simp⟩
  · rename_i unbound
    exact ⟨none, rfl, by simp [unbound], nofun⟩

/-- A compiled expression has a value wherever a calculation asks for one. -/
theorem exists_valueAt
    (compiled : Expression.compile source declared = .ok expression)
    (x : Float) :
    ∃ y, valueAt expression x = .ok y := by
  obtain ⟨y, valued⟩ := Expression.exists_at? compiled x
  exact ⟨y, Outcome.mapError_eq_ok_iff.mpr valued⟩

end Action
end Calculator
