import Calculator.Proofs.Memo.Recency
import Calculator.Proofs.Session.Run

/-!
# Histories of compilations

Expressions are compiled for requests of several sorts through one memo. Whatever has
been asked for before, a request has the answer of a fresh compilation. The requests
before it decide only whether that answer is found in the memo.
-/

namespace Calculator

/-- A value that can be part of a key. -/
abbrev KeyPart :=
  {value : Value // Action.isKey value = true}

/-- What a panel shows of its source: an expression or a notice. -/
def Panel.verdict : Panel → Except Notice (Expression Float)
  | .accepted kept _ _ => .ok kept.value
  | .rejected notice => .error notice

/-- A request for an expression, in one of the forms of calls or for a panel. -/
inductive Request
  | bare (source : String)
  | positional (source : String) (declared : KeyPart)
  | keyword (source : String) (declared : KeyPart)
  | panel (source : String) (declared : KeyPart) (bindings : Bindings Float)

namespace Request

/-- The form of the call that a request makes. -/
def form : Request → CallForm
  | .bare _ => .bare
  | .positional .. => .positional
  | .keyword .. => .keyword
  | .panel .. => .positional

/-- The text that is to be compiled. -/
def source : Request → String
  | .bare source => source
  | .positional source _ => source
  | .keyword source _ => source
  | .panel source .. => source

/-- The variable that is declared. -/
def declared : Request → KeyPart
  | .bare _ => ⟨.text Variable.standard, rfl⟩
  | .positional _ declared => declared
  | .keyword _ declared => declared
  | .panel _ declared _ => declared

/-- What the expression is kept under. -/
def key (request : Request) : CompileKey :=
  ⟨request.form, request.source, Action.nameOf? request.declared.val⟩

/-- What a compilation without a memo makes of the source. -/
def fresh (request : Request) : Except CompileError (Expression Float) :=
  Expression.compile request.source request.declared.val

/-- Whether the source is an expression. -/
def succeeds (request : Request) : Bool :=
  request.fresh.isOk

/-- Carry out a request. A panel has no plot. -/
def action : Request → Action (Except Notice (Expression Float))
  | .panel source declared bindings =>
      Panel.verdict <$> Action.panel source declared.val bindings none
  | request =>
      (fun kept => .ok kept.value) <$>
        Action.compile request.form request.source request.declared.val

/-- How an error of a compilation reaches the caller. A panel shows it as a notice when
it is an error of the source. -/
def report : Request → CompileError → Except Failure (Except Notice (Expression Float))
  | .panel .., error =>
      match error.diagnostic? with
      | some diagnostic => .ok (.error diagnostic.notice)
      | none => .error (.compile error)
  | _, error => .error (.compile error)

/-- What the caller of a request is given after a fresh compilation. -/
def answer (request : Request) : Except Failure (Except Notice (Expression Float)) :=
  match request.fresh with
  | .ok expression => .ok (.ok expression)
  | .error error => request.report error

/-- The expression that is kept under a key. -/
def meaning (key : CompileKey) : Option (Expression Float) :=
  key.variableName.bind fun name => (Expression.compile key.source (.text name)).toOption

/-- The keys that have been used, by requests whose source is an expression. The latest
request comes first, and so does its key. -/
def uses (history : List Request) : List CompileKey :=
  (history.filter succeeds).map key

end Request

namespace Workspace

/-- The workspace after a history of requests, the latest of which comes first. -/
def after (room : Nat) : List Request → Workspace
  | [] => .empty room
  | latest :: earlier => (latest.action.runIn (after room earlier)).2

end Workspace

namespace Request

variable {workspace : Workspace} {request : Request}

/-! ## One request -/

/-- The call of the memo that a request makes. -/
def call (request : Request) (workspace : Workspace) :
    Except CompileError KeptExpression × Memo CompileKey (Expression Float) :=
  workspace.memo.call (fun _ => request.fresh) request.key

/-- The compilation of a request is its call. -/
theorem runIn_compile (request : Request) (workspace : Workspace) :
    (Action.compile request.form request.source request.declared.val).runIn workspace =
      ((request.call workspace).1.mapError .compile,
        ⟨(request.call workspace).2, workspace.journal⟩) :=
  Action.runIn_compile request.form request.source request.declared.property

/-- A panel shows what its call makes of the source. -/
theorem runIn_panel
    (source : String)
    (declared : KeyPart)
    (bindings : Bindings Float)
    (workspace : Workspace) :
    let called := (Request.panel source declared bindings).call workspace
    (Action.panel source declared.val bindings none).runIn workspace =
      match called.1 with
      | .ok kept =>
          ((.accepted kept · []) <$> Action.pointValue bindings kept.value : Action Panel).runIn
            ⟨called.2, workspace.journal⟩
      | .error error =>
          match error.diagnostic? with
          | some diagnostic =>
              (.ok (.rejected diagnostic.notice),
                ⟨called.2,
                  workspace.journal ++ [.refused "Expression rejected" source diagnostic]⟩)
          | none => (.error (.compile error), ⟨called.2, workspace.journal⟩) := by
  dsimp only
  have compiled := (Request.panel source declared bindings).runIn_compile workspace
  rw [Action.runIn_panel, show (Action.compile .positional source declared.val).runIn workspace =
    _ from compiled]
  cases ((Request.panel source declared bindings).call workspace).1 with
  | ok kept => rfl
  | error error => rfl

/-- A request changes the memo by one call. -/
theorem memo_runIn (request : Request) (workspace : Workspace) :
    (request.action.runIn workspace).2.memo = (request.call workspace).2 := by
  cases request with
  | panel source declared bindings =>
      rw [action, Action.runIn_map, runIn_panel]
      split
      · simp only [Action.runIn_map, Action.runIn_pointValue]
      · split <;> rfl
  | _ => simp only [action, Action.runIn_map, runIn_compile]

/-- A panel shows the expression that its call finds, and its value. -/
theorem runIn_panel_of_call_ok
    {source : String}
    {declared : KeyPart}
    {bindings : Bindings Float}
    {kept : KeptExpression}
    (called : ((Request.panel source declared bindings).call workspace).1 = .ok kept)
    (compiled : Expression.compile source declared.val = .ok kept.value) :
    ∃ value, ((Action.panel source declared.val bindings none).runIn workspace).1 =
        .ok (.accepted kept value []) ∧
      (value.isSome ↔ (kept.value.root.Mentions kept.value.variableName →
        (bindings.lookup kept.value.variableName).isSome)) ∧
      ∀ y ∈ value, kept.value.evaluate bindings = .ok y := by
  obtain ⟨value, valued, present, evaluated⟩ := Action.exists_pointValue compiled bindings
  refine ⟨value, ?_, present, evaluated⟩
  rw [runIn_panel, called]
  simp only [Action.runIn_map]
  rw [valued]
  rfl

/-- A panel shows the notice of the error that its call ends with. -/
theorem runIn_panel_of_call_error
    {source : String}
    {declared : KeyPart}
    {bindings : Bindings Float}
    {error : CompileError}
    {diagnostic : Diagnostic}
    (called : ((Request.panel source declared bindings).call workspace).1 = .error error)
    (reported : error.diagnostic? = some diagnostic) :
    ((Action.panel source declared.val bindings none).runIn workspace).1 =
      .ok (.rejected diagnostic.notice) := by
  rw [runIn_panel, called]
  simp only [reported]

/-- A call with the fresh result gives a request its answer. -/
theorem runIn_of_call_ok
    {kept : KeptExpression}
    (called : (request.call workspace).1 = .ok kept)
    (compiled : request.fresh = .ok kept.value) :
    (request.action.runIn workspace).1 = request.answer := by
  rw [answer, compiled]
  cases request with
  | panel source declared bindings =>
      obtain ⟨value, shown, -, -⟩ := runIn_panel_of_call_ok called compiled
      rw [action, Action.runIn_map, shown]
      rfl
  | _ =>
      simp only [action, Action.runIn_map, runIn_compile, called]
      rfl

theorem runIn_of_call_error
    {error : CompileError}
    (called : (request.call workspace).1 = .error error)
    (failed : request.fresh = .error error) :
    (request.action.runIn workspace).1 = request.answer := by
  rw [answer, failed]
  cases request with
  | panel source declared bindings =>
      rw [action, Action.runIn_map, runIn_panel, called]
      dsimp only [report]
      cases error.diagnostic? with
      | none => rfl
      | some diagnostic => rfl
  | _ =>
      simp only [action, Action.runIn_map, runIn_compile, called]
      rfl

/-- What a request keeps is what its key stands for. -/
theorem meaning_key (request : Request) : meaning request.key = request.fresh.toOption := by
  rw [meaning, key, fresh]
  generalize request.declared.val = declared
  -- A value that is no text gives no name, and no source compiles with it.
  cases declared with
  | text name => rfl
  | _ =>
      cases compiled : Expression.compile (α := Float) request.source _ with
      | error error => rfl
      | ok expression =>
          obtain ⟨_, _, _, -, usable, -⟩ := Expression.compile_eq_ok_iff.mp compiled
          cases usable

variable {used : List CompileKey}

/-- The call for a source that is an expression has the fresh result, and is a use. -/
theorem call_of_compiled
    (recalls : Memo.Recalls meaning used workspace.memo)
    {expression : Expression Float}
    (compiled : request.fresh = .ok expression) :
    (∃ kept, (request.call workspace).1 = .ok kept ∧ kept.value = expression) ∧
      Memo.Recalls meaning (request.key :: used) (request.call workspace).2 := by
  have means := request.meaning_key
  rw [compiled] at means
  exact recalls.call_ok (fun _ => request.fresh) compiled means

/-- The call for any other source fails like a fresh compilation, and is no use. -/
theorem call_of_failed
    (recalls : Memo.Recalls meaning used workspace.memo)
    {error : CompileError}
    (failed : request.fresh = .error error) :
    (request.call workspace).1 = .error error ∧
      (request.call workspace).2.entries = workspace.memo.entries ∧
      Memo.Recalls meaning used (request.call workspace).2 := by
  have means := request.meaning_key
  rw [failed] at means
  exact recalls.call_error (fun _ => request.fresh) failed means

/-- In a workspace whose memo is that of some uses, a request is one more use when its
source is an expression. Its answer does not depend on the workspace. -/
theorem runIn_of_recalls
    (recalls : Memo.Recalls meaning used workspace.memo)
    (request : Request) :
    (request.action.runIn workspace).1 = request.answer ∧
      Memo.Recalls meaning (if request.succeeds then request.key :: used else used)
        (request.action.runIn workspace).2.memo ∧
      (request.succeeds = false →
        (request.action.runIn workspace).2.memo.entries = workspace.memo.entries) := by
  rw [memo_runIn]
  cases outcome : request.fresh with
  | ok expression =>
      have succeeds : request.succeeds = true := by
        rw [Request.succeeds, outcome]
        rfl
      obtain ⟨⟨kept, called, rfl⟩, after⟩ := call_of_compiled recalls outcome
      rw [succeeds, if_pos rfl]
      exact ⟨runIn_of_call_ok called outcome, after, nofun⟩
  | error error =>
      have fails : request.succeeds = false := by
        rw [Request.succeeds, outcome]
        rfl
      obtain ⟨called, same, after⟩ := call_of_failed recalls outcome
      rw [fails, if_neg Bool.false_ne_true]
      exact ⟨runIn_of_call_error called outcome, after, fun _ => same⟩

/-! ## Histories -/

theorem uses_cons (latest : Request) (earlier : List Request) :
    uses (latest :: earlier) =
      if latest.succeeds then latest.key :: uses earlier else uses earlier := by
  rw [uses, List.filter_cons]
  split <;> rfl

/-- The memo after a history is that of its uses. -/
theorem recalls_after (room : Nat) (history : List Request) :
    Memo.Recalls meaning (uses history) (Workspace.after room history).memo := by
  induction history with
  | nil => exact Memo.recalls_empty meaning room
  | cons latest earlier earlierHypothesis =>
      rw [uses_cons, Workspace.after]
      exact (runIn_of_recalls earlierHypothesis latest).2.1

theorem capacity_after (room : Nat) (history : List Request) :
    (Workspace.after room history).memo.capacity = room := by
  induction history with
  | nil => rfl
  | cons latest earlier earlierHypothesis =>
      rw [Workspace.after, memo_runIn, call, Memo.capacity_call, earlierHypothesis]

/-- Every request of a history is counted once. -/
theorem calls_after (room : Nat) (history : List Request) :
    (Workspace.after room history).memo.hits + (Workspace.after room history).memo.misses =
      history.length := by
  induction history with
  | nil => rfl
  | cons latest earlier earlierHypothesis =>
      rw [Workspace.after, memo_runIn, call, Memo.hits_add_misses_call, earlierHypothesis,
        List.length_cons]

/-- A request has the answer of a fresh compilation after every history. It finds its
result in the memo when its key has been used and fewer than 256 distinct other keys
since. The memo holds the distinct keys that have been used, up to 256, counts every
request once, and keeps what it has in its order when the source is no expression. -/
theorem answer_after_history (history : List Request) (next : Request) :
    let before := Workspace.after Workspace.standardRoom history
    let result := next.action.runIn before
    result.1 = next.answer ∧
      result.2.memo.hits = before.memo.hits +
        (if next.key ∈ uses history ∧
            ((uses history).takeWhile (· ≠ next.key)).eraseDups.length < 256
          then 1 else 0) ∧
      before.memo.size = min 256 (uses history).eraseDups.length ∧
      before.memo.hits + before.memo.misses = history.length ∧
      (next.succeeds = false → result.2.memo.entries = before.memo.entries) := by
  have recalls := recalls_after Workspace.standardRoom history
  have room := capacity_after Workspace.standardRoom history
  obtain ⟨answered, -, unchanged⟩ := runIn_of_recalls recalls next
  have kept : next.key ∈ (Workspace.after Workspace.standardRoom history).memo.keys ↔
      next.key ∈ uses history ∧
        ((uses history).takeWhile (· ≠ next.key)).eraseDups.length < 256 := by
    rw [recalls.mem_keys_iff, room, Workspace.standardRoom]
  refine ⟨answered, ?_, ?_, calls_after _ history, unchanged⟩
  · rw [memo_runIn, call, Memo.hits_call]
    simp only [kept]
  · rw [recalls.size_eq, room, Workspace.standardRoom]

end Request
end Calculator
