import Calculator.Proofs.Session.History
import Calculator.Session.Basic

/-!
# The course of a session

A session is begun in an empty workspace and carries out one task after the other. What
its memo keeps is always what a fresh compilation would make of the same source, so a
source that is an expression compiles at every point of the course.
-/

namespace Calculator

/-- A workspace whose memo keeps what fresh compilations make of the sources. -/
def Workspace.IsFaithful (workspace : Workspace) : Prop :=
  ∃ used, Memo.Recalls Request.meaning used workspace.memo

/-! ## Steps that keep a workspace faithful -/

namespace Action

variable {β γ ε : Type}

/-- A calculation that leaves a faithful workspace faithful, also when it fails. -/
def IsFaithful (action : Action β) : Prop :=
  ∀ workspace : Workspace, workspace.IsFaithful → (action.runIn workspace).2.IsFaithful

theorem isFaithful_pure (x : β) : (pure x : Action β).IsFaithful :=
  fun _ faithful => faithful

theorem isFaithful_throw (failure : Failure) : (throw failure : Action β).IsFaithful :=
  fun _ faithful => faithful

theorem isFaithful_note (entry : JournalEntry) : (note entry).IsFaithful :=
  fun _ faithful => faithful

theorem isFaithful_ofExcept (wrap : ε → Failure) (result : Except ε β) :
    (ofExcept wrap result).IsFaithful := by
  intro workspace faithful
  rwa [runIn_ofExcept]

theorem IsFaithful.bind
    {action : Action β}
    {next : β → Action γ}
    (first : action.IsFaithful)
    (second : ∀ x, (next x).IsFaithful) :
    (action >>= next).IsFaithful := by
  intro workspace faithful
  have between := first workspace faithful
  rw [runIn_bind]
  generalize action.runIn workspace = ran at between ⊢
  rcases ran with ⟨failure | x, after⟩
  · exact between
  · exact second x after between

theorem IsFaithful.map
    {action : Action β}
    (faithful : action.IsFaithful)
    (f : β → γ) :
    (f <$> action).IsFaithful := by
  rw [← bind_pure_comp]
  exact faithful.bind fun x => isFaithful_pure (f x)

theorem IsFaithful.tryCatch
    {action : Action β}
    {recover : Failure → Action β}
    (first : action.IsFaithful)
    (second : ∀ failure, (recover failure).IsFaithful) :
    (tryCatch action recover).IsFaithful := by
  intro workspace faithful
  have between := first workspace faithful
  rw [runIn_tryCatch]
  generalize action.runIn workspace = ran at between ⊢
  rcases ran with ⟨failure | x, after⟩
  · exact second failure after between
  · exact between

/-- A compilation keeps its result under the key that stands for it. -/
theorem isFaithful_compile
    (source : String)
    (declared : Value) :
    (compile .positional source declared).IsFaithful := by
  intro workspace faithful
  cases hashable : isKey declared with
  | false =>
      -- The memo is not even asked.
      rw [compile, hashable]
      exact faithful
  | true =>
      obtain ⟨used, recalls⟩ := faithful
      let request : Request := .positional source ⟨declared, hashable⟩
      obtain ⟨-, after, -⟩ := Request.runIn_of_recalls recalls request
      rw [Request.memo_runIn] at after
      rw [show (compile .positional source declared).runIn workspace = _ from
        request.runIn_compile workspace]
      exact ⟨_, after⟩

theorem isFaithful_pointValue
    (bindings : Bindings Float)
    (expression : Expression Float) :
    (pointValue bindings expression).IsFaithful := by
  intro workspace faithful
  rwa [runIn_pointValue]

theorem isFaithful_sample
    (expression : Expression Float)
    (xMin xMax : Number Float)
    (columnCount : Value)
    (limit : Option (Number Float)) :
    (sample expression xMin xMax columnCount limit).IsFaithful :=
  (isFaithful_ofExcept _ _).bind fun _ => (isFaithful_ofExcept _ _).bind fun _ =>
    (isFaithful_note _).bind fun _ => isFaithful_pure _

theorem isFaithful_internalRate
    (search : RootSearch Float)
    (flows : List Float) :
    (internalRate search flows).IsFaithful :=
  (isFaithful_ofExcept _ _).bind fun _ => (isFaithful_note _).bind fun _ => isFaithful_pure _

theorem isFaithful_panel
    (source : String)
    (declared : Value)
    (bindings : Bindings Float)
    (plot : Option PlotRequest) :
    (panel source declared bindings plot).IsFaithful := by
  refine IsFaithful.bind (IsFaithful.tryCatch ((isFaithful_compile source declared).map _) ?_) ?_
  · intro failure
    split
    · exact isFaithful_pure _
    · exact isFaithful_throw _
  · rintro (diagnostic | kept)
    · exact (isFaithful_note _).bind fun _ => isFaithful_pure _
    · refine (isFaithful_pointValue _ _).bind fun value => ?_
      cases plot with
      | none => exact isFaithful_pure _
      | some request => exact (isFaithful_sample _ _ _ _ _).bind fun _ => isFaithful_pure _

end Action

/-! ## Tasks -/

namespace Session

/-- What a session can be asked for. -/
inductive Task
  | compile (source : String)
  | panel (source : String) (bindings : Bindings Float) (plotted : Bool)
  | evaluate (source : String) (x : Option Float)
  | plot (source : String) (xMin xMax : Option (Number Float)) (columnCount : Value)
  | solveRate (flows : List Float)
  | solveRateText (text : String)
  | derivative (source : String) (x : Float)
  | integral (source : String) (lower upper : Float)
  | limit (source : String) (x : Float)

/-- Carry out a task for the workspace that it leaves. -/
def Task.carryOut (session : Session) : Task → Action Unit
  | .compile source => discard (session.compile source)
  | .panel source bindings plotted => discard (session.panel source bindings plotted)
  | .evaluate source x => discard (session.evaluate source x)
  | .plot source xMin xMax columnCount => discard (session.plot source xMin xMax columnCount)
  | .solveRate flows => discard (session.solveRate flows)
  | .solveRateText text => discard (session.solveRateText text)
  | .derivative source x => discard (session.derivative source x)
  | .integral source lower upper => discard (session.integral source lower upper)
  | .limit source x => discard (session.limit source x)

/-- The workspaces of a session: the one in which it begins, and those that its tasks
leave. -/
inductive Reachable (session : Session) : Workspace → Prop
  | begun
      {profile : Option Key}
      {before after : Workspace}
      (started : (start session.settings profile).runIn before = (.ok session, after)) :
      Reachable session after
  | carriedOut
      {workspace : Workspace}
      (reachable : Reachable session workspace)
      (task : Task) :
      Reachable session ((task.carryOut session).runIn workspace).2

variable (session : Session)

theorem isFaithful_compile (source : String) : (session.compile source).IsFaithful := by
  refine (Action.isFaithful_compile source session.declared).tryCatch fun failure => ?_
  split
  · exact (Action.isFaithful_note _).bind fun _ => Action.isFaithful_throw failure
  · exact Action.isFaithful_throw failure

theorem isFaithful_carryOut (task : Task) : (task.carryOut session).IsFaithful := by
  cases task with
  | compile source => exact (session.isFaithful_compile source).map _
  | panel source bindings plotted => exact (Action.isFaithful_panel _ _ _ _).map _
  | evaluate source x =>
      exact ((session.isFaithful_compile source).bind fun _ =>
        Action.isFaithful_ofExcept _ _).map _
  | plot source xMin xMax columnCount =>
      exact ((session.isFaithful_compile source).bind fun _ =>
        Action.isFaithful_sample _ _ _ _ _).map _
  | solveRate flows => exact (Action.isFaithful_internalRate _ flows).map _
  | solveRateText text =>
      exact ((Action.isFaithful_ofExcept _ _).bind fun flows =>
        Action.isFaithful_internalRate _ flows).map _
  | derivative source x =>
      exact ((session.isFaithful_compile source).bind fun _ =>
        (Action.isFaithful_ofExcept _ _).bind fun _ => Action.isFaithful_ofExcept _ _).map _
  | integral source lower upper =>
      exact ((session.isFaithful_compile source).bind fun _ =>
        (Action.isFaithful_ofExcept _ _).bind fun _ => Action.isFaithful_ofExcept _ _).map _
  | limit source x =>
      exact ((session.isFaithful_compile source).bind fun _ =>
        (Action.isFaithful_ofExcept _ _).bind fun _ => Action.isFaithful_ofExcept _ _).map _

variable {session} {workspace : Workspace}

/-- A session begins with an empty memo, unless there is too much room for it. -/
theorem runIn_start
    (settings : Settings)
    (profile : Option Key)
    (before : Workspace) :
    (start settings profile).runIn before =
      if roomLimit < settings.cache.maxExpressions then (.error .capacity, before)
      else
        (.ok ⟨settings⟩,
          ⟨.empty settings.cache.maxExpressions,
            before.journal ++ [.ready profile settings.parser.variableName
              settings.cache.maxExpressions]⟩) := by
  rw [start]
  split
  · rfl
  · rfl

/-- A session with room that can be counted begins. -/
theorem exists_begun
    {settings : Settings}
    (room : settings.cache.maxExpressions ≤ roomLimit)
    (profile : Option Key)
    (before : Workspace) :
    ∃ after, (start settings profile).runIn before = (.ok ⟨settings⟩, after) ∧
      Reachable ⟨settings⟩ after := by
  have started := runIn_start settings profile before
  rw [if_neg (Nat.not_lt.mpr room)] at started
  exact ⟨_, started, .begun started⟩

/-- The memo of a session keeps what fresh compilations make of the sources. -/
theorem Reachable.isFaithful (reachable : session.Reachable workspace) :
    workspace.IsFaithful := by
  induction reachable with
  | begun started =>
      rw [runIn_start] at started
      split at started
      · cases started
      · cases started
        exact ⟨[], Memo.recalls_empty _ _⟩
  | carriedOut _ task faithful => exact session.isFaithful_carryOut task _ faithful

/-- A source that is an expression compiles at every point of a session. -/
theorem Reachable.exists_runIn_compile
    (reachable : session.Reachable workspace)
    {source : String}
    {expression : Expression Float}
    (compiled : Expression.compile source session.declared = .ok expression) :
    ∃ kept after,
      (Action.compile .positional source session.declared).runIn workspace = (.ok kept, after) ∧
        (session.compile source).runIn workspace = (.ok kept, after) ∧
        kept.value = expression := by
  obtain ⟨used, recalls⟩ := reachable.isFaithful
  let request : Request := .positional source ⟨session.declared, rfl⟩
  have fresh : request.fresh = .ok expression := compiled
  obtain ⟨⟨kept, called, same⟩, -⟩ := Request.call_of_compiled recalls fresh
  have ran := request.runIn_compile workspace
  rw [called] at ran
  refine ⟨kept, _, ran, ?_, same⟩
  rw [compile, Action.runIn_tryCatch]
  rw [show (Action.compile .positional source session.declared).runIn workspace = _ from ran]
  rfl

/-- What follows the compilation of a source is carried out on its expression. -/
theorem Reachable.exists_runIn_compile_bind
    (reachable : session.Reachable workspace)
    {source : String}
    {expression : Expression Float}
    (compiled : Expression.compile source session.declared = .ok expression)
    {β : Type}
    (next : Expression Float → Action β) :
    ∃ after, (session.compile source >>= fun kept => next kept.value).runIn workspace =
      (next expression).runIn after := by
  obtain ⟨kept, after, -, ran, rfl⟩ := reachable.exists_runIn_compile compiled
  exact ⟨after, by rw [Action.runIn_bind, ran]⟩

/-- A source that is no expression fails to compile at every point of a session, like a
fresh compilation. -/
theorem Reachable.exists_runIn_compile_of_failed
    (reachable : session.Reachable workspace)
    {source : String}
    {error : CompileError}
    (failed : Expression.compile (α := Float) source session.declared = .error error) :
    (∃ after, (Action.compile .positional source session.declared).runIn workspace =
        (.error (.compile error), after)) ∧
      ∃ after, (session.compile source).runIn workspace = (.error (.compile error), after) := by
  obtain ⟨used, recalls⟩ := reachable.isFaithful
  let request : Request := .positional source ⟨session.declared, rfl⟩
  have fresh : request.fresh = .error error := failed
  obtain ⟨called, -⟩ := Request.call_of_failed recalls fresh
  have ran :
      (Action.compile .positional source session.declared).runIn workspace =
        (.error (.compile error), ⟨(request.call workspace).2, workspace.journal⟩) := by
    rw [← Outcome.mapError_error, ← called]
    exact request.runIn_compile workspace
  refine ⟨⟨_, ran⟩, ?_⟩
  rw [compile, Action.runIn_tryCatch, ran]
  dsimp only
  cases (Failure.compile error).expressionDiagnostic? with
  | none => exact ⟨_, rfl⟩
  | some diagnostic => exact ⟨_, rfl⟩

/-- What would follow the compilation of a source that is no expression is not carried
out. -/
theorem Reachable.runIn_compile_bind_of_failed
    (reachable : session.Reachable workspace)
    {source : String}
    {error : CompileError}
    (failed : Expression.compile (α := Float) source session.declared = .error error)
    {β : Type}
    (next : KeptExpression → Action β) :
    ((session.compile source >>= next).runIn workspace).1 = .error (.compile error) := by
  obtain ⟨-, after, ran⟩ := reachable.exists_runIn_compile_of_failed failed
  rw [Action.runIn_bind, ran]

/-! ## Points of a session -/

/-- The workspace that tasks leave when they are carried out one after the other. -/
def afterTasks (session : Session) (workspace : Workspace) (tasks : List Task) : Workspace :=
  tasks.foldl (fun current task => ((task.carryOut session).runIn current).2) workspace

theorem Reachable.afterTasks
    (reachable : session.Reachable workspace)
    (tasks : List Task) :
    session.Reachable (session.afterTasks workspace tasks) := by
  induction tasks generalizing workspace with
  | nil => exact reachable
  | cons task rest restHypothesis => exact restHypothesis (reachable.carriedOut task)

/-- Settings that are loaded with room that can be counted begin a session, whatever else is
tested of them. -/
theorem exists_begun_of_load
    {document : Document}
    {profile : Option Key}
    {overrides : Value}
    {variableName : String}
    {test : Settings → Bool}
    (tested : (Settings.load document profile overrides).toOption.any (fun settings =>
      settings.parser.variableName == variableName &&
        decide (settings.cache.maxExpressions ≤ roomLimit) && test settings) = true) :
    ∃ settings before, Settings.load document profile overrides = .ok settings ∧
      (start settings none).runIn (.empty 256) = (.ok ⟨settings⟩, before) ∧
      Reachable ⟨settings⟩ before ∧ declared ⟨settings⟩ = .text variableName ∧
      test settings = true := by
  obtain ⟨settings, loaded, passed⟩ := Outcome.exists_of_any tested
  simp only [Bool.and_eq_true, beq_iff_eq, decide_eq_true_eq] at passed
  obtain ⟨⟨name, room⟩, passed⟩ := passed
  obtain ⟨before, started, reachable⟩ := exists_begun room none (.empty 256)
  exact ⟨settings, before, loaded, started, reachable, congrArg Value.text name, passed⟩

end Session
end Calculator
