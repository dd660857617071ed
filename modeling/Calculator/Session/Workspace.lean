import Calculator.Failure.Basic
import Calculator.Journal.Entry
import Calculator.Memo
import Calculator.Plot.Sample

/-!
# Workspaces

The memo of compiled expressions and the journal, and the calculations that use
them. What a calculation has noted stays noted when it fails.
-/

namespace Calculator

/-- How a compilation is asked for: without a variable, with one in second
place, or with one by name. The memo keeps these apart. -/
inductive CallForm
  | bare
  | positional
  | keyword
  deriving DecidableEq, Repr

/-- What a compiled expression is kept under. A variable that is no text has no
name. -/
structure CompileKey where
  form : CallForm
  source : String
  variableName : Option String
  deriving DecidableEq, Repr

/-- An expression as the memo keeps it. -/
abbrev KeptExpression := MemoEntry CompileKey (Expression Float)

/-- The memo and the journal. -/
structure Workspace where
  memo : Memo CompileKey (Expression Float)
  journal : List JournalEntry

namespace Workspace

/-- The room for expressions unless another size is chosen. -/
def standardRoom : Nat := 256

/-- A workspace before its first calculation. -/
def empty (room : Nat) : Workspace :=
  ⟨.empty room, []⟩

end Workspace

/-- A calculation in a workspace. -/
abbrev Action := ExceptT Failure (StateM Workspace)

namespace Action

variable {β ε : Type}

/-- Carry out a calculation and keep the workspace that it leaves. -/
def runIn (workspace : Workspace) (action : Action β) : Except Failure β × Workspace :=
  (ExceptT.run action).run workspace

/-- A result or a failure that needs no workspace. -/
def ofExcept (wrap : ε → Failure) (result : Except ε β) : Action β :=
  match result with
  | .ok value => return value
  | .error error => throw (wrap error)

/-- Note an event. -/
def note (entry : JournalEntry) : Action Unit :=
  modify fun workspace => ⟨workspace.memo, workspace.journal ++ [entry]⟩

/-- Whether a value can be part of a key: lists and records cannot. -/
def isKey : Value → Bool
  | .list _ => false
  | .record _ => false
  | _ => true

/-- The name that a value gives. -/
def nameOf? : Value → Option String
  | .text name => some name
  | _ => none

/-- Compile a source through the memo. -/
def compile (form : CallForm) (source : String) (declared : Value) : Action KeptExpression := do
  if !isKey declared then throw .unusableKey
  let workspace ← get
  let key : CompileKey := ⟨form, source, nameOf? declared⟩
  let (result, memo) :=
    workspace.memo.call (fun _ => Expression.compile source declared) key
  set (⟨memo, workspace.journal⟩ : Workspace)
  ofExcept .compile result

/-- The value of an expression at a value of its variable. -/
def valueAt (expression : Expression Float) (x : Float) : Except Failure Float :=
  (expression.at? x).mapError .evaluation

/-- The segments of an expression over a window. -/
def sample (expression : Expression Float) (xMin xMax : Number Float) (columnCount : Value)
    (limit : Option (Number Float)) : Action (List (Segment Float)) := do
  let window ← ofExcept .window (Window.make xMin xMax columnCount)
  let segments ← ofExcept id (window.sample (valueAt expression) limit)
  note (.sampled expression.source xMin xMax columnCount segments.length)
  return segments

/-- The rate of return of a series. -/
def internalRate (search : RootSearch Float) (flows : List Float) :
    Action (Iteration Float) := do
  let result ← ofExcept .arithmetic (CashFlow.internalRate search flows)
  note ((SolverOutcome.ofRate result flows.length).entry .rootFinder)
  return result

end Action

end Calculator
