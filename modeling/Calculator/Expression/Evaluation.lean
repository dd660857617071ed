import Calculator.Expression.Function
import Calculator.Expression.Tree
import Calculator.Outcome

/-!
# The value of a tree

A tree has a value where its variables are bound. `Tree.value` says what it is
by recursion on the tree. `Tree.evaluate` finds it with a stack of its own for
the nodes still to handle and one for the values found, so the length of a sum
is no limit.

A node's operator or function is looked up before its operands are visited, and
the left operand comes before the right one. A node with operands is handled
twice: the first time they are put before it, the second time they have values.
-/

namespace Calculator

/-- Why a tree has no value. -/
inductive EvaluationError
  /-- A variable is not among the bound names, which come in increasing order. -/
  | unbound (name : String) (bound : List String)
  | unknownUnary (operator : String)
  | unknownBinary (operator : String)
  | unknownFunction (name : String)
  /-- A leaf is no expression. -/
  | notTree (text : String)
  /-- An operation on numbers has no result. -/
  | arithmetic (fault : Fault)
  /-- An operation found too few values. -/
  | underflow
  deriving DecidableEq, Repr

namespace EvaluationError

variable {β : Type}

/-- The meaning of a name, or the error of a name without one. -/
def require (found : Option β) (missing : EvaluationError) : Except EvaluationError β :=
  match found with
  | some meaning => .ok meaning
  | none => .error missing

@[simp] theorem require_eq_ok_iff {found : Option β} {missing : EvaluationError} {meaning : β} :
    require found missing = .ok meaning ↔ found = some meaning := by
  cases found <;> simp [require]

@[simp] theorem require_eq_error_iff {found : Option β} {missing error : EvaluationError} :
    require found missing = .error error ↔ found = none ∧ error = missing := by
  cases found <;> simp [require, eq_comm]

end EvaluationError

/-- The values of the bound names. -/
abbrev Bindings (α : Type) := List (String × α)

namespace Bindings

variable {α : Type}

/-- The bound names in increasing order. -/
def names (bindings : Bindings α) : List String :=
  (bindings.map Prod.fst).mergeSort

/-- The value of a variable. -/
def valueOf (bindings : Bindings α) (name : String) : Except EvaluationError α :=
  EvaluationError.require (bindings.lookup name) (.unbound name bindings.names)

end Bindings

namespace Tree

/-- The operation of a unary operator. -/
def unaryOperator (text : String) : Except EvaluationError UnaryOperator :=
  EvaluationError.require (UnaryOperator.ofText? text) (.unknownUnary text)

/-- The operation of a binary operator. -/
def binaryOperator (text : String) : Except EvaluationError BinaryOperator :=
  EvaluationError.require (BinaryOperator.ofText? text) (.unknownBinary text)

/-- The function of a name. -/
def function (name : String) : Except EvaluationError Function :=
  EvaluationError.require (Function.ofName? name) (.unknownFunction name)

variable {α : Type}

/-- A tree that is still to be handled. It is ready when its operands have been. -/
structure Frame (α : Type) where
  tree : Tree α
  ready : Bool

/-- The number of steps that a frame takes at most. -/
def Frame.steps (frame : Frame α) : Nat :=
  if frame.ready then 1 else 2 * frame.tree.size

/-- The frames that are still to be handled, in order, and the values found so
far, latest first. -/
structure Machine (α : Type) where
  pending : List (Frame α)
  values : List α

namespace Machine

/-- The number of steps that the pending frames take at most. -/
def workload (machine : Machine α) : Nat :=
  machine.pending.foldr (fun frame others => frame.steps + others) 0

/-- Handle a tree before all else. -/
def visit (machine : Machine α) (tree : Tree α) : Machine α :=
  ⟨⟨tree, false⟩ :: machine.pending, machine.values⟩

/-- Handle a tree again before all else, its operands having been handled. -/
def await (machine : Machine α) (tree : Tree α) : Machine α :=
  ⟨⟨tree, true⟩ :: machine.pending, machine.values⟩

/-- Put a value on top of the others. -/
def push (machine : Machine α) (value : α) : Machine α :=
  ⟨machine.pending, value :: machine.values⟩

/-- Take the latest value. -/
def pop (machine : Machine α) : Except EvaluationError (α × Machine α) :=
  match machine.values with
  | [] => .error .underflow
  | value :: below => .ok (value, ⟨machine.pending, below⟩)

@[simp] theorem workload_visit (machine : Machine α) (tree : Tree α) :
    (machine.visit tree).workload = 2 * tree.size + machine.workload := by
  simp [workload, visit, Frame.steps]

@[simp] theorem workload_await (machine : Machine α) (tree : Tree α) :
    (machine.await tree).workload = 1 + machine.workload := by
  simp [workload, await, Frame.steps]

@[simp] theorem workload_push (machine : Machine α) (value : α) :
    (machine.push value).workload = machine.workload := rfl

@[simp] theorem pop_push (machine : Machine α) (value : α) :
    (machine.push value).pop = .ok (value, machine) := rfl

/-- A value on top of the others leaves the frames as they are. -/
@[simp] theorem push_visit (machine : Machine α) (tree : Tree α) (value : α) :
    (machine.visit tree).push value = (machine.push value).visit tree := rfl

@[simp] theorem push_await (machine : Machine α) (tree : Tree α) (value : α) :
    (machine.await tree).push value = (machine.push value).await tree := rfl

theorem workload_of_pop {machine below : Machine α} {value : α}
    (popped : machine.pop = .ok (value, below)) : below.workload = machine.workload := by
  obtain ⟨pending, values⟩ := machine
  cases values with
  | nil => cases popped
  | cons latest rest =>
      cases popped
      rfl

end Machine

variable [Elementary α]

/-- The value of a tree by recursion. -/
def value (bindings : Bindings α) : Tree α → Except EvaluationError α
  | .literal x => .ok x
  | .symbol name => bindings.valueOf name
  | .unary text operand => do
      let operator ← unaryOperator text
      return operator.apply (← operand.value bindings)
  | .binary text left right => do
      let operator ← binaryOperator text
      let x ← left.value bindings
      let y ← right.value bindings
      (operator.apply x y).mapError .arithmetic
  | .call name argument => do
      let function ← Tree.function name
      let x ← argument.value bindings
      (function.apply x).mapError .arithmetic
  | .foreign text => .error (.notTree text)

/-- Handle a frame that has been taken from the machine. -/
def step (bindings : Bindings α) (frame : Frame α) (machine : Machine α) :
    Except EvaluationError (Machine α) :=
  match frame.tree with
  | .literal x => .ok (machine.push x)
  | .symbol name => (bindings.valueOf name).map machine.push
  | .unary text operand => do
      let operator ← unaryOperator text
      if frame.ready then
        let (x, below) ← machine.pop
        return below.push (operator.apply x)
      else return (machine.await frame.tree).visit operand
  | .binary text left right => do
      let operator ← binaryOperator text
      if frame.ready then
        let (y, above) ← machine.pop
        let (x, below) ← above.pop
        let z ← (operator.apply x y).mapError .arithmetic
        return below.push z
      else return ((machine.await frame.tree).visit right).visit left
  | .call name argument => do
      let function ← Tree.function name
      if frame.ready then
        let (x, below) ← machine.pop
        let y ← (function.apply x).mapError .arithmetic
        return below.push y
      else return (machine.await frame.tree).visit argument
  | .foreign text => .error (.notTree text)

/-- A step takes work off the machine. -/
theorem workload_of_step {bindings : Bindings α} {frame : Frame α} {machine next : Machine α}
    (stepped : step bindings frame machine = .ok next) :
    next.workload < frame.steps + machine.workload := by
  obtain ⟨tree, ready⟩ := frame
  cases tree with
  | literal x =>
      cases stepped
      cases ready <;> simp [Frame.steps, size]
  | symbol name =>
      obtain ⟨x, -, rfl⟩ := Outcome.map_eq_ok_iff.mp stepped
      cases ready <;> simp [Frame.steps, size]
  | unary text operand =>
      obtain ⟨operator, -, handled⟩ := Outcome.bind_eq_ok_iff.mp stepped
      cases ready with
      | false =>
          cases handled
          simp [Frame.steps, size]
          omega
      | true =>
          obtain ⟨⟨x, below⟩, popped, pushed⟩ := Outcome.bind_eq_ok_iff.mp handled
          cases pushed
          simp [Frame.steps, Machine.workload_of_pop popped]
  | binary text left right =>
      obtain ⟨operator, -, handled⟩ := Outcome.bind_eq_ok_iff.mp stepped
      cases ready with
      | false =>
          cases handled
          simp [Frame.steps, size]
          omega
      | true =>
          obtain ⟨⟨y, above⟩, poppedRight, handled⟩ := Outcome.bind_eq_ok_iff.mp handled
          obtain ⟨⟨x, below⟩, poppedLeft, handled⟩ := Outcome.bind_eq_ok_iff.mp handled
          obtain ⟨z, -, pushed⟩ := Outcome.bind_eq_ok_iff.mp handled
          cases pushed
          simp [Frame.steps, Machine.workload_of_pop poppedLeft,
            Machine.workload_of_pop poppedRight]
  | call name argument =>
      obtain ⟨function, -, handled⟩ := Outcome.bind_eq_ok_iff.mp stepped
      cases ready with
      | false =>
          cases handled
          simp [Frame.steps, size]
          omega
      | true =>
          obtain ⟨⟨x, below⟩, popped, handled⟩ := Outcome.bind_eq_ok_iff.mp handled
          obtain ⟨y, -, pushed⟩ := Outcome.bind_eq_ok_iff.mp handled
          cases pushed
          simp [Frame.steps, Machine.workload_of_pop popped]
  | foreign text => cases stepped

/-- Handle all pending frames, which leaves the values found. -/
def run (bindings : Bindings α) : Machine α → Except EvaluationError (List α)
  | ⟨[], values⟩ => .ok values
  | ⟨frame :: pending, values⟩ =>
      match _stepped : step bindings frame ⟨pending, values⟩ with
      | .error error => .error error
      | .ok next => run bindings next
termination_by machine => machine.workload
decreasing_by exact workload_of_step _stepped

/-- The value of a tree: the first of the values found. -/
def evaluate (bindings : Bindings α) (tree : Tree α) : Except EvaluationError α := do
  let values ← run bindings ⟨[⟨tree, false⟩], []⟩
  match values.getLast? with
  | some x => return x
  | none => throw .underflow

end Tree

end Calculator
