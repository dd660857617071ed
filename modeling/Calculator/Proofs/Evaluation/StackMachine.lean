import Calculator.Expression.Evaluation
import Calculator.Proofs.Evaluation.Operation

/-!
# The stack machine and the recursion

Handling the frames of a tree one by one finds the value that the recursion on
the tree says it has, and fails where the recursion fails first.
-/

namespace Calculator
namespace Tree

variable {α : Type} [Elementary α]

/-- A run whose frames have all been handled ends with the values found. -/
@[simp] theorem run_nil (bindings : Bindings α) (values : List α) :
    run bindings ⟨[], values⟩ = .ok values := by
  rw [run]

/-- A run handles the first frame and goes on from there. -/
theorem run_cons
    (bindings : Bindings α)
    (frame : Frame α)
    (pending : List (Frame α))
    (values : List α) :
    run bindings ⟨frame :: pending, values⟩ =
      step bindings frame ⟨pending, values⟩ >>= run bindings := by
  rw [run]
  cases stepped : step bindings frame ⟨pending, values⟩ with
  | error error => rfl
  | ok next => rfl

theorem run_visit_eq_step
    (bindings : Bindings α)
    (machine : Machine α)
    (tree : Tree α) :
    run bindings (machine.visit tree) =
      step bindings ⟨tree, false⟩ machine >>= run bindings :=
  run_cons bindings ⟨tree, false⟩ machine.pending machine.values

theorem run_await_eq_step
    (bindings : Bindings α)
    (machine : Machine α)
    (tree : Tree α) :
    run bindings (machine.await tree) =
      step bindings ⟨tree, true⟩ machine >>= run bindings :=
  run_cons bindings ⟨tree, true⟩ machine.pending machine.values

/-- Visiting a tree puts its value on top of the values and goes on with the
frames that were pending before, or fails as the tree does. -/
theorem run_visit
    (bindings : Bindings α)
    (tree : Tree α)
    (machine : Machine α) :
    run bindings (machine.visit tree) =
      tree.value bindings >>= fun x => run bindings (machine.push x) := by
  induction tree generalizing machine with
  | literal x => exact run_visit_eq_step bindings machine (.literal x)
  | symbol name =>
      rw [run_visit_eq_step]
      simp only [step, value]
      cases bindings.valueOf name with
      | error error => rfl
      | ok x => rfl
  | unary text operand operandHypothesis =>
      rw [run_visit_eq_step]
      simp only [step, value]
      cases known : unaryOperator text with
      | error error => rfl
      | ok operator =>
          -- The frame that waits for the operand looks the operator up again.
          have again (x : α) :
              run bindings ((machine.push x).await (.unary text operand)) =
                run bindings (machine.push (operator.apply x)) := by
            rw [run_await_eq_step]
            simp [step, known]
          simp [operandHypothesis, again]
  | binary text left right leftHypothesis rightHypothesis =>
      rw [run_visit_eq_step]
      simp only [step, value]
      cases known : binaryOperator text with
      | error error => rfl
      | ok operator =>
          have again (x y : α) :
              run bindings (((machine.push x).push y).await (.binary text left right)) =
                (operator.apply x y).mapError .arithmetic >>= fun z =>
                  run bindings (machine.push z) := by
            rw [run_await_eq_step]
            simp [step, known]
          simp [leftHypothesis, rightHypothesis, again]
  | call name argument argumentHypothesis =>
      rw [run_visit_eq_step]
      simp only [step, value]
      cases known : Tree.function name with
      | error error => rfl
      | ok function =>
          have again (x : α) :
              run bindings ((machine.push x).await (.call name argument)) =
                (function.apply x).mapError .arithmetic >>= fun y =>
                  run bindings (machine.push y) := by
            rw [run_await_eq_step]
            simp [step, known]
          simp [argumentHypothesis, again]
  | foreign text => exact run_visit_eq_step bindings machine (.foreign text)

/-- The run over a tree alone ends with its value and nothing else. -/
theorem run_tree (bindings : Bindings α) (tree : Tree α) :
    run bindings ⟨[⟨tree, false⟩], []⟩ = (tree.value bindings).map fun x => [x] := by
  have visited := run_visit bindings tree ⟨[], []⟩
  simp only [Machine.visit, Machine.push, run_nil] at visited
  rw [visited]
  cases tree.value bindings with
  | error error => rfl
  | ok x => rfl

/-- The errors that trees may have by themselves: a name or a leaf without a
meaning. -/
def IsNamingError : EvaluationError → Prop
  | .unbound _ _ => True
  | .unknownUnary _ => True
  | .unknownBinary _ => True
  | .unknownFunction _ => True
  | .notTree _ => True
  | .arithmetic _ => False
  | .underflow => False

/-- A name without a meaning gives the error it was looked up with. -/
theorem isNamingError_of_require
    {β : Type}
    {found : Option β}
    {missing error : EvaluationError}
    (failed : EvaluationError.require found missing = .error error)
    (naming : IsNamingError missing) :
    IsNamingError error := by
  obtain ⟨-, rfl⟩ := EvaluationError.require_eq_error_iff.mp failed
  exact naming

/-- A tree without a value has a name or a leaf without a meaning. Operations
on numbers have a result, so they are never the reason. -/
theorem isNamingError_of_value
    {bindings : Bindings α}
    {tree : Tree α}
    {error : EvaluationError}
    (failed : tree.value bindings = .error error) :
    IsNamingError error := by
  induction tree generalizing error with
  | literal x => cases failed
  | symbol name => exact isNamingError_of_require failed trivial
  | unary text operand operandHypothesis =>
      rcases Outcome.bind_eq_error_iff.mp failed with unknown | ⟨operator, -, failed⟩
      · exact isNamingError_of_require unknown trivial
      rcases Outcome.bind_eq_error_iff.mp failed with failed | ⟨x, -, failed⟩
      · exact operandHypothesis failed
      · cases failed
  | binary text left right leftHypothesis rightHypothesis =>
      rcases Outcome.bind_eq_error_iff.mp failed with unknown | ⟨operator, -, failed⟩
      · exact isNamingError_of_require unknown trivial
      rcases Outcome.bind_eq_error_iff.mp failed with failed | ⟨x, -, failed⟩
      · exact leftHypothesis failed
      rcases Outcome.bind_eq_error_iff.mp failed with failed | ⟨y, -, failed⟩
      · exact rightHypothesis failed
      · obtain ⟨z, applied⟩ := operator.exists_apply x y
        rw [applied] at failed
        cases failed
  | call name argument argumentHypothesis =>
      rcases Outcome.bind_eq_error_iff.mp failed with unknown | ⟨function, -, failed⟩
      · exact isNamingError_of_require unknown trivial
      rcases Outcome.bind_eq_error_iff.mp failed with failed | ⟨x, -, failed⟩
      · exact argumentHypothesis failed
      · obtain ⟨y, applied⟩ := function.exists_apply x
        rw [applied] at failed
        cases failed
  | foreign text =>
      cases failed
      trivial

/-- What the machine finds is the value of the recursion. -/
theorem evaluate_eq_value (bindings : Bindings α) (tree : Tree α) :
    tree.evaluate bindings = tree.value bindings := by
  rw [evaluate, run_tree]
  cases tree.value bindings with
  | error error => rfl
  | ok x => rfl

/-- The machine with its two stacks does what the recursion does on every tree,
one with unknown names and foreign leaves included. It ends with exactly one
value when the tree has one. Otherwise it fails as the recursion fails first,
for the want of a meaning of a name or a leaf and never for the want of a value
on the stack. -/
theorem evaluate_refines_value
    (bindings : Bindings α)
    (tree : Tree α) :
    run bindings ⟨[⟨tree, false⟩], []⟩ = (tree.value bindings).map (fun x => [x]) ∧
      tree.evaluate bindings = tree.value bindings ∧
      ∀ error, tree.evaluate bindings = .error error → IsNamingError error := by
  refine ⟨run_tree bindings tree, evaluate_eq_value bindings tree, ?_⟩
  intro error failed
  rw [evaluate_eq_value] at failed
  exact isNamingError_of_value failed

end Tree
end Calculator
