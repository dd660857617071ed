import Calculator.Arithmetic.Double
import Calculator.Proofs.Evaluation.Mention
import Calculator.Proofs.Evaluation.StackMachine
import Mathlib.Data.List.Find

/-!
# The variables that a value depends on

A tree whose names are known has a value where its variables are bound, and fails at the
leftmost variable that is not. Its outcome depends on the variables that it mentions and
on no others.
-/

namespace Calculator
namespace Tree

/-- A tree whose operators and functions are known and whose leaves are scalars or
variables. -/
inductive IsKnown {α : Type} : Tree α → Prop
  | literal (x : α) : IsKnown (.literal x)
  | symbol (name : String) : IsKnown (.symbol name)
  | unary
      {text : String}
      (operator : UnaryOperator)
      {operand : Tree α}
      (known : UnaryOperator.ofText? text = some operator)
      (operandKnown : IsKnown operand) :
      IsKnown (.unary text operand)
  | binary
      {text : String}
      (operator : BinaryOperator)
      {left right : Tree α}
      (known : BinaryOperator.ofText? text = some operator)
      (leftKnown : IsKnown left)
      (rightKnown : IsKnown right) :
      IsKnown (.binary text left right)
  | call
      {name : String}
      (function : Function)
      {argument : Tree α}
      (known : Function.ofName? name = some function)
      (argumentKnown : IsKnown argument) :
      IsKnown (.call name argument)

variable {α : Type}

/-- The leftmost variable of a tree that is not bound. -/
def firstUnbound? (bindings : Bindings α) (tree : Tree α) : Option String :=
  tree.symbols.find? fun name => (bindings.lookup name).isNone

theorem firstUnbound?_binary
    (bindings : Bindings α)
    (text : String)
    (left right : Tree α) :
    (binary text left right).firstUnbound? bindings =
      (left.firstUnbound? bindings).or (right.firstUnbound? bindings) :=
  List.find?_append

theorem firstUnbound?_eq_none_iff {bindings : Bindings α} {tree : Tree α} :
    tree.firstUnbound? bindings = none ↔
      ∀ name, tree.Mentions name → (bindings.lookup name).isSome := by
  simp [firstUnbound?, List.find?_eq_none, mem_symbols_iff, Option.isSome_iff_ne_none]

/-- Bindings that agree on the variables of a tree leave the same one unbound. -/
theorem firstUnbound?_congr
    {bindings others : Bindings α}
    {tree : Tree α}
    (agree : ∀ name, tree.Mentions name → bindings.lookup name = others.lookup name) :
    tree.firstUnbound? bindings = tree.firstUnbound? others := by
  refine List.find?_congr fun name present => ?_
  rw [agree name (mem_symbols_iff.mp present)]

variable [Elementary α]

/-- A known tree has a value, or it fails at its leftmost unbound variable. -/
theorem IsKnown.value_or_unbound
    {tree : Tree α}
    (known : tree.IsKnown)
    (bindings : Bindings α) :
    (tree.firstUnbound? bindings = none ∧ ∃ y, tree.value bindings = .ok y) ∨
      ∃ name, tree.firstUnbound? bindings = some name ∧
        tree.value bindings = .error (.unbound name bindings.names) := by
  induction known with
  | literal x => exact .inl ⟨rfl, x, rfl⟩
  | symbol name =>
      cases found : bindings.lookup name with
      | none =>
          refine .inr ⟨name, ?_, EvaluationError.require_eq_error_iff.mpr ⟨found, rfl⟩⟩
          simp [firstUnbound?, symbols, found]
      | some x =>
          refine .inl ⟨?_, x, EvaluationError.require_eq_ok_iff.mpr found⟩
          simp [firstUnbound?, symbols, found]
  | unary operator known _ operandHypothesis =>
      rw [value, unaryOperator, known]
      rcases operandHypothesis with ⟨bound, x, valued⟩ | ⟨name, unbound, failed⟩
      · exact .inl ⟨bound, operator.apply x, by rw [valued]; rfl⟩
      · exact .inr ⟨name, unbound, by rw [failed]; rfl⟩
  | binary operator known _ _ leftHypothesis rightHypothesis =>
      rw [firstUnbound?_binary, value, binaryOperator, known]
      -- The right operand is not reached when the left one fails.
      rcases leftHypothesis with ⟨leftBound, x, leftValued⟩ | ⟨name, unbound, failed⟩
      · rw [leftBound, leftValued]
        rcases rightHypothesis with ⟨rightBound, y, rightValued⟩ | ⟨name, unbound, failed⟩
        · obtain ⟨z, applied⟩ := operator.exists_apply x y
          refine .inl ⟨rightBound, z, ?_⟩
          rw [rightValued]
          exact Outcome.mapError_eq_ok_iff.mpr applied
        · exact .inr ⟨name, unbound, by rw [failed]; rfl⟩
      · exact .inr ⟨name, by rw [unbound]; rfl, by rw [failed]; rfl⟩
  | call function known _ argumentHypothesis =>
      rw [value, Tree.function, known]
      rcases argumentHypothesis with ⟨bound, x, valued⟩ | ⟨name, unbound, failed⟩
      · obtain ⟨y, applied⟩ := function.exists_apply x
        refine .inl ⟨bound, y, ?_⟩
        rw [valued]
        exact Outcome.mapError_eq_ok_iff.mpr applied
      · exact .inr ⟨name, unbound, by rw [failed]; rfl⟩

/-- A known tree has a value where its variables are bound. -/
theorem IsKnown.exists_value
    {tree : Tree α}
    (known : tree.IsKnown)
    {bindings : Bindings α}
    (bound : ∀ name, tree.Mentions name → (bindings.lookup name).isSome) :
    ∃ y, tree.value bindings = .ok y := by
  rcases known.value_or_unbound bindings with ⟨-, valued⟩ | ⟨name, unbound, -⟩
  · exact valued
  · rw [firstUnbound?_eq_none_iff.mpr bound] at unbound
    cases unbound

/-- A known tree fails at its leftmost unbound variable. -/
theorem IsKnown.leftmost_of_value
    {tree : Tree α}
    (known : tree.IsKnown)
    {bindings : Bindings α}
    {error : EvaluationError}
    (failed : tree.value bindings = .error error) :
    ∃ before name after, tree.symbols = before ++ name :: after ∧
      (∀ earlier ∈ before, (bindings.lookup earlier).isSome) ∧
      bindings.lookup name = none ∧ error = .unbound name bindings.names := by
  rcases known.value_or_unbound bindings with ⟨-, y, valued⟩ | ⟨name, leftmost, named⟩
  · rw [valued] at failed
    cases failed
  · rw [named] at failed
    cases failed
    obtain ⟨unbound, before, after, split, bound⟩ := List.find?_eq_some_iff_append.mp leftmost
    exact ⟨before, name, after, split, by simpa [Option.isSome_iff_ne_none] using bound,
      by simpa using unbound, rfl⟩

/-- Bindings that agree on the variables of a tree give it the same value. -/
theorem value_congr
    {bindings others : Bindings α}
    {tree : Tree α}
    (agree : ∀ name, tree.Mentions name → bindings.lookup name = others.lookup name)
    {y : α}
    (valued : tree.value bindings = .ok y) :
    tree.value others = .ok y := by
  induction tree generalizing y with
  | literal x => exact valued
  | symbol name =>
      refine EvaluationError.require_eq_ok_iff.mpr ?_
      rw [← agree name rfl]
      exact EvaluationError.require_eq_ok_iff.mp valued
  | unary text operand operandHypothesis =>
      obtain ⟨operator, known, valued⟩ := Outcome.bind_eq_ok_iff.mp valued
      obtain ⟨x, operandValued, valued⟩ := Outcome.bind_eq_ok_iff.mp valued
      rw [value, known, Outcome.ok_bind, operandHypothesis agree operandValued]
      exact valued
  | binary text left right leftHypothesis rightHypothesis =>
      obtain ⟨operator, known, valued⟩ := Outcome.bind_eq_ok_iff.mp valued
      obtain ⟨x, leftValued, valued⟩ := Outcome.bind_eq_ok_iff.mp valued
      obtain ⟨z, rightValued, valued⟩ := Outcome.bind_eq_ok_iff.mp valued
      have agreeLeft := fun name mentions => agree name (Or.inl mentions)
      have agreeRight := fun name mentions => agree name (Or.inr mentions)
      rw [value, known, Outcome.ok_bind, leftHypothesis agreeLeft leftValued, Outcome.ok_bind,
        rightHypothesis agreeRight rightValued]
      exact valued
  | call name argument argumentHypothesis =>
      obtain ⟨function, known, valued⟩ := Outcome.bind_eq_ok_iff.mp valued
      obtain ⟨x, argumentValued, valued⟩ := Outcome.bind_eq_ok_iff.mp valued
      rw [value, known, Outcome.ok_bind, argumentHypothesis agree argumentValued]
      exact valued
  | foreign text => cases valued

/-- The machine fails on a known tree just when one of the collected names is not bound,
and then it names the leftmost variable without a value. Bindings that agree on the
collected names have the same outcome, whatever else they bind. The collected names are
those of the variables of the tree, each once. -/
theorem evaluate_names_leftmost_unbound
    {tree : Tree α}
    (known : tree.IsKnown)
    (bindings others : Bindings α) :
    ((∃ error, tree.evaluate bindings = .error error) ↔
        ∃ name ∈ tree.variableNames, bindings.lookup name = none) ∧
      (∀ error, tree.evaluate bindings = .error error →
        ∃ before name after, tree.symbols = before ++ name :: after ∧
          (∀ earlier ∈ before, (bindings.lookup earlier).isSome) ∧
          bindings.lookup name = none ∧ error = .unbound name bindings.names) ∧
      ((∀ name ∈ tree.variableNames, bindings.lookup name = others.lookup name) →
        (∃ y, tree.evaluate bindings = .ok y ∧ tree.evaluate others = .ok y) ∨
          ∃ name, tree.evaluate bindings = .error (.unbound name bindings.names) ∧
            tree.evaluate others = .error (.unbound name others.names)) ∧
      (∀ name, name ∈ tree.variableNames ↔ tree.Mentions name) ∧ tree.variableNames.Nodup := by
  simp only [evaluate_eq_value]
  refine ⟨⟨?_, ?_⟩, fun error failed => known.leftmost_of_value failed, ?_,
    fun _ => mem_variableNames_iff, tree.nodup_variableNames⟩
  · rintro ⟨error, failed⟩
    obtain ⟨before, name, after, split, -, unbound, -⟩ := known.leftmost_of_value failed
    have present : name ∈ tree.symbols := by simp [split]
    exact ⟨name, mem_variableNames_iff.mpr (mem_symbols_iff.mp present), unbound⟩
  · rintro ⟨name, present, unbound⟩
    rcases known.value_or_unbound bindings with ⟨allBound, -⟩ | ⟨leftmost, -, failed⟩
    · have bound := firstUnbound?_eq_none_iff.mp allBound name (mem_variableNames_iff.mp present)
      rw [unbound] at bound
      cases bound
    · exact ⟨_, failed⟩
  · intro agreeOnNames
    have agree (name : String) (mentions : tree.Mentions name) :
        bindings.lookup name = others.lookup name :=
      agreeOnNames name (mem_variableNames_iff.mpr mentions)
    rcases known.value_or_unbound bindings with ⟨-, y, valued⟩ | ⟨name, leftmost, failed⟩
    · exact .inl ⟨y, valued, value_congr agree valued⟩
    · rw [firstUnbound?_congr agree] at leftmost
      rcases known.value_or_unbound others with ⟨bound, -⟩ | ⟨other, unbound, failedToo⟩
      · rw [bound] at leftmost
        cases leftmost
      · rw [unbound] at leftmost
        cases leftmost
        exact .inr ⟨_, failed, failedToo⟩

/-- Of two variables without a value the left one is named, although the right one is
collected first. -/
theorem evaluate_names_leftmost_unbound_of_two :
    let tree : Tree Float :=
      .binary "^" (.call "ln" (.symbol "x")) (.binary "/" (.symbol "y") (.symbol "z"))
    tree.IsKnown ∧ tree.evaluate [("x", 1)] = .error (.unbound "y" ["x"]) := by
  intro tree
  have known : tree.IsKnown :=
    .binary .power rfl (.call .ln rfl (.symbol "x"))
      (.binary .divide rfl (.symbol "y") (.symbol "z"))
  refine ⟨known, ?_⟩
  obtain ⟨fails, names, -, mentions, -⟩ := evaluate_names_leftmost_unbound known [("x", 1)] []
  obtain ⟨error, failed⟩ := fails.mpr ⟨"y", (mentions "y").mpr (.inr (.inl rfl)), rfl⟩
  obtain ⟨before, name, after, split, bound, unbound, rfl⟩ := names error failed
  rw [failed]
  change ["x", "y", "z"] = before ++ name :: after at split
  -- What stands before the name is bound, so it is just the first variable.
  rcases before with _ | ⟨first, _ | ⟨second, rest⟩⟩
  · cases split
    cases unbound
  · cases split
    simp [Bindings.names]
  · obtain ⟨-, split⟩ := List.cons.inj split
    obtain ⟨rfl, -⟩ := List.cons.inj split
    exact absurd (bound "y" (by simp)) (by decide)

end Tree
end Calculator
