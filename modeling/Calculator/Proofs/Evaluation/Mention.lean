import Calculator.Expression.Tree

/-!
# The variables that a tree mentions

The names that are collected from a tree are those of its leaves, whatever the order in
which its operands are handled.
-/

namespace Calculator
namespace Tree

variable {α : Type} {name : String}

/-- A variable of the given name is a leaf of a tree. -/
def Mentions (name : String) : Tree α → Prop
  | .literal _ => False
  | .symbol other => name = other
  | .unary _ operand => operand.Mentions name
  | .binary _ left right => left.Mentions name ∨ right.Mentions name
  | .call _ argument => argument.Mentions name
  | .foreign _ => False

/-- The names at the leaves of a tree, left to right. -/
def symbols : Tree α → List String
  | .literal _ => []
  | .symbol name => [name]
  | .unary _ operand => operand.symbols
  | .binary _ left right => left.symbols ++ right.symbols
  | .call _ argument => argument.symbols
  | .foreign _ => []

theorem mem_symbols_iff {tree : Tree α} : name ∈ tree.symbols ↔ tree.Mentions name := by
  induction tree with
  | literal value => simp [symbols, Mentions]
  | symbol other => simp [symbols, Mentions]
  | unary operator operand operandHypothesis => exact operandHypothesis
  | binary operator left right leftHypothesis rightHypothesis =>
      rw [symbols, List.mem_append, leftHypothesis, rightHypothesis, Mentions]
  | call function argument argumentHypothesis => exact argumentHypothesis
  | foreign text => simp [symbols, Mentions]

/-- Handling a tree adds its name, and leaves the names in its operands for later. -/
theorem mem_addName_or_operands_iff
    {tree : Tree α}
    {names : List String} :
    (∃ operand ∈ tree.operands, operand.Mentions name) ∨ name ∈ tree.addName names ↔
      tree.Mentions name ∨ name ∈ names := by
  cases tree <;> simp [operands, addName, Mentions]

/-- What is collected was found before or is mentioned by a pending tree. -/
theorem mem_collect_iff
    {pending : List (Tree α)}
    {names : List String} :
    name ∈ collect pending names ↔
      (∃ tree ∈ pending, tree.Mentions name) ∨ name ∈ names := by
  induction pending, names using collect.induct with
  | case1 names => simp [collect]
  | case2 tree pending names laterHypothesis =>
      rw [collect, laterHypothesis]
      simp only [List.mem_append, List.mem_reverse, List.mem_cons, or_and_right, exists_or,
        exists_eq_left]
      rw [or_right_comm, mem_addName_or_operands_iff, or_right_comm]

/-- The collected names are those that a tree mentions. -/
theorem mem_variableNames_iff {tree : Tree α} :
    name ∈ tree.variableNames ↔ tree.Mentions name := by
  simp [variableNames, mem_collect_iff]

theorem nodup_addName
    {names : List String}
    (distinct : names.Nodup)
    (tree : Tree α) :
    (tree.addName names).Nodup := by
  cases tree with
  | symbol name =>
      rw [addName]
      by_cases present : name ∈ names
      · rwa [List.insert_of_mem present]
      · rw [List.insert_of_not_mem present]
        exact List.nodup_cons.mpr ⟨present, distinct⟩
  | _ => exact distinct

/-- No name is collected twice. -/
theorem nodup_collect
    {pending : List (Tree α)}
    {names : List String}
    (distinct : names.Nodup) :
    (collect pending names).Nodup := by
  induction pending, names using collect.induct with
  | case1 names => rwa [collect]
  | case2 tree pending names laterHypothesis =>
      rw [collect]
      exact laterHypothesis (nodup_addName distinct tree)

theorem nodup_variableNames (tree : Tree α) : tree.variableNames.Nodup :=
  (List.mergeSort_perm _ _).nodup_iff.mpr (nodup_collect List.nodup_nil)

instance (name : String) (tree : Tree α) : Decidable (tree.Mentions name) :=
  decidable_of_iff (name ∈ tree.variableNames) mem_variableNames_iff

end Tree
end Calculator
