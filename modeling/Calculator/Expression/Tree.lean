/-!
# Expression trees

A tree names its operators and functions by their texts, so that one built by
hand may hold a name without a meaning or a leaf that is no expression at all.
-/

namespace Calculator

/-- An expression over scalars. -/
inductive Tree (α : Type)
  | literal (value : α)
  | symbol (name : String)
  | unary (operator : String) (operand : Tree α)
  | binary (operator : String) (left right : Tree α)
  | call (function : String) (argument : Tree α)
  | foreign (text : String)
  deriving Repr

namespace Tree

variable {α : Type}

/-- The number of nodes. -/
def size : Tree α → Nat
  | .literal _ => 1
  | .symbol _ => 1
  | .unary _ operand => operand.size + 1
  | .binary _ left right => left.size + right.size + 1
  | .call _ argument => argument.size + 1
  | .foreign _ => 1

/-- The operands of a tree, left to right. -/
def operands : Tree α → List (Tree α)
  | .literal _ => []
  | .symbol _ => []
  | .unary _ operand => [operand]
  | .binary _ left right => [left, right]
  | .call _ argument => [argument]
  | .foreign _ => []

/-- The number of nodes of several trees. -/
def sizes : List (Tree α) → Nat
  | [] => 0
  | tree :: rest => tree.size + sizes rest

/-- Pending trees have fewer nodes once the operands of one stand in its place. -/
theorem sizes_operands_lt (tree : Tree α) (pending : List (Tree α)) :
    sizes (tree.operands.reverse ++ pending) < sizes (tree :: pending) := by
  cases tree <;>
    (simp only [operands, sizes, size, List.reverse_nil, List.reverse_cons, List.nil_append,
      List.cons_append]
     omega)

/-- Add the name that a tree is to the names found so far. -/
def addName : Tree α → List String → List String
  | .symbol name, names => names.insert name
  | _, names => names

/-- Add the names of the variables of the pending trees to those found so far. The operands
of a tree come before all that is pending, the last one first. -/
def collect : (pending : List (Tree α)) → (names : List String) → List String
  | [], names => names
  | tree :: pending, names =>
      collect (tree.operands.reverse ++ pending) (tree.addName names)
termination_by pending => sizes pending
decreasing_by exact sizes_operands_lt tree pending

/-- The names of the variables, each once, in increasing order. -/
def variableNames (tree : Tree α) : List String :=
  (collect [tree] []).mergeSort

/-- The nodes of a tree, operands before their operator. -/
inductive Item (α : Type)
  | literal (value : α)
  | symbol (name : String)
  | unary (operator : String)
  | binary (operator : String)
  | call (function : String)
  | foreign (text : String)
  deriving Repr

/-- The nodes in postfix order, before `tail`. -/
def postfixBefore : Tree α → List (Item α) → List (Item α)
  | .literal value, tail => .literal value :: tail
  | .symbol name, tail => .symbol name :: tail
  | .unary operator operand, tail => operand.postfixBefore (.unary operator :: tail)
  | .binary operator left right, tail =>
      left.postfixBefore (right.postfixBefore (.binary operator :: tail))
  | .call function argument, tail => argument.postfixBefore (.call function :: tail)
  | .foreign text, tail => .foreign text :: tail

/-- The nodes in postfix order. -/
def toPostfix (tree : Tree α) : List (Item α) :=
  tree.postfixBefore []

/-- Put one node of a postfix list on top of the trees built so far. -/
def push : List (Tree α) → Item α → Option (List (Tree α))
  | built, .literal value => some (.literal value :: built)
  | built, .symbol name => some (.symbol name :: built)
  | built, .foreign text => some (.foreign text :: built)
  | operand :: built, .unary operator => some (.unary operator operand :: built)
  | right :: left :: built, .binary operator => some (.binary operator left right :: built)
  | argument :: built, .call function => some (.call function argument :: built)
  | _, _ => none

/-- The tree that a postfix list of nodes writes. -/
def ofPostfix? (items : List (Item α)) : Option (Tree α) :=
  match items.foldlM push [] with
  | some [tree] => some tree
  | _ => none

/-- The postfix nodes of a tree put that tree on top of what was built before. -/
theorem foldlM_push_postfixBefore (tree : Tree α) (tail : List (Item α))
    (built : List (Tree α)) :
    (tree.postfixBefore tail).foldlM push built = tail.foldlM push (tree :: built) := by
  induction tree generalizing tail built with
  | literal value => rfl
  | symbol name => rfl
  | unary operator operand operandHypothesis =>
      rw [postfixBefore, operandHypothesis]
      rfl
  | binary operator left right leftHypothesis rightHypothesis =>
      rw [postfixBefore, leftHypothesis, rightHypothesis]
      rfl
  | call function argument argumentHypothesis =>
      rw [postfixBefore, argumentHypothesis]
      rfl
  | foreign text => rfl

/-- A tree is read back from its postfix nodes. -/
@[simp] theorem ofPostfix?_toPostfix (tree : Tree α) :
    ofPostfix? tree.toPostfix = some tree := by
  rw [ofPostfix?, toPostfix, foldlM_push_postfixBefore]
  rfl

end Tree

end Calculator
