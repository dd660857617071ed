import Calculator.Outcome
import Calculator.Proofs.Grammar.Lookahead

/-!
# Productions by nonterminal

The productions of the parser under the nonterminals of the grammar that they
read, and how many of them may be active above a level of nesting.
-/

namespace Calculator
namespace Parser

open Grammar

variable {α : Type} [Elementary α]

/-- The production that reads a nonterminal. -/
def production (frame : Frame) : Nonterminal → (budget : Nat) → Nesting → Production α
  | .level .additive => additive frame
  | .level .multiplicative => multiplicative frame
  | .unary => unary frame
  | .power => power frame
  | .primary => primary frame

/-- The number of productions that are active from a nonterminal on until a level
of nesting is opened. -/
def reach : Nonterminal → Nat
  | .level .additive => 7
  | .level .multiplicative => 6
  | .unary => 5
  | .power => 4
  | .primary => 3

/-- The number of productions that are active from a nonterminal on while nesting
is within its limit. -/
def demand (nonterminal : Nonterminal) (nesting : Nesting) : Nat :=
  reach nonterminal + 7 * (nestingLimit - nesting.depth)

theorem reach_level (precedence : Precedence) :
    reach (.level precedence) = reach precedence.operand + 1 := by
  cases precedence <;> rfl

theorem demand_level (precedence : Precedence) (nesting : Nesting) :
    demand (.level precedence) nesting = demand precedence.operand nesting + 1 := by
  rw [demand, demand, reach_level]
  omega

theorem reach_le_demand (nonterminal : Nonterminal) (nesting : Nesting) :
    reach nonterminal ≤ demand nonterminal nesting :=
  Nat.le_add_right _ _

/-- Whatever is read one level deeper demands less by the productions that were
active before. -/
theorem demand_deeper
    (outer inner : Nonterminal)
    {nesting : Nesting}
    (shallow : nesting.depth < nestingLimit)
    (openers : List Token) :
    demand inner ⟨openers, nesting.depth + 1⟩ + reach outer ≤ demand outer nesting := by
  have bounded : reach inner ≤ 7 := by
    cases inner with
    | level precedence => cases precedence <;> decide
    | unary => decide
    | power => decide
    | primary => decide
  simp only [demand]
  omega

/-- A level is read by its first operand and the links of a chain. -/
theorem production_level
    (frame : Frame)
    (precedence : Precedence)
    (budget : Nat)
    (nesting : Nesting)
    (tokens : List Token) :
    production (α := α) frame (.level precedence) (budget + 1) nesting tokens =
      (production frame precedence.operand budget nesting tokens >>= fun (left, rest) =>
        chain (production frame precedence.operand budget nesting) precedence.symbols
          frame.length left rest) := by
  cases precedence with
  | additive => rfl
  | multiplicative => rfl

/-- Nesting opens a level at a token while it is below its limit. -/
theorem Nesting.descend_eq_ok_iff
    {nesting inner : Nesting}
    {token : Token} :
    nesting.descend token = .ok inner ↔
      nesting.depth < nestingLimit ∧ inner = ⟨nesting.openers, nesting.depth + 1⟩ := by
  rw [descend]
  split
  · rename_i below
    simp [below, eq_comm]
  · rename_i atLimit
    simp [refuse, atLimit]

theorem Nesting.descendGroup_eq_ok_iff
    {nesting inner : Nesting}
    {opener : Token} :
    nesting.descendGroup opener = .ok inner ↔
      nesting.depth < nestingLimit ∧
        inner = ⟨opener :: nesting.openers, nesting.depth + 1⟩ := by
  rw [descendGroup, Outcome.map_eq_ok_iff]
  constructor
  · rintro ⟨middle, descended, rfl⟩
    obtain ⟨below, rfl⟩ := descend_eq_ok_iff.mp descended
    exact ⟨below, rfl⟩
  · rintro ⟨below, rfl⟩
    exact ⟨_, descend_eq_ok_iff.mpr ⟨below, rfl⟩, rfl⟩

/-- The tokens before the first one that ends the input are those that do not end it. -/
theorem takeWhile_append_finish
    {before : List Token}
    {finish : Token}
    (others : ∀ token ∈ before, token.kind ≠ .finish)
    (isEnd : finish.kind = .finish)
    (after : List Token) :
    (before ++ finish :: after).takeWhile (fun token => token.kind ≠ .finish) = before := by
  rw [List.takeWhile_append_of_pos (fun token present => decide_eq_true (others token present)),
    List.takeWhile_cons_of_neg (by simp [isEnd]), List.append_nil]

/-- A parse reads the tokens before the first one that ends the input. -/
theorem parse_append_finish
    {before after : List Token}
    {finish last : Token}
    (others : ∀ token ∈ before, token.kind ≠ .finish)
    (isEnd : finish.kind = .finish)
    (ends : (before ++ finish :: after).getLast? = some last)
    (isFinish : last.kind = .finish)
    (variableName : String) :
    parse (α := α) variableName (before ++ finish :: after) =
      complete ⟨variableName, finish, before.length⟩ activeLimit before := by
  simp only [parse, ends]
  rw [if_pos isFinish, takeWhile_append_finish others isEnd, List.drop_left]
  rfl

end Parser
end Calculator
