import Calculator.Proofs.Parser.Soundness

/-!
# How far a production reads

A production reads on as long as it can: no token follows what it has read that
would extend it.
-/

namespace Calculator
namespace Parser

open Grammar Outcome

variable {α : Type} [Elementary α] {frame : Frame} {nesting : Nesting} {budget : Nat}

/-- What a production reads ends before a token that does not extend it. -/
def Greedy
    (frame : Frame)
    (nonterminal : Nonterminal)
    (production : Production α) : Prop :=
  ∀ ⦃tokens rest : List Token⦄ ⦃tree : Tree α⦄,
    tokens.length ≤ frame.length →
      production tokens = .ok (tree, rest) →
        Stops nonterminal.continuations rest

/-- All productions with a budget below a limit are greedy. -/
def GreedyBelow (α : Type) [Elementary α] (frame : Frame) (limit : Nat) : Prop :=
  ∀ budget < limit, ∀ (nonterminal : Nonterminal) (nesting : Nesting),
    nesting.depth ≤ nestingLimit →
      Greedy frame nonterminal (production (α := α) frame nonterminal budget nesting)

/-- What extends a level is one of its operators or extends its operands. -/
theorem stops_level
    {precedence : Precedence}
    {rest : List Token}
    (noOperator : Stops precedence.symbols rest)
    (stops : Stops precedence.operand.continuations rest) :
    Stops (Nonterminal.level precedence).continuations rest := by
  intro token first
  have outside := noOperator token first
  have behind := stops token first
  rw [Bool.eq_false_iff, ne_eq, isOperator_iff, not_and] at outside behind ⊢
  intro isOperator inside
  have outside := outside isOperator
  have behind := behind isOperator
  cases precedence <;>
    simp_all [Precedence.symbols, Precedence.operand, Nonterminal.continuations]

/-- A production that reads takes at least one token. -/
theorem Sound.length_lt
    {nonterminal : Nonterminal}
    {production : Production α}
    (sound : Sound frame nonterminal nesting production)
    {tokens rest : List Token}
    {tree : Tree α}
    (read : production tokens = .ok (tree, rest)) :
    rest.length < tokens.length := by
  obtain ⟨derivation, rfl, -, -⟩ := sound read
  have filled := List.length_pos_iff.mpr derivation.yield_ne_nil
  rw [List.length_append]
  omega

/-- A chain over greedy operands ends before a token that does not extend it. -/
theorem stops_of_chain
    {precedence : Precedence}
    {operand : Production α}
    (sound : Sound frame precedence.operand nesting operand)
    (greedy : Greedy frame precedence.operand operand)
    {rounds : Nat}
    {left tree : Tree α}
    {tokens rest : List Token}
    (within : tokens.length ≤ frame.length)
    (bounded : tokens.length ≤ rounds)
    (stops : Stops precedence.operand.continuations tokens)
    (read : chain operand precedence.symbols rounds left tokens = .ok (tree, rest)) :
    Stops (Nonterminal.level precedence).continuations rest := by
  induction rounds generalizing left tokens with
  | zero =>
      cases read
      rw [List.eq_nil_of_length_eq_zero (Nat.le_zero.mp bounded)]
      exact stops_nil _
  | succ rounds roundsHypothesis =>
      cases tokens with
      | nil =>
          cases read
          exact stops_nil _
      | cons token tokens =>
          rw [List.length_cons] at within bounded
          rw [chain] at read
          split at read
          · split at read
            · cases read
            · rename_i right after readOperand
              have shorter := sound.length_lt readOperand
              exact roundsHypothesis (by omega) (by omega) (greedy (by omega) readOperand) read
          · rename_i other
            cases read
            exact stops_level ((stops_cons _ _ _).mpr (Bool.eq_false_iff.mpr other)) stops

theorem greedy_level
    (precedence : Precedence)
    (within : nesting.depth ≤ nestingLimit)
    (greedy : GreedyBelow α frame budget) :
    Greedy frame (.level precedence)
      (production (α := α) frame (.level precedence) budget nesting) := by
  intro tokens rest tree long read
  cases budget with
  | zero => cases precedence <;> cases read
  | succ budget =>
      have sound : Sound (α := α) frame precedence.operand nesting
          (production frame precedence.operand budget nesting) :=
        sound_production frame precedence.operand budget nesting within
      have greedyOperand : Greedy (α := α) frame precedence.operand
          (production frame precedence.operand budget nesting) :=
        greedy budget budget.lt_succ_self precedence.operand nesting within
      rw [production_level] at read
      obtain ⟨⟨firstTree, after⟩, readFirst, chained⟩ := bind_eq_ok_iff.mp read
      have shorter := sound.length_lt readFirst
      exact stops_of_chain sound greedyOperand (by omega) (by omega)
        (greedyOperand long readFirst) chained

theorem greedy_unary
    (within : nesting.depth ≤ nestingLimit)
    (greedy : GreedyBelow α frame budget) :
    Greedy frame .unary (unary (α := α) frame budget nesting) := by
  intro tokens rest tree long read
  cases budget with
  | zero => cases read
  | succ budget =>
      have unsigned (read : power frame budget nesting tokens = .ok (tree, rest)) :
          Stops Nonterminal.unary.continuations rest :=
        greedy budget budget.lt_succ_self .power nesting within long read
      cases tokens with
      | nil => exact unsigned read
      | cons sign tokens =>
          rw [unary] at read
          split at read
          · obtain ⟨inner, descended, read⟩ := bind_eq_ok_iff.mp read
            obtain ⟨below, rfl⟩ := Nesting.descend_eq_ok_iff.mp descended
            obtain ⟨⟨operandTree, left⟩, readOperand, signed⟩ := bind_eq_ok_iff.mp read
            cases signed
            rw [List.length_cons] at long
            exact greedy budget budget.lt_succ_self .unary ⟨nesting.openers, nesting.depth + 1⟩
              below (by omega) readOperand
          · exact unsigned read

theorem greedy_power
    (within : nesting.depth ≤ nestingLimit)
    (greedy : GreedyBelow α frame budget) :
    Greedy frame .power (power (α := α) frame budget nesting) := by
  intro tokens rest tree long read
  cases budget with
  | zero => cases read
  | succ budget =>
      obtain ⟨⟨baseTree, after⟩, readBase, read⟩ := bind_eq_ok_iff.mp read
      have shorter :=
        (sound_production frame .primary budget nesting within).length_lt readBase
      cases after with
      | nil =>
          cases read
          exact stops_nil _
      | cons caret after =>
          rw [List.length_cons] at shorter
          dsimp only at read
          split at read
          · obtain ⟨inner, descended, read⟩ := bind_eq_ok_iff.mp read
            obtain ⟨below, rfl⟩ := Nesting.descend_eq_ok_iff.mp descended
            obtain ⟨⟨exponentTree, left⟩, readExponent, raised⟩ := bind_eq_ok_iff.mp read
            cases raised
            exact greedy budget budget.lt_succ_self .unary ⟨nesting.openers, nesting.depth + 1⟩
              below (by omega) readExponent
          · rename_i other
            cases read
            exact (stops_cons _ _ _).mpr (Bool.eq_false_iff.mpr other)

/-- Whatever its budget, a production reads as far as it can. -/
theorem greedy_production
    (frame : Frame)
    (nonterminal : Nonterminal)
    (budget : Nat)
    (nesting : Nesting)
    (within : nesting.depth ≤ nestingLimit) :
    Greedy frame nonterminal (production (α := α) frame nonterminal budget nesting) := by
  induction budget using Nat.strongRecOn generalizing nonterminal nesting with
  | ind budget smallerHypothesis =>
      have greedy : GreedyBelow α frame budget :=
        fun smaller less nonterminal nesting within =>
          smallerHypothesis smaller less nonterminal nesting within
      cases nonterminal with
      | level precedence => exact greedy_level precedence within greedy
      | unary => exact greedy_unary within greedy
      | power => exact greedy_power within greedy
      | primary => exact fun tokens rest tree long read => stops_primary rest

end Parser
end Calculator
