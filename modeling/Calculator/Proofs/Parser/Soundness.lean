import Calculator.Proofs.Parser.Production

/-!
# What is read has a derivation

Every tree that a production reads stands for a derivation of the tokens it has
taken, and the nesting of the derivation is within the limit.
-/

namespace Calculator
namespace Parser

open Grammar Outcome

variable {α : Type} [Elementary α] {frame : Frame} {nesting : Nesting} {budget : Nat}

/-- A production reads nothing but derivations of a nonterminal. -/
def Sound
    (frame : Frame)
    (nonterminal : Nonterminal)
    (nesting : Nesting)
    (production : Production α) : Prop :=
  ∀ ⦃tokens rest : List Token⦄ ⦃tree : Tree α⦄,
    production tokens = .ok (tree, rest) →
      ∃ derivation : Derivation frame.variableName nonterminal,
        derivation.yield ++ rest = tokens ∧ derivation.tree = tree ∧
          nesting.depth + derivation.nesting ≤ nestingLimit

/-- All productions with a budget below a limit are sound. -/
def SoundBelow (α : Type) [Elementary α] (frame : Frame) (limit : Nat) : Prop :=
  ∀ budget < limit, ∀ (nonterminal : Nonterminal) (nesting : Nesting),
    nesting.depth ≤ nestingLimit →
      Sound frame nonterminal nesting (production (α := α) frame nonterminal budget nesting)

/-- A chain over operands with derivations reads links. -/
theorem exists_links
    {precedence : Precedence}
    (within : nesting.depth ≤ nestingLimit)
    {operand : Production α}
    (sound : Sound frame precedence.operand nesting operand)
    {rounds : Nat}
    {left tree : Tree α}
    {tokens rest : List Token}
    (read : chain operand precedence.symbols rounds left tokens = .ok (tree, rest)) :
    ∃ links : Links frame.variableName precedence,
      links.yield ++ rest = tokens ∧ links.extend left = tree ∧
        nesting.depth + links.nesting ≤ nestingLimit := by
  induction rounds generalizing left tokens with
  | zero =>
      cases read
      exact ⟨.done, rfl, rfl, within⟩
  | succ rounds roundsHypothesis =>
      cases tokens with
      | nil =>
          cases read
          exact ⟨.done, rfl, rfl, within⟩
      | cons token tokens =>
          rw [chain] at read
          split at read
          · rename_i isSign
            split at read
            · cases read
            · rename_i right after readOperand
              obtain ⟨derivation, yields, rfl, deep⟩ := sound readOperand
              obtain ⟨links, linksYield, extended, linksDeep⟩ := roundsHypothesis read
              refine ⟨.link ⟨token, isSign⟩ derivation links, ?_, extended, ?_⟩
              · simp only [Links.yield, List.cons_append, List.append_assoc]
                rw [linksYield, yields]
              · simp only [Links.nesting]
                omega
          · cases read
            exact ⟨.done, rfl, rfl, within⟩

/-- A group that is read holds a derivation and ends with a parenthesis. -/
theorem exists_body
    (sound : SoundBelow α frame budget)
    {opener : Token}
    {function : Option String}
    {tokens rest : List Token}
    {tree : Tree α}
    (read : Parser.group frame budget nesting opener function tokens = .ok (tree, rest)) :
    ∃ (body : Derivation frame.variableName (.level .additive)) (closer : TokenOf .closer),
      body.yield ++ closer.val :: rest = tokens ∧ body.tree = tree ∧
        nesting.depth + (body.nesting + 1) ≤ nestingLimit := by
  cases budget with
  | zero => cases read
  | succ budget =>
      obtain ⟨inner, descended, read⟩ := bind_eq_ok_iff.mp read
      obtain ⟨below, rfl⟩ := Nesting.descendGroup_eq_ok_iff.mp descended
      obtain ⟨⟨bodyTree, after⟩, readBody, closed⟩ := bind_eq_ok_iff.mp read
      obtain ⟨body, yields, rfl, deep⟩ :=
        sound budget budget.lt_succ_self (.level .additive)
          ⟨opener :: nesting.openers, nesting.depth + 1⟩ below readBody
      cases after with
      | nil => cases closed
      | cons closer after =>
          dsimp only at closed deep
          split at closed
          · rename_i isCloser
            cases closed
            exact ⟨body, ⟨closer, isCloser⟩, yields, rfl, by omega⟩
          · cases closed

/-- A word that is read is a constant, the variable or a function with its
argument. -/
theorem sound_named
    (within : nesting.depth ≤ nestingLimit)
    (sound : SoundBelow α frame budget)
    (word : TokenOf .identifier)
    {tokens rest : List Token}
    {tree : Tree α}
    (read : Parser.named frame budget nesting word.val tokens = .ok (tree, rest)) :
    ∃ derivation : Derivation frame.variableName .primary,
      derivation.yield ++ rest = word.val :: tokens ∧ derivation.tree = tree ∧
        nesting.depth + derivation.nesting ≤ nestingLimit := by
  cases budget with
  | zero => cases read
  | succ budget =>
      unfold Parser.named at read
      split at read
      · rename_i meaning found
        cases read
        exact ⟨.constant word meaning (Constant.ofName?_eq_some_iff.mp found), rfl, rfl, within⟩
      split at read
      · rename_i meaning found
        have named := Function.ofName?_eq_some_iff.mp found
        cases tokens with
        | nil => cases read
        | cons opener tokens =>
            dsimp only at read
            split at read
            · rename_i isOpener
              obtain ⟨⟨argumentTree, after⟩, readGroup, called⟩ := bind_eq_ok_iff.mp read
              obtain ⟨argument, closer, yields, rfl, deep⟩ :=
                exists_body (fun smaller less => sound smaller (by omega)) readGroup
              cases called
              refine ⟨.call word meaning named ⟨opener, isOpener⟩ argument closer, ?_, ?_, deep⟩
              · simp [Derivation.yield, ← yields]
              · simp [Derivation.tree, named]
            · cases read
      split at read
      · rename_i named
        cases read
        exact ⟨.symbol word named, rfl, by rw [Derivation.tree, named], within⟩
      · cases read

theorem sound_primary
    (within : nesting.depth ≤ nestingLimit)
    (sound : SoundBelow α frame budget) :
    Sound frame .primary nesting (primary (α := α) frame budget nesting) := by
  intro tokens rest tree read
  cases budget with
  | zero => cases read
  | succ budget =>
      have soundBelow : SoundBelow α frame budget :=
        fun smaller less => sound smaller (by omega)
      cases tokens with
      | nil => cases read
      | cons token tokens =>
          rw [primary] at read
          split at read
          · rename_i isNumber
            split at read
            · rename_i x readable
              cases read
              exact ⟨.number ⟨token, isNumber⟩, rfl,
                by simp [Derivation.tree, numeral, readable], within⟩
            · cases read
          · rename_i isWord
            exact sound_named within soundBelow ⟨token, isWord⟩ read
          · rename_i isOpener
            obtain ⟨body, closer, yields, rfl, deep⟩ := exists_body soundBelow read
            exact ⟨.group ⟨token, isOpener⟩ body closer, by simp [Derivation.yield, yields],
              rfl, deep⟩
          · cases read
          · cases read

theorem sound_power
    (within : nesting.depth ≤ nestingLimit)
    (sound : SoundBelow α frame budget) :
    Sound frame .power nesting (power (α := α) frame budget nesting) := by
  intro tokens rest tree read
  cases budget with
  | zero => cases read
  | succ budget =>
      obtain ⟨⟨baseTree, after⟩, readBase, read⟩ := bind_eq_ok_iff.mp read
      obtain ⟨base, rfl, rfl, deep⟩ :=
        sound budget budget.lt_succ_self .primary nesting within readBase
      cases after with
      | nil =>
          cases read
          exact ⟨.plain base, rfl, rfl, deep⟩
      | cons caret after =>
          dsimp only at read
          split at read
          · rename_i isCaret
            obtain ⟨inner, descended, read⟩ := bind_eq_ok_iff.mp read
            obtain ⟨below, rfl⟩ := Nesting.descend_eq_ok_iff.mp descended
            obtain ⟨⟨exponentTree, left⟩, readExponent, raised⟩ := bind_eq_ok_iff.mp read
            obtain ⟨exponent, rfl, rfl, exponentDeep⟩ :=
              sound budget budget.lt_succ_self .unary ⟨nesting.openers, nesting.depth + 1⟩
                below readExponent
            cases raised
            refine ⟨.raised base ⟨caret, isCaret⟩ exponent, by simp [Derivation.yield], rfl, ?_⟩
            dsimp only at exponentDeep
            simp only [Derivation.nesting]
            omega
          · cases read
            exact ⟨.plain base, rfl, rfl, deep⟩

theorem sound_unary
    (within : nesting.depth ≤ nestingLimit)
    (sound : SoundBelow α frame budget) :
    Sound frame .unary nesting (unary (α := α) frame budget nesting) := by
  intro tokens rest tree read
  cases budget with
  | zero => cases read
  | succ budget =>
      have unsigned (read : power frame budget nesting tokens = .ok (tree, rest)) :
          ∃ derivation : Derivation frame.variableName .unary,
            derivation.yield ++ rest = tokens ∧ derivation.tree = tree ∧
              nesting.depth + derivation.nesting ≤ nestingLimit := by
        obtain ⟨operand, yields, rfl, deep⟩ :=
          sound budget budget.lt_succ_self .power nesting within read
        exact ⟨.unsigned operand, yields, rfl, deep⟩
      cases tokens with
      | nil => exact unsigned read
      | cons sign tokens =>
          rw [unary] at read
          split at read
          · rename_i isSign
            obtain ⟨inner, descended, read⟩ := bind_eq_ok_iff.mp read
            obtain ⟨below, rfl⟩ := Nesting.descend_eq_ok_iff.mp descended
            obtain ⟨⟨operandTree, left⟩, readOperand, signed⟩ := bind_eq_ok_iff.mp read
            obtain ⟨operand, rfl, rfl, deep⟩ :=
              sound budget budget.lt_succ_self .unary ⟨nesting.openers, nesting.depth + 1⟩
                below readOperand
            cases signed
            refine ⟨.signed ⟨sign, isSign⟩ operand, rfl, rfl, ?_⟩
            dsimp only at deep
            simp only [Derivation.nesting]
            omega
          · exact unsigned read

theorem sound_level
    (precedence : Precedence)
    (within : nesting.depth ≤ nestingLimit)
    (sound : SoundBelow α frame budget) :
    Sound frame (.level precedence) nesting
      (production (α := α) frame (.level precedence) budget nesting) := by
  intro tokens rest tree read
  cases budget with
  | zero => cases precedence <;> cases read
  | succ budget =>
      have soundOperand : Sound (α := α) frame precedence.operand nesting
          (production frame precedence.operand budget nesting) :=
        sound budget budget.lt_succ_self precedence.operand nesting within
      rw [production_level] at read
      obtain ⟨⟨firstTree, after⟩, readFirst, chained⟩ := bind_eq_ok_iff.mp read
      obtain ⟨first, rfl, rfl, deep⟩ := soundOperand readFirst
      obtain ⟨links, rfl, rfl, linksDeep⟩ := exists_links within soundOperand chained
      refine ⟨.chain first links, by simp [Derivation.yield], rfl, ?_⟩
      simp only [Derivation.nesting]
      omega

/-- Whatever its budget, a production reads nothing but derivations. -/
theorem sound_production
    (frame : Frame)
    (nonterminal : Nonterminal)
    (budget : Nat)
    (nesting : Nesting)
    (within : nesting.depth ≤ nestingLimit) :
    Sound frame nonterminal nesting (production (α := α) frame nonterminal budget nesting) := by
  induction budget using Nat.strongRecOn generalizing nonterminal nesting with
  | ind budget smallerHypothesis =>
      have sound : SoundBelow α frame budget :=
        fun smaller less nonterminal nesting within =>
          smallerHypothesis smaller less nonterminal nesting within
      cases nonterminal with
      | level precedence => exact sound_level precedence within sound
      | unary => exact sound_unary within sound
      | power => exact sound_power within sound
      | primary => exact sound_primary within sound

end Parser
end Calculator
