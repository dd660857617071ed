import Calculator.Proofs.Parser.Call

/-!
# What a budget decides

A larger budget, and more rounds for the loops, change no result but that of an exhausted
budget.
-/

namespace Calculator
namespace Parser

open Grammar Outcome

variable {α : Type} [Elementary α] {frame : Frame}

/-- A result under a smaller budget is the result under a larger one, unless the smaller
budget was exhausted. -/
def Decides {β : Type} (small large : Except ParseFailure β) : Prop :=
  small = .error .exhausted ∨ large = small

section Decides

variable {β γ : Type}

theorem Decides.refl (result : Except ParseFailure β) : Decides result result :=
  .inr rfl

/-- What comes behind a result is decided when it is for each value. -/
theorem Decides.bind
    {small large : Except ParseFailure β}
    (decides : Decides small large)
    {next next' : β → Except ParseFailure γ}
    (each : ∀ x, small = .ok x → Decides (next x) (next' x)) :
    Decides (small >>= next) (large >>= next') := by
  rcases decides with exhausted | same
  · left
    rw [exhausted, error_bind]
  · subst same
    cases outcome : large with
    | error failure => exact .refl _
    | ok x => exact each x outcome

theorem Decides.map
    {small large : Except ParseFailure β}
    (decides : Decides small large)
    (f : β → γ) :
    Decides (small.map f) (large.map f) := by
  rcases decides with exhausted | rfl
  · left
    rw [exhausted]
    rfl
  · exact .refl _

theorem Decides.eq_of_ne
    {small large : Except ParseFailure β}
    (decides : Decides small large)
    (enough : small ≠ .error .exhausted) :
    large = small :=
  decides.resolve_left enough

end Decides

/-- The same frame with another number of rounds for the loops. -/
def Frame.withRounds (frame : Frame) (rounds : Nat) : Frame :=
  { frame with length := rounds }

/-- Two budgets and numbers of rounds decide the calls that a call makes. -/
def DecidesCalls
    (α : Type)
    [Elementary α]
    (frame : Frame)
    (rounds small large : Nat)
    (call : Call) : Prop :=
  ∀ ⦃callee : Call⦄, Invokes α frame call callee →
    Decides (callee.run (α := α) frame small) (callee.run (frame.withRounds rounds) large)

variable {rounds small large : Nat}

/-- A loop that has as many rounds as tokens comes to the same with more rounds. -/
theorem decides_chain
    {precedence : Precedence}
    {nesting : Nesting}
    {tokens : List Token}
    (shallow : nesting.depth ≤ nestingLimit)
    (calls : DecidesCalls α frame rounds small large (.reading (.level precedence) nesting tokens))
    {fewer more : Nat}
    (ordered : fewer ≤ more)
    {rest : List Token}
    (met : Meets α frame precedence nesting tokens rest)
    (bounded : rest.length ≤ fewer)
    (left : Tree α) :
    Decides
      (chain (production frame precedence.operand small nesting) precedence.symbols fewer left
        rest)
      (chain (production (frame.withRounds rounds) precedence.operand large nesting)
        precedence.symbols more left rest) := by
  induction fewer generalizing more rest left with
  | zero =>
      rw [List.eq_nil_of_length_eq_zero (Nat.le_zero.mp bounded)]
      cases more <;> exact .refl _
  | succ fewer fewerHypothesis =>
      obtain ⟨more, rfl⟩ : ∃ smaller, more = smaller + 1 := ⟨more - 1, by omega⟩
      cases rest with
      | nil => exact .refl _
      | cons sign between =>
          rw [chain, chain]
          split
          · rename_i isSign
            have operand := calls (.next met isSign)
            simp only [Call.run] at operand
            rcases operand with exhausted | same
            · left
              rw [exhausted]
            · rw [same]
              cases read : production (α := α) frame precedence.operand small nesting between with
              | error failure => exact .refl _
              | ok result =>
                  obtain ⟨right, after⟩ := result
                  have reads : Reads α frame precedence.operand nesting between after :=
                    ⟨small, right, read⟩
                  have shorter := reads.length_lt shallow
                  rw [List.length_cons] at bounded
                  exact fewerHypothesis (by omega) (.next met isSign reads) (by omega) _
          · exact .refl _

/-- One more production comes to the same when the calls that it makes do. -/
theorem decides_run_succ
    (longer : frame.length ≤ rounds)
    {call : Call}
    (fits : call.Fits frame)
    (calls : DecidesCalls α frame rounds small large call) :
    Decides (call.run (α := α) frame (small + 1))
      (call.run (frame.withRounds rounds) (large + 1)) := by
  obtain ⟨shallow, short⟩ := fits
  cases call with
  | whole tokens =>
      apply Decides.map
      rw [complete, complete]
      split
      · exact .refl _
      · rename_i filled
        have whole := calls (.whole (by simpa using filled))
        exact whole.bind fun _ _ => .refl _
  | reading nonterminal nesting tokens =>
      cases nonterminal with
      | level precedence =>
          simp only [Call.run, production_level]
          apply (calls .first).bind
          rintro ⟨left, rest⟩ read
          have reads : Reads α frame precedence.operand nesting tokens rest := ⟨small, left, read⟩
          have shorter := reads.length_lt shallow
          simp only [Call.tokens] at short
          exact decides_chain shallow calls longer (.first reads) (by omega) left
      | unary =>
          cases tokens with
          | nil => exact calls (.unsigned (stops_nil _))
          | cons sign rest =>
              simp only [Call.run, production, unary]
              split
              · rename_i isSign
                apply (Decides.refl (nesting.descend sign)).bind
                intro inner descended
                exact (calls (.signed isSign descended)).bind fun _ _ => .refl _
              · rename_i other
                exact calls (.unsigned ((stops_cons _ _ _).mpr (Bool.eq_false_iff.mpr other)))
      | power =>
          simp only [Call.run, production, power]
          apply (calls .base).bind
          rintro ⟨base, rest⟩ read
          cases rest with
          | nil => exact .refl _
          | cons caret after =>
              dsimp only
              split
              · rename_i isCaret
                apply (Decides.refl (nesting.descend caret)).bind
                intro inner descended
                have exponent := calls (.exponent ⟨small, base, read⟩ isCaret descended)
                exact exponent.bind fun _ _ => .refl _
              · exact .refl _
      | primary =>
          cases tokens with
          | nil => exact .refl _
          | cons token rest =>
              simp only [Call.run, production, primary]
              split
              · exact .refl _
              · rename_i isWord
                exact calls (.naming isWord)
              · rename_i isOpener
                exact calls (.grouping isOpener)
              · exact .refl _
              · exact .refl _
  | naming nesting word tokens =>
      simp only [Call.run, named]
      split
      · exact .refl _
      rename_i noConstant
      split
      · rename_i meaning isNamed
        split
        · rename_i opener rest
          split
          · rename_i isOpener
            exact (calls (.argument noConstant isNamed isOpener)).bind
              fun _ _ => .refl _
          · exact .refl _
        · exact .refl _
      · exact .refl _
  | grouping nesting opener function tokens =>
      simp only [Call.run, Parser.group]
      apply (Decides.refl (nesting.descendGroup opener)).bind
      intro inner descended
      exact (calls (.body descended)).bind fun _ _ => .refl _

/-- A larger budget and more rounds decide whatever is not exhausted. -/
theorem decides_run
    (longer : frame.length ≤ rounds)
    (enough : small ≤ large)
    {call : Call}
    (fits : call.Fits frame) :
    Decides (call.run (α := α) frame small) (call.run (frame.withRounds rounds) large) := by
  induction small generalizing large call with
  | zero => exact .inl (call.run_zero frame)
  | succ small smallHypothesis =>
      obtain ⟨large, rfl⟩ : ∃ smaller, large = smaller + 1 := ⟨large - 1, by omega⟩
      apply decides_run_succ longer fits
      intro callee invokes
      exact smallHypothesis (by omega) (invokes.fits fits)

/-- What is read with some budget is read with every budget that is not exhausted. -/
theorem Reads.read_or_exhausted
    {nonterminal : Nonterminal}
    {nesting : Nesting}
    {tokens rest : List Token}
    (reads : Reads α frame nonterminal nesting tokens rest)
    (fits : (Call.reading nonterminal nesting tokens).Fits frame)
    (budget : Nat) :
    production (α := α) frame nonterminal budget nesting tokens = .error .exhausted ∨
      ∃ tree : Tree α, production frame nonterminal budget nesting tokens = .ok (tree, rest) := by
  obtain ⟨enough, tree, read⟩ := reads
  rcases Nat.le_total budget enough with ordered | ordered
  · have decides := decides_run (α := α) (Nat.le_refl _) ordered fits
    simp only [Call.run, Frame.withRounds] at decides
    rcases decides with exhausted | same
    · exact .inl exhausted
    · exact .inr ⟨tree, same ▸ read⟩
  · have decides := decides_run (α := α) (Nat.le_refl _) ordered fits
    simp only [Call.run, Frame.withRounds] at decides
    have same := decides.eq_of_ne (by rw [read]; exact nofun)
    exact .inr ⟨tree, by rw [same, read]⟩

end Parser
end Calculator
