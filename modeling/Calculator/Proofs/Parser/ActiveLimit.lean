import Calculator.Arithmetic.Double
import Calculator.Proofs.Parser.Budget
import Calculator.Proofs.Parser.Refusal

/-!
# How many productions are active

A budget is exhausted just when a chain of calls is longer than it, and chains are no longer
than what their first call demands. So the budget of a whole parse is never exhausted,
however many tokens there are, and any larger one comes to the same.
-/

namespace Calculator
namespace Parser

open Grammar Outcome

variable {α : Type} [Elementary α] {frame : Frame} {call callee : Call} {budget : Nat}

/-- A loop is out of budget in one of the calls that its level makes. -/
theorem exists_exhausted_of_chain
    {precedence : Precedence}
    {nesting : Nesting}
    {tokens : List Token}
    {rounds : Nat}
    {rest : List Token}
    (met : Meets α frame precedence nesting tokens rest)
    {left : Tree α}
    (exhausted : chain (production frame precedence.operand budget nesting) precedence.symbols
      rounds left rest = .error .exhausted) :
    ∃ callee, Invokes α frame (.reading (.level precedence) nesting tokens) callee ∧
      callee.run (α := α) frame budget = .error .exhausted := by
  induction rounds generalizing rest left with
  | zero => cases exhausted
  | succ rounds roundsHypothesis =>
      cases rest with
      | nil => cases exhausted
      | cons sign between =>
          rw [chain] at exhausted
          split at exhausted
          · rename_i isSign
            split at exhausted
            · rename_i failure failed
              cases exhausted
              exact ⟨_, .next met isSign, failed⟩
            · rename_i right after read
              exact roundsHypothesis (.next met isSign ⟨budget, right, read⟩) exhausted
          · cases exhausted

/-- A production is out of budget in one of the calls that it makes. -/
theorem exists_exhausted
    (exhausted : call.run (α := α) frame (budget + 1) = .error .exhausted) :
    ∃ callee, Invokes α frame call callee ∧
      callee.run (α := α) frame budget = .error .exhausted := by
  cases call with
  | whole tokens =>
      simp only [Call.run, complete, map_eq_error_iff] at exhausted
      split at exhausted
      · cases exhausted
      rename_i filled
      rcases bind_eq_error_iff.mp exhausted with inside | ⟨⟨tree, rest⟩, -, ended⟩
      · exact ⟨_, .whole (by simpa using filled), inside⟩
      · cases rest <;> cases ended
  | reading nonterminal nesting tokens =>
      cases nonterminal with
      | level precedence =>
          simp only [Call.run, production_level] at exhausted
          rcases bind_eq_error_iff.mp exhausted with first | ⟨⟨left, rest⟩, read, chained⟩
          · exact ⟨_, .first, first⟩
          · exact exists_exhausted_of_chain (.first ⟨budget, left, read⟩) chained
      | unary =>
          cases tokens with
          | nil => exact ⟨_, .unsigned (stops_nil _), exhausted⟩
          | cons sign rest =>
              simp only [Call.run, production, unary] at exhausted
              split at exhausted
              · rename_i isSign
                rcases bind_eq_error_iff.mp exhausted with refused | ⟨inner, descended, behind⟩
                · cases (Nesting.descend_eq_error_iff.mp refused).2
                rcases bind_eq_error_iff.mp behind with inside | ⟨read, -, returned⟩
                · exact ⟨_, .signed isSign descended, inside⟩
                · cases returned
              · rename_i other
                exact ⟨_, .unsigned ((stops_cons _ _ _).mpr (Bool.eq_false_iff.mpr other)),
                  exhausted⟩
      | power =>
          simp only [Call.run, production, power] at exhausted
          rcases bind_eq_error_iff.mp exhausted with first | ⟨⟨base, rest⟩, read, behind⟩
          · exact ⟨_, .base, first⟩
          cases rest with
          | nil => cases behind
          | cons caret after =>
              dsimp only at behind
              split at behind
              · rename_i isCaret
                rcases bind_eq_error_iff.mp behind with refused | ⟨inner, descended, behind⟩
                · cases (Nesting.descend_eq_error_iff.mp refused).2
                rcases bind_eq_error_iff.mp behind with inside | ⟨exponent, -, returned⟩
                · exact ⟨_, .exponent ⟨budget, base, read⟩ isCaret descended, inside⟩
                · cases returned
              · cases behind
      | primary =>
          cases tokens with
          | nil => cases exhausted
          | cons token rest =>
              simp only [Call.run, production, primary] at exhausted
              split at exhausted
              · split at exhausted <;> cases exhausted
              · rename_i isWord
                exact ⟨_, .naming isWord, exhausted⟩
              · rename_i isOpener
                exact ⟨_, .grouping isOpener, exhausted⟩
              · cases exhausted
              · cases exhausted
  | naming nesting word tokens =>
      simp only [Call.run, named] at exhausted
      split at exhausted
      · cases exhausted
      rename_i noConstant
      split at exhausted
      · rename_i meaning isNamed
        split at exhausted
        · rename_i opener rest
          split at exhausted
          · rename_i isOpener
            rcases bind_eq_error_iff.mp exhausted with inside | ⟨argument, -, returned⟩
            · exact ⟨_, .argument noConstant isNamed isOpener, inside⟩
            · cases returned
          · cases exhausted
        · cases exhausted
      · split at exhausted <;> cases exhausted
  | grouping nesting opener function tokens =>
      simp only [Call.run, Parser.group] at exhausted
      rcases bind_eq_error_iff.mp exhausted with refused | ⟨inner, descended, behind⟩
      · cases (Nesting.descendGroup_eq_error_iff.mp refused).2
      rcases bind_eq_error_iff.mp behind with inside | ⟨⟨body, rest⟩, -, closed⟩
      · exact ⟨_, .body descended, inside⟩
      · cases rest with
        | nil => cases closed
        | cons closer after =>
            dsimp only at closed
            split at closed <;> cases closed

/-- A level goes on with its loop on the tokens that the loop meets. -/
theorem exhausted_or_chain_of_meets
    {precedence : Precedence}
    {nesting : Nesting}
    {tokens rest : List Token}
    (fits : (Call.reading (.level precedence) nesting tokens).Fits frame)
    (met : Meets α frame precedence nesting tokens rest)
    (budget : Nat) :
    production (α := α) frame (.level precedence) (budget + 1) nesting tokens =
        .error .exhausted ∨
      ∃ (rounds : Nat) (left : Tree α), rest.length ≤ rounds ∧
        production frame (.level precedence) (budget + 1) nesting tokens =
          chain (production frame precedence.operand budget nesting) precedence.symbols rounds
            left rest := by
  induction met with
  | @first rest reads =>
      rw [production_level]
      have shorter := reads.length_lt fits.shallow
      have short := fits.short
      simp only [Call.tokens] at short
      rcases reads.read_or_exhausted ((Invokes.first (α := α)).fits fits) budget with
        exhausted | ⟨left, read⟩
      · left
        rw [exhausted, error_bind]
      · right
        refine ⟨frame.length, left, by omega, ?_⟩
        rw [read, ok_bind]
  | @next sign between rest met isSign reads metHypothesis =>
      have shorter := reads.length_lt fits.shallow
      rcases metHypothesis with exhausted | ⟨rounds, left, bounded, same⟩
      · exact .inl exhausted
      · rw [List.length_cons] at bounded
        obtain ⟨fewer, rfl⟩ : ∃ fewer, rounds = fewer + 1 := ⟨rounds - 1, by omega⟩
        rw [same, chain, if_pos isSign]
        rcases reads.read_or_exhausted ((Invokes.next met isSign).fits fits) budget with
          exhausted | ⟨right, read⟩
        · left
          rw [exhausted]
        · right
          refine ⟨fewer, .binary sign.text left right, by omega, ?_⟩
          rw [read]

/-- A production is out of budget when one of the calls that it makes is. -/
theorem exhausted_of_invokes
    (fits : call.Fits frame)
    (invokes : Invokes α frame call callee)
    (exhausted : callee.run (α := α) frame budget = .error .exhausted) :
    call.run (α := α) frame (budget + 1) = .error .exhausted := by
  cases invokes with
  | whole filled =>
      have inside : additive (α := α) frame budget ⟨[], 0⟩ _ = .error .exhausted := exhausted
      simp only [Call.run, complete, List.isEmpty_iff, filled, if_false, inside, error_bind]
      rfl
  | first =>
      simp only [Call.run] at exhausted
      simp only [Call.run, production_level, exhausted, error_bind]
  | next met isSign =>
      simp only [Call.run] at exhausted
      rcases exhausted_or_chain_of_meets fits met budget with early | ⟨rounds, left, bounded, same⟩
      · exact early
      · rw [List.length_cons] at bounded
        obtain ⟨fewer, rfl⟩ : ∃ fewer, rounds = fewer + 1 := ⟨rounds - 1, by omega⟩
        rw [Call.run, same, chain, if_pos isSign, exhausted]
  | signed isSign descended =>
      have inside : unary (α := α) frame budget _ _ = .error .exhausted := exhausted
      simp only [Call.run, production, unary, isSign, if_true, descended, ok_bind, inside,
        error_bind]
  | @unsigned nesting tokens noSign =>
      cases tokens with
      | nil => exact exhausted
      | cons token rest =>
          have other := (stops_cons _ _ _).mp noSign
          simp only [Call.run, production, unary, other, Bool.false_eq_true, if_false]
          exact exhausted
  | base =>
      have inside : primary (α := α) frame budget _ _ = .error .exhausted := exhausted
      simp only [Call.run, production, power, inside, error_bind]
  | exponent reads isCaret descended =>
      have inside : unary (α := α) frame budget _ _ = .error .exhausted := exhausted
      rcases reads.read_or_exhausted ((Invokes.base (α := α)).fits fits) budget with
        early | ⟨base, read⟩
      · simp only [production] at early
        simp only [Call.run, production, power, early, error_bind]
      · simp only [production] at read
        simp only [Call.run, production, power, read, ok_bind, isCaret, if_true, descended,
          inside, error_bind]
  | naming isWord =>
      simp only [Call.run, production, primary, isWord]
      exact exhausted
  | grouping isOpener =>
      simp only [Call.run, production, primary, isOpener]
      exact exhausted
  | argument noConstant isNamed isOpener =>
      have inside : Parser.group (α := α) frame budget _ _ _ _ = .error .exhausted := exhausted
      simp only [Call.run, named, noConstant, isNamed, isOpener, if_true, inside, error_bind]
  | body descended =>
      have inside : additive (α := α) frame budget _ _ = .error .exhausted := exhausted
      simp only [Call.run, Parser.group, descended, ok_bind, inside, error_bind]

/-- A budget is exhausted just when more calls than it allows come to be active at one
time. -/
theorem exhausted_iff_exists_chain
    (fits : call.Fits frame) :
    call.run (α := α) frame budget = .error .exhausted ↔
      ∃ calls, List.IsChain (Invokes α frame) (call :: calls) ∧
        budget < (call :: calls).length := by
  induction budget generalizing call with
  | zero =>
      apply iff_of_true (call.run_zero frame)
      exact ⟨[], .singleton call, Nat.one_pos⟩
  | succ budget budgetHypothesis =>
      constructor
      · intro exhausted
        obtain ⟨callee, invokes, inside⟩ := exists_exhausted exhausted
        obtain ⟨calls, active, long⟩ := (budgetHypothesis (invokes.fits fits)).mp inside
        exact ⟨callee :: calls, active.cons_cons invokes, Nat.succ_lt_succ long⟩
      · rintro ⟨calls, active, long⟩
        cases calls with
        | nil => exact absurd long (by simp)
        | cons callee calls =>
            rw [List.isChain_cons_cons] at active
            obtain ⟨invokes, active⟩ := active
            apply exhausted_of_invokes fits invokes
            exact (budgetHypothesis (invokes.fits fits)).mpr
              ⟨calls, active, Nat.lt_of_succ_lt_succ long⟩

/-- A budget that covers what a call demands is not exhausted. -/
theorem run_ne_exhausted
    (fits : call.Fits frame)
    (enough : call.demand ≤ budget) :
    call.run (α := α) frame budget ≠ .error .exhausted := by
  intro exhausted
  obtain ⟨calls, active, long⟩ := (exhausted_iff_exists_chain fits).mp exhausted
  obtain ⟨bounded, -⟩ := length_le_demand_of_isChain active fits
  omega

/-! ## A whole parse -/

/-- The budget of a whole parse is not exhausted. -/
theorem complete_ne_exhausted
    (variableName : String)
    (finish : Token)
    (before : List Token) :
    complete (α := α) ⟨variableName, finish, before.length⟩ activeLimit before ≠
      .error .exhausted := by
  intro exhausted
  have fits : (Call.whole before).Fits ⟨variableName, finish, before.length⟩ :=
    ⟨Nat.zero_le _, Nat.le_refl _⟩
  exact run_ne_exhausted (α := α) fits (Nat.le_refl _) (map_eq_error_iff.mpr exhausted)

/-- Tokens that end with the end of input have a first token of that kind. -/
theorem exists_finish
    {tokens : List Token}
    {last : Token}
    (ends : tokens.getLast? = some last)
    (isFinish : last.kind = .finish) :
    ∃ (before : List Token) (finish : Token) (after : List Token),
      tokens = before ++ finish :: after ∧ finish.kind = .finish ∧
        ∀ token ∈ before, token.kind ≠ .finish := by
  induction tokens with
  | nil => cases ends
  | cons token rest restHypothesis =>
      by_cases ended : token.kind = .finish
      · exact ⟨[], token, rest, rfl, ended, by simp⟩
      · have restEnds : rest.getLast? = some last := by
          cases rest with
          | nil =>
              cases ends
              exact absurd isFinish ended
          | cons next rest => rwa [List.getLast?_cons_cons] at ends
        obtain ⟨before, finish, after, split, isEnd, others⟩ := restHypothesis restEnds
        refine ⟨token :: before, finish, after, by rw [split, List.cons_append], isEnd, ?_⟩
        exact List.forall_mem_cons.mpr ⟨ended, others⟩

/-- A list of tokens that ends with the end of input is read within the limit on active
productions, whatever its length. No chain of calls is longer than the limit or goes deeper
than the limit on nesting. The budget of the limit is not exhausted, and every larger budget
and every larger number of rounds for the loops come to the same. A budget is exhausted just
when a chain of calls is longer than it. -/
theorem parse_within_active_limit
    (variableName : String)
    {tokens : List Token}
    {last : Token}
    (ends : tokens.getLast? = some last)
    (isFinish : last.kind = .finish) :
    ∃ (frame : Frame) (before after : List Token),
      frame.variableName = variableName ∧ frame.length = before.length ∧
        tokens = before ++ frame.finish :: after ∧ frame.finish.kind = .finish ∧
        (∀ token ∈ before, token.kind ≠ .finish) ∧
        parse (α := α) variableName tokens ≠ .error .exhausted ∧
        (∀ rounds budget, before.length ≤ rounds → activeLimit ≤ budget →
          complete (frame.withRounds rounds) budget before =
            parse (α := α) variableName tokens) ∧
        (∀ budget, complete (α := α) frame budget before = .error .exhausted ↔
          ∃ calls, List.IsChain (Invokes α frame) (.whole before :: calls) ∧
            budget < calls.length + 1) ∧
        ∀ calls, List.IsChain (Invokes α frame) (.whole before :: calls) →
          calls.length + 1 ≤ activeLimit ∧ ∀ call ∈ calls, call.depth ≤ nestingLimit := by
  obtain ⟨before, finish, after, rfl, isEnd, others⟩ := exists_finish ends isFinish
  let frame : Frame := ⟨variableName, finish, before.length⟩
  have fits : (Call.whole before).Fits frame := ⟨Nat.zero_le _, Nat.le_refl _⟩
  have answered : (Call.whole before).run (α := α) frame activeLimit ≠ .error .exhausted :=
    run_ne_exhausted fits (Nat.le_refl _)
  have parsed : parse (α := α) variableName (before ++ finish :: after) =
      complete frame activeLimit before :=
    parse_append_finish others isEnd ends isFinish variableName
  refine ⟨frame, before, after, rfl, rfl, rfl, isEnd, others, ?_, ?_, ?_, ?_⟩
  · rw [parsed]
    intro exhausted
    exact answered (map_eq_error_iff.mpr exhausted)
  · intro rounds budget longer enough
    rw [parsed]
    have same := (decides_run (α := α) longer enough fits).eq_of_ne answered
    exact map_injective (fun _ _ equal => (Prod.mk.inj equal).1) same
  · intro budget
    rw [← map_eq_error_iff]
    exact exhausted_iff_exists_chain fits
  · intro calls active
    obtain ⟨bounded, within⟩ := length_le_demand_of_isChain active fits
    exact ⟨bounded, fun call present => (within call (List.mem_cons_of_mem _ present)).shallow⟩

/-- What stands behind the first end of the input is not read, under any larger budget. -/
theorem parse_within_active_limit_of_early_end :
    let tokens : List Token := [⟨.operator, "-", 0⟩, ⟨.identifier, "x", 1⟩, .finish 2,
      ⟨.closer, ")", 3⟩, .finish 4]
    tokens.getLast? = some (.finish 4) ∧
      ∃ frame : Frame, frame.variableName = "x" ∧ frame.length = 2 ∧
        (∀ budget, activeLimit ≤ budget →
          complete (α := Float) (frame.withRounds 2) budget
            [⟨.operator, "-", 0⟩, ⟨.identifier, "x", 1⟩] = .ok (.unary "-" (.symbol "x"))) ∧
        ∀ calls, List.IsChain (Invokes Float frame)
            (.whole [⟨.operator, "-", 0⟩, ⟨.identifier, "x", 1⟩] :: calls) →
          calls.length + 1 ≤ activeLimit ∧ ∀ call ∈ calls, call.depth ≤ nestingLimit := by
  intro tokens
  have ends : tokens.getLast? = some (.finish 4) := rfl
  obtain ⟨frame, before, after, named, long, split, isEnd, others, -, decided, -, active⟩ :=
    parse_within_active_limit (α := Float) "x" ends rfl
  have front : before = [⟨.operator, "-", 0⟩, ⟨.identifier, "x", 1⟩] := by
    rw [← takeWhile_append_finish others isEnd after, ← split]
    rfl
  subst front
  refine ⟨ends, frame, named, long, ?_, active⟩
  intro budget enough
  rw [decided 2 budget (Nat.le_refl _) enough]
  rfl

end Parser
end Calculator
