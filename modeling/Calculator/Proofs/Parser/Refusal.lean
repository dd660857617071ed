import Calculator.Proofs.Grammar.Front
import Calculator.Proofs.Parser.Extent

/-!
# How tokens are refused

The ways in which a production fails, as derivations that stop short: each has what
was read before, and either the reason why the next token is refused or a refusal
one production further. A production whose budget covers the nesting limit fails in
no other way.
-/

namespace Calculator
namespace Parser

open Grammar Outcome

/-- A nesting that is one level deeper. -/
def Nesting.deeper (nesting : Nesting) : Nesting :=
  ⟨nesting.openers, nesting.depth + 1⟩

/-- A nesting inside one more parenthesis. -/
def Nesting.inside (nesting : Nesting) (opener : Token) : Nesting :=
  ⟨opener :: nesting.openers, nesting.depth + 1⟩

/-- How the tokens before the end of input are refused as a nonterminal. -/
inductive Refusal (α : Type) [Elementary α] (frame : Frame) :
    Nonterminal → Nesting → List Token → ParseFailure → Prop
  | first
      {precedence : Precedence}
      {nesting : Nesting}
      {tokens : List Token}
      {failure : ParseFailure}
      (refusal : Refusal α frame precedence.operand nesting tokens failure) :
      Refusal α frame (.level precedence) nesting tokens failure
  | next
      {precedence : Precedence}
      {nesting : Nesting}
      {tokens : List Token}
      {failure : ParseFailure}
      (left : Derivation frame.variableName (.level precedence))
      (sign : OperatorToken precedence.symbols)
      (refusal : Refusal α frame precedence.operand nesting tokens failure) :
      Refusal α frame (.level precedence) nesting (left.yield ++ sign.val :: tokens) failure
  | signTooDeep
      {nesting : Nesting}
      {tokens : List Token}
      (sign : OperatorToken ["-", "+"])
      (deep : nestingLimit ≤ nesting.depth) :
      Refusal α frame .unary nesting (sign.val :: tokens) (.grammar (.tooDeep sign.val))
  | signed
      {nesting : Nesting}
      {tokens : List Token}
      {failure : ParseFailure}
      (sign : OperatorToken ["-", "+"])
      (refusal : Refusal α frame .unary nesting.deeper tokens failure) :
      Refusal α frame .unary nesting (sign.val :: tokens) failure
  | unsigned
      {nesting : Nesting}
      {tokens : List Token}
      {failure : ParseFailure}
      (noSign : Stops ["-", "+"] tokens)
      (refusal : Refusal α frame .power nesting tokens failure) :
      Refusal α frame .unary nesting tokens failure
  | base
      {nesting : Nesting}
      {tokens : List Token}
      {failure : ParseFailure}
      (refusal : Refusal α frame .primary nesting tokens failure) :
      Refusal α frame .power nesting tokens failure
  | caretTooDeep
      {nesting : Nesting}
      {tokens : List Token}
      (base : Derivation frame.variableName .primary)
      (caret : OperatorToken ["^"])
      (deep : nestingLimit ≤ nesting.depth) :
      Refusal α frame .power nesting (base.yield ++ caret.val :: tokens)
        (.grammar (.tooDeep caret.val))
  | exponent
      {nesting : Nesting}
      {tokens : List Token}
      {failure : ParseFailure}
      (base : Derivation frame.variableName .primary)
      (caret : OperatorToken ["^"])
      (refusal : Refusal α frame .unary nesting.deeper tokens failure) :
      Refusal α frame .power nesting (base.yield ++ caret.val :: tokens) failure
  | ended
      {nesting : Nesting} :
      Refusal α frame .primary nesting [] (.grammar (nesting.endError frame.finish))
  | unreadable
      {nesting : Nesting}
      {tokens : List Token}
      (token : TokenOf .number)
      (noNumber : (Decimal.read? token.val.text.toList : Option α) = none) :
      Refusal α frame .primary nesting (token.val :: tokens)
        (.unreadableNumber token.val.text)
  | unknown
      {nesting : Nesting}
      {tokens : List Token}
      (word : TokenOf .identifier)
      (noConstant : Constant.ofName? word.val.text = none)
      (noFunction : Function.ofName? word.val.text = none)
      (noVariable : word.val.text ≠ frame.variableName) :
      Refusal α frame .primary nesting (word.val :: tokens)
        (.grammar (.unknownIdentifier word.val))
  | notOpener
      {nesting : Nesting}
      {tokens : List Token}
      (word : TokenOf .identifier)
      (meaning : Function)
      (named : word.val.text = meaning.name)
      (other : ∀ token ∈ tokens.head?, token.kind ≠ .opener) :
      Refusal α frame .primary nesting (word.val :: tokens)
        (.grammar (.notOpener word.val.text (tokens.headD frame.finish)))
  | groupTooDeep
      {nesting : Nesting}
      {lead tokens : List Token}
      {opener : Token}
      {function : Option String}
      (opening : Opening lead opener function)
      (deep : nestingLimit ≤ nesting.depth) :
      Refusal α frame .primary nesting (lead ++ tokens) (.grammar (.tooDeep opener))
  | inside
      {nesting : Nesting}
      {lead tokens : List Token}
      {opener : Token}
      {function : Option String}
      {failure : ParseFailure}
      (opening : Opening lead opener function)
      (refusal : Refusal α frame (.level .additive) (nesting.inside opener) tokens failure) :
      Refusal α frame .primary nesting (lead ++ tokens) failure
  | unclosed
      {nesting : Nesting}
      {lead : List Token}
      {opener : Token}
      {function : Option String}
      (opening : Opening lead opener function)
      (body : Derivation frame.variableName (.level .additive)) :
      Refusal α frame .primary nesting (lead ++ body.yield) (.grammar (.unclosed opener))
  | notCloser
      {nesting : Nesting}
      {lead tokens : List Token}
      {opener token : Token}
      {function : Option String}
      (opening : Opening lead opener function)
      (body : Derivation frame.variableName (.level .additive))
      (other : token.kind ≠ .closer)
      (stops : Stops (Nonterminal.level .additive).continuations (token :: tokens)) :
      Refusal α frame .primary nesting (lead ++ (body.yield ++ token :: tokens))
        (.grammar (.notCloser function token))
  | closer
      {nesting : Nesting}
      {tokens : List Token}
      (closer : TokenOf .closer) :
      Refusal α frame .primary nesting (closer.val :: tokens)
        (.grammar (nesting.closerError closer.val))
  | notOperand
      {nesting : Nesting}
      {tokens : List Token}
      {token : Token}
      (other : token.kind ∉ [.number, .identifier, .opener, .closer]) :
      Refusal α frame .primary nesting (token :: tokens) (.grammar (.notOperand token))

variable {α : Type} [Elementary α] {frame : Frame} {nesting : Nesting} {budget : Nat}

/-- A production fails by refusing the tokens. -/
def Refuses
    (frame : Frame)
    (nonterminal : Nonterminal)
    (nesting : Nesting)
    (production : Production α) : Prop :=
  ∀ ⦃tokens : List Token⦄ ⦃failure : ParseFailure⦄,
    tokens.length ≤ frame.length →
      production tokens = .error failure →
        Refusal α frame nonterminal nesting tokens failure

/-- All productions whose budgets are below a limit and cover the nesting fail by
refusing the tokens. -/
def RefusesBelow (α : Type) [Elementary α] (frame : Frame) (limit : Nat) : Prop :=
  ∀ budget < limit, ∀ (nonterminal : Nonterminal) (nesting : Nesting),
    nesting.depth ≤ nestingLimit →
      demand nonterminal nesting ≤ budget →
        Refuses frame nonterminal nesting
          (production (α := α) frame nonterminal budget nesting)

/-- No level of nesting is opened at the limit. -/
theorem Nesting.descend_eq_error_iff
    {nesting : Nesting}
    {token : Token}
    {failure : ParseFailure} :
    nesting.descend token = .error failure ↔
      nestingLimit ≤ nesting.depth ∧ failure = .grammar (.tooDeep token) := by
  rw [descend]
  split
  · rename_i below
    simp [Nat.not_le_of_lt below]
  · rename_i atLimit
    simp [refuse, Nat.le_of_not_lt atLimit, eq_comm]

theorem Nesting.descendGroup_eq_error_iff
    {nesting : Nesting}
    {opener : Token}
    {failure : ParseFailure} :
    nesting.descendGroup opener = .error failure ↔
      nestingLimit ≤ nesting.depth ∧ failure = .grammar (.tooDeep opener) := by
  rw [descendGroup, map_eq_error_iff, descend_eq_error_iff]

/-- A chain fails where an operand behind one of its operators is refused. -/
theorem refusal_of_chain
    {precedence : Precedence}
    {operand : Production α}
    (sound : Sound frame precedence.operand nesting operand)
    (refuses : Refuses frame precedence.operand nesting operand)
    (left : Derivation frame.variableName (.level precedence))
    {rounds : Nat}
    {tree : Tree α}
    {tokens : List Token}
    {failure : ParseFailure}
    (within : tokens.length ≤ frame.length)
    (failed : chain operand precedence.symbols rounds tree tokens = .error failure) :
    Refusal α frame (.level precedence) nesting (left.yield ++ tokens) failure := by
  induction rounds generalizing left tree tokens with
  | zero => cases failed
  | succ rounds roundsHypothesis =>
      cases tokens with
      | nil => cases failed
      | cons token tokens =>
          rw [List.length_cons] at within
          rw [chain] at failed
          split at failed
          · rename_i isSign
            let sign : OperatorToken precedence.symbols := ⟨token, isSign⟩
            split at failed
            · rename_i refused
              cases failed
              exact .next left sign (refuses (by omega) refused)
            · rename_i right after readOperand
              have shorter := sound.length_lt readOperand
              obtain ⟨between, rfl, -, -⟩ := sound readOperand
              have refusal := roundsHypothesis (left.link sign between) (by omega) failed
              rw [left.yield_link, List.append_assoc] at refusal
              exact refusal
          · cases failed

theorem refuses_level
    (precedence : Precedence)
    (within : nesting.depth ≤ nestingLimit)
    (enough : demand (.level precedence) nesting ≤ budget)
    (refuses : RefusesBelow α frame budget) :
    Refuses frame (.level precedence) nesting
      (production (α := α) frame (.level precedence) budget nesting) := by
  intro tokens failure long failed
  rw [demand_level] at enough
  obtain ⟨smaller, rfl⟩ : ∃ smaller, budget = smaller + 1 := ⟨budget - 1, by omega⟩
  have sound : Sound (α := α) frame precedence.operand nesting
      (production frame precedence.operand smaller nesting) :=
    sound_production frame precedence.operand smaller nesting within
  have refusesOperand : Refuses (α := α) frame precedence.operand nesting
      (production frame precedence.operand smaller nesting) :=
    refuses smaller smaller.lt_succ_self precedence.operand nesting within (by omega)
  rw [production_level] at failed
  rcases bind_eq_error_iff.mp failed with refused | ⟨⟨firstTree, after⟩, readFirst, chained⟩
  · exact .first (refusesOperand long refused)
  · have shorter := sound.length_lt readFirst
    obtain ⟨first, rfl, -, -⟩ := sound readFirst
    have refusal :=
      refusal_of_chain sound refusesOperand (.chain first .done) (by omega) chained
    simpa [Derivation.yield, Links.yield] using refusal

theorem refuses_unary
    (within : nesting.depth ≤ nestingLimit)
    (enough : demand .unary nesting ≤ budget)
    (refuses : RefusesBelow α frame budget) :
    Refuses frame .unary nesting (unary (α := α) frame budget nesting) := by
  intro tokens failure long failed
  have reached := reach_le_demand .unary nesting
  have demanded : demand .unary nesting = demand .power nesting + 1 := by
    simp only [demand, reach]
    omega
  simp only [reach] at reached
  obtain ⟨smaller, rfl⟩ : ∃ smaller, budget = smaller + 1 := ⟨budget - 1, by omega⟩
  have unsigned (refused : power frame smaller nesting tokens = .error failure) :
      Refusal α frame .power nesting tokens failure :=
    refuses smaller smaller.lt_succ_self .power nesting within (by omega) long refused
  cases tokens with
  | nil => exact .unsigned (stops_nil _) (unsigned failed)
  | cons sign tokens =>
      rw [List.length_cons] at long
      rw [unary] at failed
      split at failed
      · rename_i isSign
        rcases bind_eq_error_iff.mp failed with refused | ⟨inner, descended, failed⟩
        · obtain ⟨deep, rfl⟩ := Nesting.descend_eq_error_iff.mp refused
          exact .signTooDeep ⟨sign, isSign⟩ deep
        obtain ⟨below, rfl⟩ := Nesting.descend_eq_ok_iff.mp descended
        have deeper := demand_deeper .unary .unary below nesting.openers
        simp only [reach] at deeper
        rcases bind_eq_error_iff.mp failed with refused | ⟨read, -, returned⟩
        · exact .signed ⟨sign, isSign⟩
            (refuses smaller smaller.lt_succ_self .unary nesting.deeper below
              (by unfold Nesting.deeper; omega) (by omega) refused)
        · cases returned
      · rename_i other
        exact .unsigned ((stops_cons _ _ _).mpr (Bool.eq_false_iff.mpr other))
          (unsigned failed)

theorem refuses_power
    (within : nesting.depth ≤ nestingLimit)
    (enough : demand .power nesting ≤ budget)
    (refuses : RefusesBelow α frame budget) :
    Refuses frame .power nesting (power (α := α) frame budget nesting) := by
  intro tokens failure long failed
  have reached := reach_le_demand .power nesting
  have demanded : demand .power nesting = demand .primary nesting + 1 := by
    simp only [demand, reach]
    omega
  simp only [reach] at reached
  obtain ⟨smaller, rfl⟩ : ∃ smaller, budget = smaller + 1 := ⟨budget - 1, by omega⟩
  rcases bind_eq_error_iff.mp failed with refused | ⟨⟨baseTree, after⟩, readBase, behind⟩
  · exact .base (refuses smaller smaller.lt_succ_self .primary nesting within (by omega)
      long refused)
  have sound := sound_production (α := α) frame .primary smaller nesting within
  have shorter := sound.length_lt readBase
  obtain ⟨base, rfl, -, -⟩ := sound readBase
  cases after with
  | nil => cases behind
  | cons caret after =>
      rw [List.length_cons] at shorter
      dsimp only at behind
      split at behind
      · rename_i isCaret
        rcases bind_eq_error_iff.mp behind with refused | ⟨inner, descended, behind⟩
        · obtain ⟨deep, rfl⟩ := Nesting.descend_eq_error_iff.mp refused
          exact .caretTooDeep base ⟨caret, isCaret⟩ deep
        obtain ⟨below, rfl⟩ := Nesting.descend_eq_ok_iff.mp descended
        have deeper := demand_deeper .power .unary below nesting.openers
        simp only [reach] at deeper
        rcases bind_eq_error_iff.mp behind with refused | ⟨read, -, returned⟩
        · exact .exponent base ⟨caret, isCaret⟩
            (refuses smaller smaller.lt_succ_self .unary nesting.deeper below
              (by unfold Nesting.deeper; omega) (by omega) refused)
        · cases returned
      · cases behind

/-- A group is refused for its depth, for what it holds or for how it ends. -/
theorem refusal_of_group
    (enough : demand .primary nesting ≤ budget + 2)
    (refuses : RefusesBelow α frame budget)
    {lead tokens : List Token}
    {opener : Token}
    {function : Option String}
    (opening : Opening lead opener function)
    {failure : ParseFailure}
    (long : tokens.length ≤ frame.length)
    (failed : Parser.group (α := α) frame budget nesting opener function tokens =
      .error failure) :
    Refusal α frame .primary nesting (lead ++ tokens) failure := by
  have reached := reach_le_demand .primary nesting
  simp only [reach] at reached
  obtain ⟨smaller, rfl⟩ : ∃ smaller, budget = smaller + 1 := ⟨budget - 1, by omega⟩
  rcases bind_eq_error_iff.mp failed with refused | ⟨inner, descended, failed⟩
  · obtain ⟨deep, rfl⟩ := Nesting.descendGroup_eq_error_iff.mp refused
    exact .groupTooDeep opening deep
  obtain ⟨below, rfl⟩ := Nesting.descendGroup_eq_ok_iff.mp descended
  have deeper := demand_deeper .primary (.level .additive) below (opener :: nesting.openers)
  simp only [reach] at deeper
  rcases bind_eq_error_iff.mp failed with refused | ⟨⟨bodyTree, after⟩, readBody, behind⟩
  · exact .inside opening
      (refuses smaller smaller.lt_succ_self (.level .additive) (nesting.inside opener) below
        (by unfold Nesting.inside; omega) long refused)
  have stops := greedy_production frame (.level .additive) smaller
    (nesting.inside opener) below long readBody
  obtain ⟨body, rfl, -, -⟩ := sound_production frame (.level .additive) smaller
    (nesting.inside opener) below readBody
  cases after with
  | nil =>
      cases behind
      rw [List.append_nil]
      exact .unclosed opening body
  | cons token after =>
      dsimp only at behind
      split at behind
      · cases behind
      · rename_i other
        cases behind
        exact .notCloser opening body other stops

/-- A word is refused for the want of a meaning, or as the name of a function. -/
theorem refusal_of_named
    (enough : demand .primary nesting ≤ budget + 1)
    (refuses : RefusesBelow α frame budget)
    (word : TokenOf .identifier)
    {tokens : List Token}
    {failure : ParseFailure}
    (long : tokens.length ≤ frame.length)
    (failed : Parser.named (α := α) frame budget nesting word.val tokens = .error failure) :
    Refusal α frame .primary nesting (word.val :: tokens) failure := by
  have reached := reach_le_demand .primary nesting
  simp only [reach] at reached
  obtain ⟨smaller, rfl⟩ : ∃ smaller, budget = smaller + 1 := ⟨budget - 1, by omega⟩
  unfold Parser.named at failed
  split at failed
  · cases failed
  rename_i noConstant
  split at failed
  · rename_i meaning found
    have named := Function.ofName?_eq_some_iff.mp found
    cases tokens with
    | nil =>
        cases failed
        exact .notOpener word meaning named (by simp)
    | cons opener tokens =>
        dsimp only at failed
        rw [List.length_cons] at long
        split at failed
        · rename_i isOpener
          rcases bind_eq_error_iff.mp failed with refused | ⟨read, -, returned⟩
          · exact refusal_of_group enough (fun smaller less => refuses smaller (by omega))
              (.call word meaning named ⟨opener, isOpener⟩) (by omega) refused
          · cases returned
        · rename_i other
          cases failed
          exact .notOpener word meaning named (by simpa using other)
  rename_i noFunction
  split at failed
  · cases failed
  · rename_i noVariable
    cases failed
    exact .unknown word noConstant noFunction noVariable

theorem refuses_primary
    (enough : demand .primary nesting ≤ budget)
    (refuses : RefusesBelow α frame budget) :
    Refuses frame .primary nesting (primary (α := α) frame budget nesting) := by
  intro tokens failure long failed
  have reached := reach_le_demand .primary nesting
  simp only [reach] at reached
  obtain ⟨smaller, rfl⟩ : ∃ smaller, budget = smaller + 1 := ⟨budget - 1, by omega⟩
  have refusesBelow : RefusesBelow α frame smaller :=
    fun budget less => refuses budget (by omega)
  cases tokens with
  | nil =>
      cases failed
      exact .ended
  | cons token tokens =>
      rw [List.length_cons] at long
      rw [primary] at failed
      split at failed
      · rename_i isNumber
        split at failed
        · cases failed
        · rename_i noNumber
          cases failed
          exact .unreadable ⟨token, isNumber⟩ noNumber
      · rename_i isWord
        exact refusal_of_named enough refusesBelow ⟨token, isWord⟩ (by omega) failed
      · rename_i isOpener
        exact refusal_of_group (by omega) refusesBelow (.group ⟨token, isOpener⟩) (by omega)
          failed
      · rename_i isCloser
        cases failed
        exact .closer ⟨token, isCloser⟩
      · rename_i notNumber notWord notOpener notCloser
        cases failed
        refine .notOperand ?_
        simp only [List.mem_cons, List.not_mem_nil, or_false, not_or]
        exact ⟨notNumber, notWord, notOpener, notCloser⟩

/-- A production whose budget covers the nesting fails by refusing the tokens. -/
theorem refuses_production
    (frame : Frame)
    (nonterminal : Nonterminal)
    (budget : Nat)
    (nesting : Nesting)
    (within : nesting.depth ≤ nestingLimit)
    (enough : demand nonterminal nesting ≤ budget) :
    Refuses frame nonterminal nesting
      (production (α := α) frame nonterminal budget nesting) := by
  induction budget using Nat.strongRecOn generalizing nonterminal nesting with
  | ind budget smallerHypothesis =>
      have refuses : RefusesBelow α frame budget :=
        fun smaller less nonterminal nesting within enough =>
          smallerHypothesis smaller less nonterminal nesting within enough
      cases nonterminal with
      | level precedence => exact refuses_level precedence within enough refuses
      | unary => exact refuses_unary within enough refuses
      | power => exact refuses_power within enough refuses
      | primary => exact refuses_primary enough refuses

/-- How the whole of the tokens before the end of input is refused: there are none,
no expression begins with them, or a token stands behind the longest one. -/
inductive WholeRefusal (α : Type) [Elementary α] (frame : Frame) :
    List Token → ParseFailure → Prop
  | empty : WholeRefusal α frame [] (.grammar (.emptySource frame.finish.position))
  | inside
      {tokens : List Token}
      {failure : ParseFailure}
      (refusal : Refusal α frame (.level .additive) ⟨[], 0⟩ tokens failure) :
      WholeRefusal α frame tokens failure
  | behind
      {token : Token}
      {after : List Token}
      (derivation : Derivation frame.variableName (.level .additive))
      (stops : Stops (Nonterminal.level .additive).continuations (token :: after)) :
      WholeRefusal α frame (derivation.yield ++ token :: after)
        (.grammar (if token.kind = .closer then .strayCloser token else .trailing token))

theorem refusal_of_complete
    {tokens : List Token}
    {failure : ParseFailure}
    (long : tokens.length ≤ frame.length)
    (failed : complete (α := α) frame activeLimit tokens = .error failure) :
    WholeRefusal α frame tokens failure := by
  have enough : demand (.level .additive) ⟨[], 0⟩ ≤ 7 * nestingLimit + 7 := by
    simp only [demand, reach]
    omega
  rw [activeLimit, complete] at failed
  split at failed
  · rename_i empty
    cases failed
    rw [List.isEmpty_iff.mp empty]
    exact .empty
  rcases bind_eq_error_iff.mp failed with refused | ⟨⟨tree, rest⟩, read, behind⟩
  · exact .inside (refuses_production frame (.level .additive) (7 * nestingLimit + 7) ⟨[], 0⟩
      (Nat.zero_le _) enough long refused)
  have stops := greedy_production frame (.level .additive) (7 * nestingLimit + 7) ⟨[], 0⟩
    (Nat.zero_le _) long read
  obtain ⟨derivation, rfl, -, -⟩ :=
    sound_production frame (.level .additive) (7 * nestingLimit + 7) ⟨[], 0⟩
      (Nat.zero_le _) read
  cases rest with
  | nil => cases behind
  | cons token after =>
      cases behind
      exact .behind derivation stops

end Parser
end Calculator
