import Calculator.Proofs.Parser.Production

/-!
# Every derivation is read

The productions read the tokens of a derivation back as its tree and stop where
it ends, if the nesting of the derivation is within the limit, its numbers are
readable and nothing follows that would extend it.
-/

namespace Calculator
namespace Parser

open Grammar

/-- The number tokens among the tokens write numbers. -/
def Readable (α : Type) [Elementary α] (tokens : List Token) : Prop :=
  ∀ token ∈ tokens, token.kind = .number →
    (Decimal.read? token.text.toList : Option α).isSome

variable {α : Type} [Elementary α]

@[simp] theorem readable_cons {token : Token} {tokens : List Token} :
    Readable α (token :: tokens) ↔
      (token.kind = .number → (Decimal.read? token.text.toList : Option α).isSome) ∧
        Readable α tokens := by
  simp [Readable]

@[simp] theorem readable_append {left right : List Token} :
    Readable α (left ++ right) ↔ Readable α left ∧ Readable α right := by
  simp only [Readable, List.mem_append]
  constructor
  · intro readable
    exact ⟨fun token inLeft => readable token (Or.inl inLeft),
      fun token inRight => readable token (Or.inr inRight)⟩
  · rintro ⟨readableLeft, readableRight⟩ token (inLeft | inRight)
    · exact readableLeft token inLeft
    · exact readableRight token inRight

variable {frame : Frame} {nesting : Nesting} {budget : Nat}

omit [Elementary α] in
/-- A chain ends where none of its operators follows. -/
theorem chain_of_stops
    {operand : Production α}
    {symbols : List String}
    {rest : List Token}
    (stops : Stops symbols rest)
    (rounds : Nat)
    (left : Tree α) :
    chain operand symbols rounds left rest = .ok (left, rest) := by
  cases rounds with
  | zero => rfl
  | succ rounds =>
      cases rest with
      | nil => rfl
      | cons token rest =>
          rw [stops_cons] at stops
          simp [chain, stops]

omit [Elementary α] in
/-- A chain goes on with the operand behind an operator. -/
theorem chain_link
    {operand : Production α}
    {symbols : List String}
    (sign : OperatorToken symbols)
    {tokens rest : List Token}
    {right : Tree α}
    (read : operand tokens = .ok (right, rest))
    (rounds : Nat)
    (left : Tree α) :
    chain operand symbols (rounds + 1) left (sign.val :: tokens) =
      chain operand symbols rounds (.binary sign.val.text left right) rest := by
  simp [chain, sign.property, read]

theorem number_read
    {token : TokenOf .number}
    (readable : (Decimal.read? token.val.text.toList : Option α).isSome)
    (rest : List Token) :
    primary frame (budget + 1) nesting (token.val :: rest) =
      .ok (.literal (numeral token.val : α), rest) := by
  obtain ⟨x, read⟩ := Option.isSome_iff_exists.mp readable
  simp [primary, token.property, numeral, read]

theorem constant_read
    {word : TokenOf .identifier}
    {meaning : Constant}
    (named : word.val.text = meaning.name)
    (rest : List Token) :
    primary frame (budget + 2) nesting (word.val :: rest) =
      .ok (.literal (meaning.value : α), rest) := by
  simp [primary, word.property, Parser.named, named, Constant.ofName?_name]

theorem symbol_read
    (unreserved : frame.variableName ∉ reservedNames)
    {word : TokenOf .identifier}
    (named : word.val.text = frame.variableName)
    (rest : List Token) :
    primary (α := α) frame (budget + 2) nesting (word.val :: rest) =
      .ok (.symbol frame.variableName, rest) := by
  simp [primary, word.property, Parser.named, named, Constant.ofName?_eq_none unreserved,
    Function.ofName?_eq_none unreserved]

theorem signed_read
    (shallow : nesting.depth < nestingLimit)
    {sign : OperatorToken ["-", "+"]}
    {tokens rest : List Token}
    {operand : Tree α}
    (read : unary frame budget ⟨nesting.openers, nesting.depth + 1⟩ tokens =
      .ok (operand, rest)) :
    unary frame (budget + 1) nesting (sign.val :: tokens) =
      .ok (if sign.val.text = "-" then .unary "-" operand else operand, rest) := by
  have descended : nesting.descend sign.val = .ok ⟨nesting.openers, nesting.depth + 1⟩ :=
    Nesting.descend_eq_ok_iff.mpr ⟨shallow, rfl⟩
  simp [unary, sign.property, descended, read]

theorem unsigned_read
    {head : Token}
    (other : head.kind ≠ .operator)
    (tail : List Token) :
    unary (α := α) frame (budget + 1) nesting (head :: tail) =
      power frame budget nesting (head :: tail) := by
  simp [unary, isOperator_of_kind_ne other]

theorem raised_read
    (shallow : nesting.depth < nestingLimit)
    {caret : OperatorToken ["^"]}
    {tokens middle rest : List Token}
    {base exponent : Tree α}
    (readBase : primary frame budget nesting tokens = .ok (base, caret.val :: middle))
    (readExponent : unary frame budget ⟨nesting.openers, nesting.depth + 1⟩ middle =
      .ok (exponent, rest)) :
    power frame (budget + 1) nesting tokens = .ok (.binary "^" base exponent, rest) := by
  have descended : nesting.descend caret.val = .ok ⟨nesting.openers, nesting.depth + 1⟩ :=
    Nesting.descend_eq_ok_iff.mpr ⟨shallow, rfl⟩
  simp [power, readBase, caret.property, descended, readExponent]

theorem plain_read
    {tokens rest : List Token}
    {base : Tree α}
    (read : primary frame budget nesting tokens = .ok (base, rest))
    (stops : Stops ["^"] rest) :
    power frame (budget + 1) nesting tokens = .ok (base, rest) := by
  cases rest with
  | nil => simp [power, read]
  | cons token rest =>
      rw [stops_cons] at stops
      simp [power, read, stops]

/-- A group is read to its end when its inside is. -/
theorem group_read
    (shallow : nesting.depth < nestingLimit)
    {opener : Token}
    {function : Option String}
    {closer : TokenOf .closer}
    {tokens rest : List Token}
    {body : Tree α}
    (read : additive frame budget ⟨opener :: nesting.openers, nesting.depth + 1⟩ tokens =
      .ok (body, closer.val :: rest)) :
    Parser.group frame (budget + 1) nesting opener function tokens = .ok (body, rest) := by
  have descended : nesting.descendGroup opener =
      .ok ⟨opener :: nesting.openers, nesting.depth + 1⟩ :=
    Nesting.descendGroup_eq_ok_iff.mpr ⟨shallow, rfl⟩
  simp [Parser.group, descended, read, closer.property]

theorem parenthesized_read
    (shallow : nesting.depth < nestingLimit)
    {opener : TokenOf .opener}
    {closer : TokenOf .closer}
    {tokens rest : List Token}
    {body : Tree α}
    (read : additive frame budget ⟨opener.val :: nesting.openers, nesting.depth + 1⟩ tokens =
      .ok (body, closer.val :: rest)) :
    primary frame (budget + 2) nesting (opener.val :: tokens) = .ok (body, rest) := by
  simp [primary, opener.property, group_read shallow read]

theorem call_read
    (shallow : nesting.depth < nestingLimit)
    {word : TokenOf .identifier}
    {meaning : Function}
    (named : word.val.text = meaning.name)
    {opener : TokenOf .opener}
    {closer : TokenOf .closer}
    {tokens rest : List Token}
    {argument : Tree α}
    (read : additive frame budget ⟨opener.val :: nesting.openers, nesting.depth + 1⟩ tokens =
      .ok (argument, closer.val :: rest)) :
    primary frame (budget + 3) nesting (word.val :: opener.val :: tokens) =
      .ok (.call meaning.name argument, rest) := by
  simp [primary, word.property, Parser.named, named, Constant.ofName?_functionName,
    Function.ofName?_name, opener.property, group_read shallow read]

mutual

/-- Every nonterminal reads the tokens of its derivations. -/
theorem production_yield
    (unreserved : frame.variableName ∉ reservedNames) :
    {nonterminal : Nonterminal} →
    (derivation : Derivation frame.variableName nonterminal) →
    {nesting : Nesting} → {budget : Nat} → {rest : List Token} →
    Readable α derivation.yield →
    derivation.yield.length ≤ frame.length →
    nesting.depth + derivation.nesting ≤ nestingLimit →
    demand nonterminal nesting ≤ budget →
    Stops nonterminal.continuations rest →
    production frame nonterminal budget nesting (derivation.yield ++ rest) =
      .ok (derivation.tree (α := α), rest)
  | .level precedence, .chain first links, nesting, budget, rest,
      readable, long, shallow, enough, stops => by
      simp only [Derivation.yield, readable_append, List.length_append,
        Derivation.nesting] at readable long shallow
      rw [demand_level] at enough
      obtain ⟨smaller, rfl⟩ : ∃ smaller, budget = smaller + 1 := ⟨budget - 1, by omega⟩
      rw [production_level, Derivation.yield, List.append_assoc,
        production_yield unreserved first readable.1 (by omega) (by omega) (by omega)
          (links.stops stops), Outcome.ok_bind]
      exact chain_yield unreserved links readable.2 (by omega) (by omega) (by omega) (by omega)
        stops
  | _, .signed sign operand, nesting, budget, rest, readable, long, shallow, enough, stops => by
      simp only [Derivation.yield, readable_cons, List.length_cons,
        Derivation.nesting] at readable long shallow
      have below : nesting.depth < nestingLimit := by omega
      have deeper := demand_deeper .unary .unary below nesting.openers
      simp only [reach] at deeper
      obtain ⟨smaller, rfl⟩ : ∃ smaller, budget = smaller + 1 := ⟨budget - 1, by omega⟩
      exact signed_read below (production_yield unreserved operand readable.2 (by omega)
        (by dsimp only; omega) (by omega) stops)
  | _, .unsigned operand, nesting, budget, rest, readable, long, shallow, enough, stops => by
      have demanded : demand .unary nesting = demand .power nesting + 1 := by
        simp only [demand, reach]
        omega
      obtain ⟨smaller, rfl⟩ : ∃ smaller, budget = smaller + 1 := ⟨budget - 1, by omega⟩
      have read := production_yield unreserved operand readable long shallow
        (by omega : demand .power nesting ≤ smaller) stops
      obtain ⟨head, tail, yields, other⟩ := operand.exists_head_of_power unreserved
      rw [yields, List.cons_append] at read
      simp only [production, Derivation.yield, yields, List.cons_append]
      rw [unsigned_read other]
      exact read
  | _, .raised base caret exponent, nesting, budget, rest,
      readable, long, shallow, enough, stops => by
      simp only [Derivation.yield, readable_append, readable_cons, List.length_append,
        List.length_cons, Derivation.nesting] at readable long shallow
      have below : nesting.depth < nestingLimit := by omega
      have deeper := demand_deeper .power .unary below nesting.openers
      have demanded : demand .power nesting = demand .primary nesting + 1 := by
        simp only [demand, reach]
        omega
      simp only [reach] at deeper
      obtain ⟨smaller, rfl⟩ : ∃ smaller, budget = smaller + 1 := ⟨budget - 1, by omega⟩
      rw [Derivation.yield, List.append_assoc]
      exact raised_read below
        (production_yield unreserved base readable.1 (by omega) (by omega) (by omega)
          (stops_primary _))
        (production_yield unreserved exponent readable.2.2 (by omega) (by dsimp only; omega)
          (by omega) stops)
  | _, .plain base, nesting, budget, rest, readable, long, shallow, enough, stops => by
      have demanded : demand .power nesting = demand .primary nesting + 1 := by
        simp only [demand, reach]
        omega
      obtain ⟨smaller, rfl⟩ : ∃ smaller, budget = smaller + 1 := ⟨budget - 1, by omega⟩
      exact plain_read (production_yield unreserved base readable long shallow (by omega)
        (stops_primary _)) stops
  | _, .number token, nesting, budget, rest, readable, _, _, enough, _ => by
      have reached := reach_le_demand .primary nesting
      simp only [reach] at reached
      obtain ⟨smaller, rfl⟩ : ∃ smaller, budget = smaller + 1 := ⟨budget - 1, by omega⟩
      exact number_read (readable token.val (List.mem_singleton_self _) token.property) rest
  | _, .constant word meaning named, nesting, budget, rest, _, _, _, enough, _ => by
      have reached := reach_le_demand .primary nesting
      simp only [reach] at reached
      obtain ⟨smaller, rfl⟩ : ∃ smaller, budget = smaller + 2 := ⟨budget - 2, by omega⟩
      exact constant_read named rest
  | _, .symbol word named, nesting, budget, rest, _, _, _, enough, _ => by
      have reached := reach_le_demand .primary nesting
      simp only [reach] at reached
      obtain ⟨smaller, rfl⟩ : ∃ smaller, budget = smaller + 2 := ⟨budget - 2, by omega⟩
      exact symbol_read unreserved named rest
  | _, .call word meaning named opener argument closer, nesting, budget, rest,
      readable, long, shallow, enough, _ => by
      simp only [Derivation.yield, readable_append, readable_cons, List.length_append,
        List.length_cons, Derivation.nesting] at readable long shallow
      have below : nesting.depth < nestingLimit := by omega
      have deeper := demand_deeper .primary (.level .additive) below
        (opener.val :: nesting.openers)
      simp only [reach] at deeper
      obtain ⟨smaller, rfl⟩ : ∃ smaller, budget = smaller + 3 := ⟨budget - 3, by omega⟩
      rw [Derivation.yield, List.cons_append, List.cons_append, List.append_assoc]
      exact call_read below named (production_yield unreserved argument readable.2.2.1
        (by omega) (by dsimp only; omega) (by omega) (stops_closer closer _ _))
  | _, .group opener body closer, nesting, budget, rest,
      readable, long, shallow, enough, _ => by
      simp only [Derivation.yield, readable_append, readable_cons, List.length_append,
        List.length_cons, Derivation.nesting] at readable long shallow
      have below : nesting.depth < nestingLimit := by omega
      have deeper := demand_deeper .primary (.level .additive) below
        (opener.val :: nesting.openers)
      simp only [reach] at deeper
      obtain ⟨smaller, rfl⟩ : ∃ smaller, budget = smaller + 2 := ⟨budget - 2, by omega⟩
      rw [Derivation.yield, List.cons_append, List.append_assoc]
      exact parenthesized_read below (production_yield unreserved body readable.2.1
        (by omega) (by dsimp only; omega) (by omega) (stops_closer closer _ _))

/-- The chain of a level reads the tokens of links. -/
theorem chain_yield
    (unreserved : frame.variableName ∉ reservedNames) :
    {precedence : Precedence} →
    (links : Links frame.variableName precedence) →
    {nesting : Nesting} → {budget : Nat} → {rest : List Token} →
    {rounds : Nat} → {left : Tree α} →
    Readable α links.yield →
    links.yield.length ≤ frame.length →
    links.yield.length ≤ rounds →
    nesting.depth + links.nesting ≤ nestingLimit →
    demand precedence.operand nesting ≤ budget →
    Stops (Nonterminal.level precedence).continuations rest →
    chain (production frame precedence.operand budget nesting) precedence.symbols rounds left
        (links.yield ++ rest) =
      .ok (links.extend left, rest)
  | precedence, .done, nesting, budget, rest, rounds, left, _, _, _, _, _, stops =>
      chain_of_stops (stops.of_subset precedence.symbols_subset) rounds left
  | precedence, .link sign operand links, nesting, budget, rest, rounds, left,
      readable, long, bounded, shallow, enough, stops => by
      simp only [Links.yield, readable_append, readable_cons, List.length_append,
        List.length_cons, Links.nesting] at readable long bounded shallow
      obtain ⟨fewer, rfl⟩ : ∃ fewer, rounds = fewer + 1 := ⟨rounds - 1, by omega⟩
      rw [Links.yield, List.cons_append, List.append_assoc,
        chain_link sign (production_yield unreserved operand readable.2.1 (by omega) (by omega)
          enough (links.stops stops))]
      exact chain_yield unreserved links readable.2.2 (by omega) (by omega) (by omega) enough
        stops

end

end Parser
end Calculator
