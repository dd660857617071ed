import Calculator.Proofs.Parser.Extent
import Mathlib.Data.List.Chain

/-!
# Calls among productions

The calls that productions make of one another, read off from what each of them does with
its tokens. A call works within the limit on nesting and on tokens of its caller, and it
demands less of the budget than its caller, so that no chain of calls is longer than what
its first member demands. A production calls another one from a loop as often as it likes,
but always from the same place in the chain.
-/

namespace Calculator
namespace Parser

open Grammar Outcome

/-- A production at work, with its place in the nesting and what it has been given. -/
inductive Call
  | whole (tokens : List Token)
  | reading (nonterminal : Nonterminal) (nesting : Nesting) (tokens : List Token)
  | naming (nesting : Nesting) (word : Token) (tokens : List Token)
  | grouping
      (nesting : Nesting)
      (opener : Token)
      (function : Option String)
      (tokens : List Token)

namespace Call

/-- The number of levels of nesting that are open where a call is made. -/
def depth : Call → Nat
  | .whole _ => 0
  | .reading _ nesting _ => nesting.depth
  | .naming nesting _ _ => nesting.depth
  | .grouping nesting _ _ _ => nesting.depth

/-- The tokens that are left where a call is made. -/
def tokens : Call → List Token
  | .whole tokens => tokens
  | .reading _ _ tokens => tokens
  | .naming _ _ tokens => tokens
  | .grouping _ _ _ tokens => tokens

/-- The number of productions that may become active from a call on, itself included. -/
def demand : Call → Nat
  | .whole _ => activeLimit
  | .reading nonterminal nesting _ => Parser.demand nonterminal nesting
  | .naming nesting _ _ => 2 + 7 * (nestingLimit - nesting.depth)
  | .grouping nesting _ _ _ => 1 + 7 * (nestingLimit - nesting.depth)

theorem demand_pos (call : Call) : 0 < call.demand := by
  cases call with
  | whole tokens => exact Nat.succ_pos _
  | reading nonterminal nesting tokens =>
      cases nonterminal with
      | level precedence => cases precedence <;> simp only [demand, Parser.demand, reach] <;> omega
      | unary | power | primary =>
          simp only [demand, Parser.demand, reach]
          omega
  | naming nesting word tokens | grouping nesting opener function tokens =>
      simp only [demand]
      omega

/-- A call within the limit on nesting, on no more tokens than loops have rounds. -/
structure Fits (frame : Frame) (call : Call) : Prop where
  shallow : call.depth ≤ nestingLimit
  short : call.tokens.length ≤ frame.length

variable {α : Type} [Elementary α]

/-- What a call comes to within a budget. -/
def run (frame : Frame) (budget : Nat) : Call → Except ParseFailure (Tree α × List Token)
  | .whole tokens => (complete frame budget tokens).map fun tree => (tree, [])
  | .reading nonterminal nesting tokens => production frame nonterminal budget nesting tokens
  | .naming nesting word tokens => named frame budget nesting word tokens
  | .grouping nesting opener function tokens =>
      Parser.group frame budget nesting opener function tokens

/-- No call is possible without a budget. -/
theorem run_zero (frame : Frame) (call : Call) :
    call.run (α := α) frame 0 = .error .exhausted := by
  cases call with
  | reading nonterminal nesting tokens =>
      cases nonterminal with
      | level precedence => cases precedence <;> rfl
      | unary | power | primary => rfl
  | whole tokens | naming nesting word tokens | grouping nesting opener function tokens => rfl

end Call

/-- A nonterminal is read from the front of the tokens with some budget. -/
def Reads
    (α : Type)
    [Elementary α]
    (frame : Frame)
    (nonterminal : Nonterminal)
    (nesting : Nesting)
    (tokens rest : List Token) : Prop :=
  ∃ (budget : Nat) (tree : Tree α),
    production frame nonterminal budget nesting tokens = .ok (tree, rest)

/-- The tokens that the loop of a level meets behind its first operand or a later one. -/
inductive Meets
    (α : Type)
    [Elementary α]
    (frame : Frame)
    (precedence : Precedence)
    (nesting : Nesting)
    (tokens : List Token) : List Token → Prop
  | first
      {rest : List Token}
      (reads : Reads α frame precedence.operand nesting tokens rest) :
      Meets α frame precedence nesting tokens rest
  | next
      {sign : Token}
      {between rest : List Token}
      (met : Meets α frame precedence nesting tokens (sign :: between))
      (isSign : sign.isOperator precedence.symbols = true)
      (reads : Reads α frame precedence.operand nesting between rest) :
      Meets α frame precedence nesting tokens rest

/-- A call makes another one while it is active. There is one case for every place where a
production calls another one. -/
inductive Invokes (α : Type) [Elementary α] (frame : Frame) : Call → Call → Prop
  | whole
      {tokens : List Token}
      (filled : tokens ≠ []) :
      Invokes α frame (.whole tokens) (.reading (.level .additive) ⟨[], 0⟩ tokens)
  | first
      {precedence : Precedence}
      {nesting : Nesting}
      {tokens : List Token} :
      Invokes α frame (.reading (.level precedence) nesting tokens)
        (.reading precedence.operand nesting tokens)
  | next
      {precedence : Precedence}
      {nesting : Nesting}
      {tokens rest : List Token}
      {sign : Token}
      (met : Meets α frame precedence nesting tokens (sign :: rest))
      (isSign : sign.isOperator precedence.symbols = true) :
      Invokes α frame (.reading (.level precedence) nesting tokens)
        (.reading precedence.operand nesting rest)
  | signed
      {nesting inner : Nesting}
      {sign : Token}
      {rest : List Token}
      (isSign : sign.isOperator ["-", "+"] = true)
      (descended : nesting.descend sign = .ok inner) :
      Invokes α frame (.reading .unary nesting (sign :: rest)) (.reading .unary inner rest)
  | unsigned
      {nesting : Nesting}
      {tokens : List Token}
      (noSign : Stops ["-", "+"] tokens) :
      Invokes α frame (.reading .unary nesting tokens) (.reading .power nesting tokens)
  | base
      {nesting : Nesting}
      {tokens : List Token} :
      Invokes α frame (.reading .power nesting tokens) (.reading .primary nesting tokens)
  | exponent
      {nesting inner : Nesting}
      {tokens rest : List Token}
      {caret : Token}
      (reads : Reads α frame .primary nesting tokens (caret :: rest))
      (isCaret : caret.isOperator ["^"] = true)
      (descended : nesting.descend caret = .ok inner) :
      Invokes α frame (.reading .power nesting tokens) (.reading .unary inner rest)
  | naming
      {nesting : Nesting}
      {word : Token}
      {rest : List Token}
      (isWord : word.kind = .identifier) :
      Invokes α frame (.reading .primary nesting (word :: rest)) (.naming nesting word rest)
  | grouping
      {nesting : Nesting}
      {opener : Token}
      {rest : List Token}
      (isOpener : opener.kind = .opener) :
      Invokes α frame (.reading .primary nesting (opener :: rest))
        (.grouping nesting opener none rest)
  | argument
      {nesting : Nesting}
      {word opener : Token}
      {rest : List Token}
      {meaning : Function}
      (noConstant : Constant.ofName? word.text = none)
      (named : Function.ofName? word.text = some meaning)
      (isOpener : opener.kind = .opener) :
      Invokes α frame (.naming nesting word (opener :: rest))
        (.grouping nesting opener (some word.text) rest)
  | body
      {nesting inner : Nesting}
      {opener : Token}
      {function : Option String}
      {tokens : List Token}
      (descended : nesting.descendGroup opener = .ok inner) :
      Invokes α frame (.grouping nesting opener function tokens)
        (.reading (.level .additive) inner tokens)

variable {α : Type} [Elementary α] {frame : Frame} {call callee : Call}

/-- Whatever is read takes at least one token. -/
theorem Reads.length_lt
    {nonterminal : Nonterminal}
    {nesting : Nesting}
    {tokens rest : List Token}
    (shallow : nesting.depth ≤ nestingLimit)
    (reads : Reads α frame nonterminal nesting tokens rest) :
    rest.length < tokens.length := by
  obtain ⟨budget, tree, read⟩ := reads
  exact (sound_production frame nonterminal budget nesting shallow).length_lt read

theorem Meets.length_lt
    {precedence : Precedence}
    {nesting : Nesting}
    {tokens rest : List Token}
    (shallow : nesting.depth ≤ nestingLimit)
    (met : Meets α frame precedence nesting tokens rest) :
    rest.length < tokens.length := by
  induction met with
  | first reads => exact reads.length_lt shallow
  | next met isSign reads metHypothesis =>
      have shorter := reads.length_lt shallow
      rw [List.length_cons] at metHypothesis
      omega

/-- A call that is made within the limits makes its own calls within them. -/
theorem Invokes.fits
    (invokes : Invokes α frame call callee)
    (fits : call.Fits frame) :
    callee.Fits frame := by
  obtain ⟨shallow, short⟩ := fits
  cases invokes with
  | whole filled => exact ⟨Nat.zero_le _, short⟩
  | first | unsigned noSign | base => exact ⟨shallow, short⟩
  | next met isSign =>
      have shorter := met.length_lt shallow
      simp only [Call.tokens, List.length_cons] at short shorter
      exact ⟨shallow, by simp only [Call.tokens]; omega⟩
  | signed isSign descended =>
      obtain ⟨below, rfl⟩ := Nesting.descend_eq_ok_iff.mp descended
      exact ⟨below, Nat.le_of_succ_le short⟩
  | exponent reads isCaret descended =>
      obtain ⟨below, rfl⟩ := Nesting.descend_eq_ok_iff.mp descended
      have shorter := reads.length_lt shallow
      simp only [Call.tokens, List.length_cons] at short shorter
      exact ⟨below, by simp only [Call.tokens]; omega⟩
  | naming isWord | grouping isOpener | argument noConstant named isOpener =>
      exact ⟨shallow, Nat.le_of_succ_le short⟩
  | body descended =>
      obtain ⟨below, rfl⟩ := Nesting.descendGroup_eq_ok_iff.mp descended
      exact ⟨below, short⟩

/-- A call demands less than its caller. Seven calls lead from one level of nesting to the
next one, which demands seven less. -/
theorem Invokes.demand_lt (invokes : Invokes α frame call callee) :
    callee.demand < call.demand := by
  cases invokes with
  | whole filled =>
      simp only [Call.demand, activeLimit, demand, reach]
      omega
  | first | next met isSign =>
      simp only [Call.demand, demand_level]
      omega
  | signed isSign descended | exponent reads isCaret descended =>
      obtain ⟨below, rfl⟩ := Nesting.descend_eq_ok_iff.mp descended
      simp only [Call.demand, demand, reach]
      omega
  | body descended =>
      obtain ⟨below, rfl⟩ := Nesting.descendGroup_eq_ok_iff.mp descended
      simp only [Call.demand, demand, reach]
      omega
  | unsigned noSign | base | naming isWord | grouping isOpener
  | argument noConstant named isOpener =>
      simp only [Call.demand, demand, reach]
      omega

/-- The calls that are active at one time, from the first one on, are no more than it
demands, and all of them are within the limits. -/
theorem length_le_demand_of_isChain
    {calls : List Call}
    (active : List.IsChain (Invokes α frame) (call :: calls))
    (fits : call.Fits frame) :
    (call :: calls).length ≤ call.demand ∧ ∀ later ∈ call :: calls, later.Fits frame := by
  induction calls generalizing call with
  | nil => exact ⟨call.demand_pos, by simpa using fits⟩
  | cons callee calls callsHypothesis =>
      rw [List.isChain_cons_cons] at active
      obtain ⟨invokes, active⟩ := active
      obtain ⟨bounded, within⟩ := callsHypothesis active (invokes.fits fits)
      have less := invokes.demand_lt
      rw [List.length_cons]
      exact ⟨by omega, List.forall_mem_cons.mpr ⟨fits, within⟩⟩

end Parser
end Calculator
