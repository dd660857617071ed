import Calculator.Proofs.Parser.Call
import Mathlib.Data.List.Forall2

/-!
# Tokens that correspond

The parser tells tokens apart by their kinds and texts, and its variable from other words. On tokens
that correspond one by one, wherever they stand and whatever the variable is called, it comes to the
same: to trees that differ in the name of the variable, or to the same error at tokens that
correspond.
-/

namespace Calculator

/-! ## Related outcomes -/

namespace Outcome

variable {ε ε' β β' γ γ' : Type} {Failures : ε → ε' → Prop}

/-- Two outcomes are both results or both errors, and related as such. -/
inductive Related (Failures : ε → ε' → Prop) (Results : β → β' → Prop) :
    Except ε β → Except ε' β' → Prop
  | ok {x : β} {x' : β'} (results : Results x x') : Related Failures Results (.ok x) (.ok x')
  | error
      {error : ε}
      {error' : ε'}
      (failures : Failures error error') :
      Related Failures Results (.error error) (.error error')

/-- What comes behind related results is related when it is for each pair of them. -/
theorem Related.bind
    {Results : β → β' → Prop}
    {Later : γ → γ' → Prop}
    {first : Except ε β}
    {first' : Except ε' β'}
    (related : Related Failures Results first first')
    {next : β → Except ε γ}
    {next' : β' → Except ε' γ'}
    (each : ∀ x x', Results x x' → Related Failures Later (next x) (next' x')) :
    Related Failures Later (first >>= next) (first' >>= next') := by
  cases related with
  | ok results => exact each _ _ results
  | error failures => exact .error failures

theorem Related.map
    {Results : β → β' → Prop}
    {Later : γ → γ' → Prop}
    {first : Except ε β}
    {first' : Except ε' β'}
    (related : Related Failures Results first first')
    {f : β → γ}
    {f' : β' → γ'}
    (each : ∀ x x', Results x x' → Later (f x) (f' x')) :
    Related Failures Later (first.map f) (first'.map f') := by
  cases related with
  | ok results => exact .ok (each _ _ results)
  | error failures => exact .error failures

theorem Related.ok_or_error
    {Results : β → β' → Prop}
    {first : Except ε β}
    {first' : Except ε' β'}
    (related : Related Failures Results first first') :
    (∃ x x', first = .ok x ∧ first' = .ok x' ∧ Results x x') ∨
      ∃ error error', first = .error error ∧ first' = .error error' ∧ Failures error error' := by
  cases related with
  | ok results => exact .inl ⟨_, _, rfl, rfl, results⟩
  | error failures => exact .inr ⟨_, _, rfl, rfl, failures⟩

end Outcome

/-! ## What corresponds -/

/-- A tree with a variable of another name. -/
def Tree.renamed {α : Type} (old new : String) : Tree α → Tree α
  | .literal value => .literal value
  | .symbol name => .symbol (if name = old then new else name)
  | .unary operator operand => .unary operator (operand.renamed old new)
  | .binary operator left right => .binary operator (left.renamed old new) (right.renamed old new)
  | .call function argument => .call function (argument.renamed old new)
  | .foreign text => .foreign text

/-- A tree whose variable keeps its name is the same. -/
theorem Tree.renamed_self {α : Type} (name : String) (tree : Tree α) :
    tree.renamed name name = tree := by
  induction tree with
  | literal value => rfl
  | symbol other =>
      rw [renamed]
      split
      · next same => rw [same]
      · rfl
  | unary operator operand operandHypothesis => rw [renamed, operandHypothesis]
  | binary operator left right leftHypothesis rightHypothesis =>
      rw [renamed, leftHypothesis, rightHypothesis]
  | call function argument argumentHypothesis => rw [renamed, argumentHypothesis]
  | foreign text => rfl

/-- The same error about another token. -/
def ParseError.about : ParseError → Token → ParseError
  | .emptySource _, token => .emptySource token.position
  | .missingOperand _, token => .missingOperand token.position
  | .emptyGroup _, token => .emptyGroup token
  | .strayCloser _, token => .strayCloser token
  | .unclosed _, token => .unclosed token
  | .trailing _, token => .trailing token
  | .notOperand _, token => .notOperand token
  | .notCloser function _, token => .notCloser function token
  | .notOpener function _, token => .notOpener function token
  | .unknownIdentifier _, token => .unknownIdentifier token
  | .tooDeep _, token => .tooDeep token

@[simp] theorem ParseError.kind_about (error : ParseError) (token : Token) :
    (error.about token).kind = error.kind := by
  cases error <;> rfl

@[simp] theorem ParseError.position_about (error : ParseError) (token : Token) :
    (error.about token).position = token.position := by
  cases error <;> rfl

/-- Tokens in which one variable stands for another correspond: they are of one kind and one text,
unless they are the variables. -/
structure Corresponding (old new : String) (R : Token → Token → Prop) : Prop where
  unreserved : old ∉ reservedNames
  unreserved' : new ∉ reservedNames
  kind : ∀ {token token'}, R token token' → token'.kind = token.kind
  text : ∀ {token token'}, R token token' → token.kind ≠ .identifier → token'.text = token.text
  word : ∀ {token token'}, R token token' → token.kind = .identifier →
    (token.text = old ∧ token'.text = new) ∨
      (token.text ≠ old ∧ token'.text ≠ new ∧ token'.text = token.text)

namespace Parser

open Grammar Outcome

/-- Two failures are one error at tokens that correspond, or the same for another reason. -/
inductive FailuresMatch (R : Token → Token → Prop) : ParseFailure → ParseFailure → Prop
  | grammar
      (error : ParseError)
      {token token' : Token}
      (tokens : R token token') :
      FailuresMatch R (.grammar (error.about token)) (.grammar (error.about token'))
  | unreadableNumber (text : String) :
      FailuresMatch R (.unreadableNumber text) (.unreadableNumber text)
  | exhausted : FailuresMatch R .exhausted .exhausted

/-- Two frames have variables that stand for one another and inputs of one length. -/
structure FramesMatch
    (old new : String)
    (R : Token → Token → Prop)
    (frame frame' : Frame) : Prop where
  variableName : frame.variableName = old
  variableName' : frame'.variableName = new
  finish : R frame.finish frame'.finish
  length : frame'.length = frame.length

/-- Two nestings are equally deep, inside parentheses that correspond. -/
structure NestingsMatch (R : Token → Token → Prop) (nesting nesting' : Nesting) : Prop where
  openers : List.Forall₂ R nesting.openers nesting'.openers
  depth : nesting'.depth = nesting.depth

/-- What has been read differs in the name of the variable, and what is left corresponds. -/
def ReadingsMatch
    {α : Type}
    (old new : String)
    (R : Token → Token → Prop)
    (read read' : Tree α × List Token) : Prop :=
  read'.1 = read.1.renamed old new ∧ List.Forall₂ R read.2 read'.2

/-- Two calls are of one production, on tokens that correspond. -/
inductive CallsMatch (R : Token → Token → Prop) : Call → Call → Prop
  | whole
      {tokens tokens' : List Token}
      (lists : List.Forall₂ R tokens tokens') :
      CallsMatch R (.whole tokens) (.whole tokens')
  | reading
      (nonterminal : Nonterminal)
      {nesting nesting' : Nesting}
      {tokens tokens' : List Token}
      (nestings : NestingsMatch R nesting nesting')
      (lists : List.Forall₂ R tokens tokens') :
      CallsMatch R (.reading nonterminal nesting tokens) (.reading nonterminal nesting' tokens')
  | naming
      {nesting nesting' : Nesting}
      {word word' : Token}
      {tokens tokens' : List Token}
      (nestings : NestingsMatch R nesting nesting')
      (words : R word word')
      (isWord : word.kind = .identifier)
      (lists : List.Forall₂ R tokens tokens') :
      CallsMatch R (.naming nesting word tokens) (.naming nesting' word' tokens')
  | grouping
      {nesting nesting' : Nesting}
      {opener opener' : Token}
      (function : Option String)
      {tokens tokens' : List Token}
      (nestings : NestingsMatch R nesting nesting')
      (openers : R opener opener')
      (lists : List.Forall₂ R tokens tokens') :
      CallsMatch R (.grouping nesting opener function tokens)
        (.grouping nesting' opener' function tokens')

variable {α : Type} [Elementary α] {old new : String} {R : Token → Token → Prop}
  {frame frame' : Frame} {nesting nesting' : Nesting} {token token' : Token}

section Tokens

variable {β β' : Type} {Results : β → β' → Prop}

/-- The same error is refused at tokens that correspond. -/
theorem related_refuse
    (error : ParseError)
    (tokens : R token token') :
    Related (FailuresMatch R) Results (refuse (error.about token))
      (refuse (error.about token')) :=
  .error (.grammar error tokens)

theorem isOperator_eq
    (corresponding : Corresponding old new R)
    (tokens : R token token')
    (symbols : List String) :
    token'.isOperator symbols = token.isOperator symbols := by
  rw [Token.isOperator, Token.isOperator, corresponding.kind tokens]
  by_cases isOperator : token.kind = .operator
  · rw [corresponding.text tokens (by rw [isOperator]; decide)]
  · rw [decide_eq_false isOperator, Bool.false_and, Bool.false_and]

theorem text_eq_of_isOperator
    (corresponding : Corresponding old new R)
    (tokens : R token token')
    {symbols : List String}
    (isOperator : token.isOperator symbols = true) :
    token'.text = token.text :=
  corresponding.text tokens (by rw [(isOperator_iff.mp isOperator).1]; decide)

/-- Nestings that match open a level, or refuse to, at tokens that correspond. -/
theorem related_descend
    (nestings : NestingsMatch R nesting nesting')
    (tokens : R token token') :
    Related (FailuresMatch R) (NestingsMatch R) (nesting.descend token)
      (nesting'.descend token') := by
  rw [Nesting.descend, Nesting.descend, nestings.depth]
  split
  · exact .ok ⟨nestings.openers, rfl⟩
  · exact related_refuse (.tooDeep token) tokens

theorem related_descendGroup
    (nestings : NestingsMatch R nesting nesting')
    (tokens : R token token') :
    Related (FailuresMatch R) (NestingsMatch R) (nesting.descendGroup token)
      (nesting'.descendGroup token') :=
  (related_descend nestings tokens).map fun _ _ inner =>
    ⟨.cons tokens nestings.openers, inner.depth⟩

end Tokens

/-- Calls that match come to the same within a budget. -/
def CallsAgree
    (α : Type)
    [Elementary α]
    (old new : String)
    (R : Token → Token → Prop)
    (frame frame' : Frame)
    (budget : Nat) : Prop :=
  ∀ ⦃call call' : Call⦄, CallsMatch R call call' →
    Related (FailuresMatch R) (ReadingsMatch old new R) (call.run (α := α) frame budget)
      (call'.run frame' budget)

section Productions

variable {budget : Nat} {tokens tokens' : List Token}

omit [Elementary α] in
theorem chain_cons
    (operand : Production α)
    (symbols : List String)
    (rounds : Nat)
    (left : Tree α)
    (token : Token)
    (rest : List Token) :
    chain operand symbols (rounds + 1) left (token :: rest) =
      if token.isOperator symbols then
        operand rest >>= fun (right, after) =>
          chain operand symbols rounds (.binary token.text left right) after
      else .ok (left, token :: rest) := by
  rw [chain]
  split
  · cases operand rest <;> rfl
  · rfl

/-- A loop over operands that come to the same comes to the same. -/
theorem related_chain
    (corresponding : Corresponding old new R)
    (calls : CallsAgree α old new R frame frame' budget)
    (precedence : Precedence)
    (nestings : NestingsMatch R nesting nesting')
    (rounds : Nat)
    (lists : List.Forall₂ R tokens tokens')
    (left : Tree α) :
    Related (FailuresMatch R) (ReadingsMatch old new R)
      (chain (production frame precedence.operand budget nesting) precedence.symbols rounds left
        tokens)
      (chain (production frame' precedence.operand budget nesting') precedence.symbols rounds
        (left.renamed old new) tokens') := by
  induction rounds generalizing tokens tokens' left with
  | zero => exact .ok ⟨rfl, lists⟩
  | succ rounds roundsHypothesis =>
      cases lists with
      | nil => exact .ok ⟨rfl, .nil⟩
      | @cons sign sign' rest rest' signs lists =>
          rw [chain_cons, chain_cons, isOperator_eq corresponding signs]
          split
          · next isSign =>
            refine (calls (.reading precedence.operand nestings lists)).bind ?_
            rintro ⟨right, after⟩ ⟨_, after'⟩ ⟨rfl, later⟩
            dsimp only
            rw [text_eq_of_isOperator corresponding signs isSign]
            exact roundsHypothesis later (.binary sign.text left right)
          · exact .ok ⟨rfl, .cons signs lists⟩

theorem related_level
    (corresponding : Corresponding old new R)
    (frames : FramesMatch old new R frame frame')
    (calls : CallsAgree α old new R frame frame' budget)
    (precedence : Precedence)
    (nestings : NestingsMatch R nesting nesting')
    (lists : List.Forall₂ R tokens tokens') :
    Related (FailuresMatch R) (ReadingsMatch old new R)
      (production (α := α) frame (.level precedence) (budget + 1) nesting tokens)
      (production frame' (.level precedence) (budget + 1) nesting' tokens') := by
  rw [production_level, production_level, frames.length]
  refine (calls (.reading precedence.operand nestings lists)).bind ?_
  rintro ⟨left, rest⟩ ⟨_, rest'⟩ ⟨rfl, later⟩
  exact related_chain corresponding calls precedence nestings frame.length later left

theorem related_unary
    (corresponding : Corresponding old new R)
    (calls : CallsAgree α old new R frame frame' budget)
    (nestings : NestingsMatch R nesting nesting')
    (lists : List.Forall₂ R tokens tokens') :
    Related (FailuresMatch R) (ReadingsMatch old new R)
      (unary (α := α) frame (budget + 1) nesting tokens)
      (unary frame' (budget + 1) nesting' tokens') := by
  have unsigned := calls (.reading .power nestings lists)
  cases lists with
  | nil => exact unsigned
  | @cons sign sign' rest rest' signs lists =>
      rw [unary, unary]
      dsimp only
      rw [isOperator_eq corresponding signs]
      split
      · next isSign =>
        refine (related_descend nestings signs).bind fun inner inner' nestings => ?_
        refine (calls (.reading .unary nestings lists)).bind ?_
        rintro ⟨operand, after⟩ ⟨_, after'⟩ ⟨rfl, later⟩
        refine .ok ⟨?_, later⟩
        rw [text_eq_of_isOperator corresponding signs isSign]
        split <;> rfl
      · exact unsigned

theorem related_power
    (corresponding : Corresponding old new R)
    (calls : CallsAgree α old new R frame frame' budget)
    (nestings : NestingsMatch R nesting nesting')
    (lists : List.Forall₂ R tokens tokens') :
    Related (FailuresMatch R) (ReadingsMatch old new R)
      (power (α := α) frame (budget + 1) nesting tokens)
      (power frame' (budget + 1) nesting' tokens') := by
  rw [power, power]
  refine (calls (.reading .primary nestings lists)).bind ?_
  rintro ⟨base, rest⟩ ⟨_, rest'⟩ ⟨rfl, later⟩
  cases later with
  | nil => exact .ok ⟨rfl, .nil⟩
  | cons carets later =>
      dsimp only
      rw [isOperator_eq corresponding carets]
      split
      · refine (related_descend nestings carets).bind fun inner inner' nestings => ?_
        refine (calls (.reading .unary nestings later)).bind ?_
        rintro ⟨exponent, left⟩ ⟨_, left'⟩ ⟨rfl, behind⟩
        exact .ok ⟨rfl, behind⟩
      · exact .ok ⟨rfl, .cons carets later⟩

/-- Input that ends where an operand should stand is refused at tokens that correspond. -/
theorem related_endError
    {β β' : Type}
    {Results : β → β' → Prop}
    (frames : FramesMatch old new R frame frame')
    (nestings : NestingsMatch R nesting nesting') :
    Related (FailuresMatch R) Results (refuse (nesting.endError frame.finish))
      (refuse (nesting'.endError frame'.finish)) := by
  obtain ⟨openers, depth⟩ := nesting
  obtain ⟨openers', depth'⟩ := nesting'
  cases (nestings.openers : List.Forall₂ R openers openers') with
  | nil => exact related_refuse (.missingOperand 0) frames.finish
  | cons innermost => exact related_refuse (.unclosed frame.finish) innermost

/-- A parenthesis that closes where an operand should stand is refused at tokens that correspond. -/
theorem related_closerError
    {β β' : Type}
    {Results : β → β' → Prop}
    (nestings : NestingsMatch R nesting nesting')
    (closers : R token token') :
    Related (FailuresMatch R) Results (refuse (nesting.closerError token))
      (refuse (nesting'.closerError token')) := by
  obtain ⟨openers, depth⟩ := nesting
  obtain ⟨openers', depth'⟩ := nesting'
  cases (nestings.openers : List.Forall₂ R openers openers') with
  | nil => exact related_refuse (.strayCloser token) closers
  | cons innermost => exact related_refuse (.emptyGroup token) closers

theorem related_primary
    (corresponding : Corresponding old new R)
    (frames : FramesMatch old new R frame frame')
    (calls : CallsAgree α old new R frame frame' budget)
    (nestings : NestingsMatch R nesting nesting')
    (lists : List.Forall₂ R tokens tokens') :
    Related (FailuresMatch R) (ReadingsMatch old new R)
      (primary (α := α) frame (budget + 1) nesting tokens)
      (primary frame' (budget + 1) nesting' tokens') := by
  cases lists with
  | nil => exact related_endError frames nestings
  | @cons token token' rest rest' heads lists =>
      rw [primary, primary]
      rw [corresponding.kind heads]
      cases isKind : token.kind with
      | number =>
          rw [corresponding.text heads (by rw [isKind]; decide)]
          dsimp only
          split
          · exact .ok ⟨rfl, lists⟩
          · exact .error (.unreadableNumber token.text)
      | identifier => exact calls (.naming nestings heads isKind lists)
      | opener => exact calls (.grouping none nestings heads lists)
      | closer => exact related_closerError nestings heads
      | operator | comma | finish => exact related_refuse (.notOperand token) heads

theorem related_named
    (corresponding : Corresponding old new R)
    (frames : FramesMatch old new R frame frame')
    (calls : CallsAgree α old new R frame frame' budget)
    (nestings : NestingsMatch R nesting nesting')
    (words : R token token')
    (isWord : token.kind = .identifier)
    (lists : List.Forall₂ R tokens tokens') :
    Related (FailuresMatch R) (ReadingsMatch old new R)
      (named (α := α) frame (budget + 1) nesting token tokens)
      (named frame' (budget + 1) nesting' token' tokens') := by
  simp only [named]
  rw [frames.variableName, frames.variableName']
  rcases corresponding.word words isWord with ⟨isOld, isNew⟩ | ⟨notOld, notNew, same⟩
  · -- No constant or function is called like a variable.
    rw [isOld, isNew, Constant.ofName?_eq_none corresponding.unreserved,
      Constant.ofName?_eq_none corresponding.unreserved',
      Function.ofName?_eq_none corresponding.unreserved,
      Function.ofName?_eq_none corresponding.unreserved']
    dsimp only
    rw [if_pos rfl, if_pos rfl]
    refine .ok ⟨?_, lists⟩
    rw [Tree.renamed, if_pos rfl]
  · rw [if_neg notOld, if_neg notNew, same]
    split
    · exact .ok ⟨rfl, lists⟩
    · split
      · cases lists with
        | nil => exact related_refuse (.notOpener token.text token) frames.finish
        | @cons opener opener' _ _ openers lists =>
            dsimp only
            rw [corresponding.kind openers]
            split
            · refine (calls (.grouping (some token.text) nestings openers lists)).bind ?_
              rintro ⟨argument, after⟩ ⟨_, after'⟩ ⟨rfl, later⟩
              exact .ok ⟨rfl, later⟩
            · exact related_refuse (.notOpener token.text opener) openers
      · exact related_refuse (.unknownIdentifier token) words

theorem related_group
    (corresponding : Corresponding old new R)
    (calls : CallsAgree α old new R frame frame' budget)
    (function : Option String)
    (nestings : NestingsMatch R nesting nesting')
    (openers : R token token')
    (lists : List.Forall₂ R tokens tokens') :
    Related (FailuresMatch R) (ReadingsMatch old new R)
      (group (α := α) frame (budget + 1) nesting token function tokens)
      (group frame' (budget + 1) nesting' token' function tokens') := by
  rw [Parser.group, Parser.group]
  refine (related_descendGroup nestings openers).bind fun inner inner' nestings => ?_
  refine (calls (.reading (.level .additive) nestings lists)).bind ?_
  rintro ⟨body, rest⟩ ⟨_, rest'⟩ ⟨rfl, later⟩
  cases later with
  | nil => exact related_refuse (.unclosed token) openers
  | @cons closer closer' _ _ closers later =>
      dsimp only
      rw [corresponding.kind closers]
      split
      · exact .ok ⟨rfl, later⟩
      · exact related_refuse (.notCloser function closer) closers

theorem related_complete
    (corresponding : Corresponding old new R)
    (frames : FramesMatch old new R frame frame')
    (calls : CallsAgree α old new R frame frame' budget)
    (lists : List.Forall₂ R tokens tokens') :
    Related (FailuresMatch R) (fun tree tree' => tree' = tree.renamed old new)
      (complete (α := α) frame (budget + 1) tokens)
      (complete frame' (budget + 1) tokens') := by
  rw [complete, complete]
  cases lists with
  | nil => exact related_refuse (.emptySource 0) frames.finish
  | cons heads lists =>
      refine (calls (.reading (.level .additive) ⟨.nil, rfl⟩ (.cons heads lists))).bind ?_
      rintro ⟨tree, rest⟩ ⟨_, rest'⟩ ⟨rfl, later⟩
      cases later with
      | nil => exact .ok rfl
      | @cons token token' _ _ tokens =>
          dsimp only
          rw [corresponding.kind tokens]
          split
          · exact related_refuse (.strayCloser token) tokens
          · exact related_refuse (.trailing token) tokens

end Productions

/-- One more production comes to the same when the calls that it makes do. -/
theorem callsAgree_succ
    (corresponding : Corresponding old new R)
    (frames : FramesMatch old new R frame frame')
    {budget : Nat}
    (calls : CallsAgree α old new R frame frame' budget) :
    CallsAgree α old new R frame frame' (budget + 1) := by
  intro call call' matching
  cases matching with
  | whole lists =>
      exact (related_complete corresponding frames calls lists).map fun _ _ same => ⟨same, .nil⟩
  | reading nonterminal nestings lists =>
      cases nonterminal with
      | level precedence =>
          exact related_level corresponding frames calls precedence nestings lists
      | unary => exact related_unary corresponding calls nestings lists
      | power => exact related_power corresponding calls nestings lists
      | primary => exact related_primary corresponding frames calls nestings lists
  | naming nestings words isWord lists =>
      exact related_named corresponding frames calls nestings words isWord lists
  | grouping function nestings openers lists =>
      exact related_group corresponding calls function nestings openers lists

/-- Productions come to the same on tokens that correspond. -/
theorem callsAgree
    (corresponding : Corresponding old new R)
    (frames : FramesMatch old new R frame frame')
    (budget : Nat) :
    CallsAgree α old new R frame frame' budget := by
  induction budget with
  | zero =>
      intro call call' _
      rw [call.run_zero, call'.run_zero]
      exact .error .exhausted
  | succ budget budgetHypothesis => exact callsAgree_succ corresponding frames budgetHypothesis

/-- Among tokens that correspond to words there is no end of input. -/
theorem kind_ne_finish
    (corresponding : Corresponding old new R)
    {words words' : List Token}
    (others : ∀ word ∈ words, word.kind ≠ .finish)
    (lists : List.Forall₂ R words words') :
    ∀ word' ∈ words', word'.kind ≠ .finish := by
  induction lists with
  | nil => exact nofun
  | cons heads _ listsHypothesis =>
      rw [List.forall_mem_cons] at others ⊢
      rw [corresponding.kind heads]
      exact ⟨others.1, listsHypothesis others.2⟩

/-- Tokens that correspond up to the first end of input are read as trees that differ in the name of
the variable, or refused for one error at tokens that correspond, whatever stands behind. -/
theorem related_parse_append
    (corresponding : Corresponding old new R)
    {words words' : List Token}
    (others : ∀ word ∈ words, word.kind ≠ .finish)
    (lists : List.Forall₂ R words words')
    {finish finish' : Token}
    (isEnd : finish.kind = .finish)
    (ends : R finish finish')
    {after after' : List Token}
    {last last' : Token}
    (lastly : (words ++ finish :: after).getLast? = some last)
    (isFinish : last.kind = .finish)
    (lastly' : (words' ++ finish' :: after').getLast? = some last')
    (isFinish' : last'.kind = .finish) :
    Related (FailuresMatch R) (fun tree tree' => tree' = tree.renamed old new)
      (parse (α := α) old (words ++ finish :: after))
      (parse new (words' ++ finish' :: after')) := by
  have isEnd' : finish'.kind = .finish := (corresponding.kind ends).trans isEnd
  have others' := kind_ne_finish corresponding others lists
  rw [parse_append_finish others isEnd lastly isFinish,
    parse_append_finish others' isEnd' lastly' isFinish']
  have frames : FramesMatch old new R ⟨old, finish, words.length⟩ ⟨new, finish', words'.length⟩ :=
    ⟨rfl, rfl, ends, lists.length_eq.symm⟩
  exact related_complete corresponding frames (callsAgree corresponding frames _) lists

/-- The same for tokens that have no end of input but the last. -/
theorem related_parse
    (corresponding : Corresponding old new R)
    {words words' : List Token}
    (others : ∀ word ∈ words, word.kind ≠ .finish)
    (lists : List.Forall₂ R words words')
    {finish finish' : Token}
    (isFinish : finish.kind = .finish)
    (ends : R finish finish') :
    Related (FailuresMatch R) (fun tree tree' => tree' = tree.renamed old new)
      (parse (α := α) old (words ++ [finish])) (parse new (words' ++ [finish'])) :=
  related_parse_append corresponding others lists isFinish ends List.getLast?_concat isFinish
    List.getLast?_concat ((corresponding.kind ends).trans isFinish)

end Parser

end Calculator
