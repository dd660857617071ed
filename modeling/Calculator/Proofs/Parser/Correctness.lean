import Calculator.Expression.Basic
import Calculator.Proofs.Grammar.Unambiguity
import Calculator.Proofs.Lexer.TokenList
import Calculator.Proofs.Parser.Completeness
import Calculator.Proofs.Parser.Soundness

/-!
# The parser reads the grammar

The tokens of a source have a tree in a usable variable if and only if they have
a derivation within the limit on nesting. The tree is that of the derivation, and
there is only one.
-/

namespace Calculator
namespace Parser

open Grammar

variable {α : Type} [Elementary α] {frame : Frame}

theorem readable_of_areWords
    {words : List Token}
    (areWords : ∀ word ∈ words, Lexer.IsWord word) :
    Readable α words :=
  fun word present isNumber => (areWords word present).2 isNumber |>.isSome_read?

/-- Whatever is read from the whole of the tokens has a derivation. -/
theorem exists_derivation_of_complete
    {tokens : List Token}
    {tree : Tree α}
    (read : complete frame activeLimit tokens = .ok tree) :
    ∃ derivation : Derivation frame.variableName (.level .additive),
      derivation.yield = tokens ∧ derivation.nesting ≤ nestingLimit ∧
        derivation.tree = tree := by
  rw [activeLimit, complete] at read
  split at read
  · cases read
  obtain ⟨⟨readTree, rest⟩, readAll, ended⟩ := Outcome.bind_eq_ok_iff.mp read
  cases rest with
  | cons token rest => cases ended
  | nil =>
      cases ended
      obtain ⟨derivation, yields, same, deep⟩ :=
        sound_production frame (.level .additive) (7 * nestingLimit + 7) ⟨[], 0⟩
          (Nat.zero_le _) readAll
      rw [List.append_nil] at yields
      dsimp only at deep
      exact ⟨derivation, yields, by omega, same⟩

/-- The whole of the tokens of a derivation within the limit is read. -/
theorem complete_yield
    (frame : Frame)
    (unreserved : frame.variableName ∉ reservedNames)
    (derivation : Derivation frame.variableName (.level .additive))
    (readable : Readable α derivation.yield)
    (long : derivation.yield.length ≤ frame.length)
    (shallow : derivation.nesting ≤ nestingLimit) :
    complete frame activeLimit derivation.yield = .ok (derivation.tree (α := α)) := by
  have enough : demand (.level .additive) ⟨[], 0⟩ ≤ 7 * nestingLimit + 7 := by
    simp only [demand, reach]
    omega
  have read : additive frame (7 * nestingLimit + 7) ⟨[], 0⟩ (derivation.yield ++ []) =
      .ok (derivation.tree (α := α), []) :=
    production_yield unreserved derivation readable long
      (by dsimp only; omega) enough (stops_nil _)
  rw [List.append_nil] at read
  rw [activeLimit, complete, if_neg (by simpa using derivation.yield_ne_nil)]
  simp only [read, Outcome.ok_bind]
  rfl

/-- Before the end of input stand the words. -/
theorem parse_eq_complete
    {words : List Token}
    (areWords : ∀ word ∈ words, Lexer.IsWord word)
    (variableName : String)
    (last : Int) :
    parse (α := α) variableName (words ++ [Token.finish last]) =
      complete ⟨variableName, Token.finish last, words.length⟩ activeLimit words := by
  apply parse_append_finish
  · exact fun word present => (areWords word present).1
  · rfl
  · exact List.getLast?_concat
  · rfl

end Parser

namespace Expression

open Grammar

variable {α : Type} [Elementary α]

/-- A source whose tokens are not read has words that cover it, and they are refused. -/
theorem exists_refused_words
    {source variableName : String}
    {declared : Value}
    {failure : ParseFailure}
    (usable : Variable.check declared = .ok variableName)
    (failed : compile (α := α) source declared = .error (.parse failure)) :
    ∃ words, Lexer.tokens source = .ok (words ++ [Token.finish source.length]) ∧
      Lexer.Covers words source.toList ∧
      Parser.complete (α := α) ⟨variableName, Token.finish source.length, words.length⟩
        Parser.activeLimit words = .error failure := by
  rcases compile_eq_error_iff.mp failed with ⟨cause, -, other⟩ | ⟨tokens, scanned, stage⟩
  · cases other
  rcases stage with ⟨cause, -, other⟩ | ⟨name, checked, cause, refused, same⟩
  · cases other
  cases same
  rw [usable] at checked
  cases checked
  obtain ⟨words, rfl, covers⟩ := Lexer.exists_covers scanned
  refine ⟨words, scanned, covers, ?_⟩
  rwa [← Parser.parse_eq_complete fun word present => covers.isWord present]

/-- The tokens of a source have at most one derivation in a usable variable, and
they have a tree if and only if they have one within the limit on nesting, whose
tree it is. -/
theorem treeOfTokens_iff_derivation
    {source variableName : String}
    {declared : Value}
    {tokens : List Token}
    (scanned : Lexer.tokens source = .ok tokens)
    (usable : Variable.check declared = .ok variableName) :
    ∃ (words : List Token) (finish : Token),
      tokens = words ++ [finish] ∧ finish.kind = .finish ∧
        (∀ word ∈ words, word.kind ≠ .finish) ∧
        (∀ tree : Tree α,
          treeOfTokens declared tokens = .ok tree ↔
            ∃ derivation : Derivation variableName (.level .additive),
              derivation.yield = words ∧ derivation.nesting ≤ nestingLimit ∧
                derivation.tree = tree) ∧
        ∀ left right : Derivation variableName (.level .additive),
          left.yield = words → right.yield = words → left = right := by
  obtain ⟨words, last, rfl, areWords⟩ := Lexer.exists_words scanned
  obtain ⟨-, -, unreserved⟩ := Variable.check_eq_ok_iff.mp usable
  refine ⟨words, Token.finish last, rfl, rfl, fun word present => (areWords word present).1,
    ?_, ?_⟩
  · intro tree
    have parsed : treeOfTokens declared (words ++ [Token.finish last]) =
        (Parser.parse (α := α) variableName (words ++ [Token.finish last])).mapError .parse := by
      rw [treeOfTokens, usable]
      rfl
    rw [parsed, Outcome.mapError_eq_ok_iff, Parser.parse_eq_complete areWords]
    constructor
    · exact Parser.exists_derivation_of_complete
    · rintro ⟨derivation, rfl, shallow, rfl⟩
      exact Parser.complete_yield ⟨variableName, Token.finish last, derivation.yield.length⟩
        unreserved derivation (Parser.readable_of_areWords areWords) (Nat.le_refl _) shallow
  · intro left right leftYields rightYields
    exact left.eq_of_yield_eq unreserved right (leftYields.trans rightYields.symm)

/-- An exponent binds tighter than the sign before its base. -/
theorem treeOfTokens_opposite_of_power :
    ∃ tokens,
      Lexer.tokens "-x^x" = .ok tokens ∧
        Variable.check (.text "x") = .ok "x" ∧
        treeOfTokens (α := Float) (.text "x") tokens =
          .ok (.unary "-" (.binary "^" (.symbol "x") (.symbol "x"))) := by
  have scanned : Lexer.tokens "-x^x" =
      .ok [⟨.operator, "-", 0⟩, ⟨.identifier, "x", 1⟩, ⟨.operator, "^", 2⟩,
        ⟨.identifier, "x", 3⟩, .finish 4] := rfl
  have usable : Variable.check (.text "x") = .ok "x" := rfl
  refine ⟨_, scanned, usable, ?_⟩
  obtain ⟨words, finish, same, -, -, reads, -⟩ :=
    treeOfTokens_iff_derivation (α := Float) scanned usable
  let base : Derivation "x" .primary := .symbol ⟨⟨.identifier, "x", 1⟩, rfl⟩ rfl
  let exponent : Derivation "x" .primary := .symbol ⟨⟨.identifier, "x", 3⟩, rfl⟩ rfl
  let power : Derivation "x" .power :=
    .raised base ⟨⟨.operator, "^", 2⟩, rfl⟩ (.unsigned (.plain exponent))
  let opposite : Derivation "x" .unary :=
    .signed ⟨⟨.operator, "-", 0⟩, rfl⟩ (.unsigned power)
  have yields : words = opposite.yield := by
    have front := congrArg List.dropLast same
    rw [List.dropLast_concat] at front
    exact front.symm
  exact (reads _).mpr ⟨.chain (.chain opposite .done) .done, yields.symm, by decide, rfl⟩

end Expression
end Calculator
