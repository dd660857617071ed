import Calculator.Proofs.Lexer.Place

/-!
# The tokens of a source

The tokens of a source are words and then the end of input, which comes nowhere
else. The texts of the numbers among the words are numerals.
-/

namespace Calculator
namespace Lexer

/-- A token that a scan takes from the text. -/
def IsWord (token : Token) : Prop :=
  token.kind ≠ .finish ∧ (token.kind = .number → IsNumeral token.text.toList)

/-- What covers a source are words. -/
theorem Covers.isWord
    {words : List Token}
    {source : List Char}
    (covers : Covers words source)
    {word : Token}
    (present : word ∈ words) :
    IsWord word := by
  refine ⟨covers.kind_ne present, ?_⟩
  intro isNumber
  have form := covers.hasForm present
  rw [isNumber] at form
  exact form

/-- The tokens of a source are words before the end of input. -/
theorem exists_words
    {source : String}
    {tokens : List Token}
    (scanned : Lexer.tokens source = .ok tokens) :
    ∃ words last,
      tokens = words ++ [Token.finish last] ∧ ∀ word ∈ words, IsWord word := by
  obtain ⟨words, rfl, covers⟩ := exists_covers scanned
  exact ⟨words, _, rfl, fun word present => covers.isWord present⟩

end Lexer
end Calculator
