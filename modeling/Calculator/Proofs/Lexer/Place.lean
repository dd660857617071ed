import Calculator.Proofs.Lexer.Reading

/-!
# The places of tokens

The tokens of a source stand in it one after the other, with nothing but blanks
between them, and each is as long as it can be. A source has no tokens exactly where
an obstacle stands behind a lexeme or a blank, and the error shows its character.
-/

namespace Calculator
namespace Lexer

/-- The texts of the kinds of words. -/
def HasForm : Token.Kind → List Char → Prop
  | .number, text => IsNumeral text
  | .identifier, text => text ≠ [] ∧ ∀ c ∈ text, isLetter c = true
  | kind, text => ∃ sign ∈ signs kind, text = [sign]

/-- A word stands in a source at its position, and goes no further than it can. -/
structure StandsAt (source : List Char) (word : Token) (before after : List Char) : Prop where
  split : source = before ++ word.text.toList ++ after
  position : word.position = before.length
  nonempty : word.text ≠ ""
  form : HasForm word.kind word.text.toList
  letterEnds : word.kind = .identifier → ∀ c ∈ after.head?, isLetter c = false
  digitEnds : word.kind = .number → ∀ c ∈ after.head?, Digit.isAscii c = false

/-- The words that stand in a source, with nothing but blanks around them. -/
structure Covers (words : List Token) (source : List Char) : Prop where
  place : ∀ word ∈ words, ∃ before after, StandsAt source word before after
  ordered : words.Pairwise fun left right =>
    left.position + (left.text.length : Int) ≤ right.position
  blanks : ∀ (index : Nat) (c : Char), source[index]? = some c →
    (∀ word ∈ words,
      index < word.position ∨ word.position + (word.text.length : Int) ≤ index) →
    isBlank c = true

/-! ## Places in a reading -/

/-- A lexeme has the form of its kind. -/
theorem Lexeme.hasForm
    {kind : Token.Kind}
    {taken rest : List Char}
    (standing : Lexeme kind taken rest) :
    HasForm kind taken := by
  cases standing with
  | number isMantissa ends isExponent longest => exact ⟨_, _, isMantissa, isExponent, rfl⟩
  | identifier allLetters nonempty ends => exact ⟨nonempty, allLetters⟩
  | sign isSign =>
      cases kind with
      | number => cases isSign
      | identifier => cases isSign
      | _ => exact ⟨_, isSign, rfl⟩

theorem Lexeme.letter_ends
    {taken rest : List Char}
    (standing : Lexeme .identifier taken rest) :
    ∀ c ∈ rest.head?, isLetter c = false := by
  cases standing with
  | identifier allLetters nonempty ends => exact ends
  | sign isSign => cases isSign

theorem Lexeme.digit_ends
    {taken rest : List Char}
    (standing : Lexeme .number taken rest) :
    ∀ c ∈ rest.head?, Digit.isAscii c = false := by
  cases standing with
  | number isMantissa ends isExponent longest =>
      rename_i mantissa exponent
      cases exponent with
      | nil =>
          intro c first
          have outside : isNumeral c = false := ends c first
          simp only [isNumeral, Bool.or_eq_false_iff] at outside
          exact outside.1
      | cons mark exponent =>
          exact isExponent.not_digit_after (List.cons_ne_nil mark exponent) longest
  | sign isSign => cases isSign

/-- Every word of a reading stands in the source, behind what was read before. -/
theorem Reading.exists_place
    {stop position : Nat}
    {after text : List Char}
    {words : List Token}
    (reading : Reading stop after position text words)
    (front : List Char)
    (behind : position = front.length)
    {word : Token}
    (present : word ∈ words) :
    ∃ before rest, front <+: before ∧ StandsAt (front ++ text) word before rest := by
  induction reading generalizing front with
  | done => cases present
  | @blank position c text words blank _ readingHypothesis =>
      obtain ⟨before, rest, longer, stands⟩ :=
        readingHypothesis (front ++ [c]) (by simp [behind]) present
      rw [List.append_assoc] at stands
      exact ⟨before, rest, (List.prefix_append front [c]).trans longer, stands⟩
  | @token position kind taken text words standing _ readingHypothesis =>
      rcases List.mem_cons.mp present with rfl | later
      · subst behind
        obtain ⟨c, tail, filled, -⟩ := standing.exists_cons
        refine ⟨front, text, List.prefix_refl front, by simp, rfl, by simp [filled],
          by simpa using standing.hasForm, ?_, ?_⟩
        · rintro ⟨⟩
          exact standing.letter_ends
        · rintro ⟨⟩
          exact standing.digit_ends
      · obtain ⟨before, rest, longer, stands⟩ :=
          readingHypothesis (front ++ taken) (by simp [behind]) later
        rw [List.append_assoc] at stands
        exact ⟨before, rest, (List.prefix_append front taken).trans longer, stands⟩

theorem Reading.position_le
    {stop position : Nat}
    {after text : List Char}
    {words : List Token}
    (reading : Reading stop after position text words)
    {word : Token}
    (present : word ∈ words) :
    (position : Int) ≤ word.position := by
  obtain ⟨before, rest, longer, stands⟩ :=
    reading.exists_place (List.replicate position ' ') (by simp) present
  have bounded := longer.length_le
  rw [List.length_replicate] at bounded
  rw [stands.position]
  exact Int.ofNat_le.mpr bounded

/-- The words of a reading come one after the other. -/
theorem Reading.ordered
    {stop position : Nat}
    {after text : List Char}
    {words : List Token}
    (reading : Reading stop after position text words) :
    words.Pairwise fun left right =>
      left.position + (left.text.length : Int) ≤ right.position := by
  induction reading with
  | done => exact .nil
  | blank blank _ readingHypothesis => exact readingHypothesis
  | token standing reading readingHypothesis =>
      refine .cons ?_ readingHypothesis
      intro later present
      have bounded := reading.position_le present
      simpa using bounded

/-- What a reading has passed over is blank, except for the words that it takes. -/
theorem Reading.isBlank_of_outside
    {stop position : Nat}
    {text : List Char}
    {words : List Token}
    (reading : Reading stop [] position text words)
    (index : Nat)
    {c : Char}
    (stands : text[index]? = some c)
    (outside : ∀ word ∈ words, (position + index : Int) < word.position ∨
      word.position + (word.text.length : Int) ≤ position + index) :
    isBlank c = true := by
  induction reading generalizing index with
  | done => cases stands
  | @blank position d text words blank _ readingHypothesis =>
      cases index with
      | zero =>
          cases stands
          exact blank
      | succ index =>
          refine readingHypothesis index stands fun word present => ?_
          have apart := outside word present
          push_cast at apart ⊢
          omega
  | @token position kind taken text words standing _ readingHypothesis =>
      have apart := outside _ List.mem_cons_self
      simp only [String.length_ofList] at apart
      rw [List.getElem?_append_right (by omega)] at stands
      refine readingHypothesis (index - taken.length) stands fun word present => ?_
      have apart := outside word (List.mem_cons_of_mem _ present)
      omega

/-- A reading goes through the text up to where it stops. -/
theorem Reading.exists_front
    {stop position : Nat}
    {after text : List Char}
    {words : List Token}
    (reading : Reading stop after position text words) :
    ∃ front, text = front ++ after ∧ stop = position + front.length := by
  induction reading with
  | done => exact ⟨[], rfl, rfl⟩
  | blank blank _ readingHypothesis =>
      obtain ⟨front, rfl, reached⟩ := readingHypothesis
      refine ⟨_ :: front, rfl, ?_⟩
      rw [reached, List.length_cons]
      omega
  | token standing _ readingHypothesis =>
      obtain ⟨front, rfl, reached⟩ := readingHypothesis
      refine ⟨_ ++ front, (List.append_assoc _ _ _).symm, ?_⟩
      rw [reached, List.length_append]
      omega

/-- The words of a reading to the end cover the source. -/
theorem Reading.covers
    {stop : Nat}
    {source : List Char}
    {words : List Token}
    (reading : Reading stop [] 0 source words) :
    Covers words source where
  place := by
    intro word present
    obtain ⟨before, after, -, stands⟩ := reading.exists_place [] rfl present
    exact ⟨before, after, stands⟩
  ordered := reading.ordered
  blanks := by
    intro index c stands outside
    refine reading.isBlank_of_outside index stands fun word present => ?_
    simpa using outside word present

/-! ## Obstacles -/

/-- The character of an obstacle stands at the position of its error. -/
theorem Obstacle.character_at
    {position : Nat}
    {text : List Char}
    {error : LexicalError}
    (obstacle : Obstacle position text error) :
    ∃ offset, error.position = position + offset ∧ text[offset]? = some error.character := by
  have whole : text.takeWhile isNumeral ++ text.dropWhile isNumeral = text :=
    List.takeWhile_append_dropWhile
  cases obstacle with
  | unrecognized notBlank notNumeral notLetter notSign => exact ⟨0, rfl, rfl⟩
  | @secondPoint _ before after run onePoint =>
      refine ⟨before.length, rfl, ?_⟩
      rw [← whole, run]
      simp [LexicalError.character]
  | lonePoint run =>
      refine ⟨0, rfl, ?_⟩
      rw [← whole, run]
      rfl

/-- The tokens of a source are words that cover it and then the end of input. -/
theorem exists_covers
    {source : String}
    {tokens : List Token}
    (scanned : Lexer.tokens source = .ok tokens) :
    ∃ words, tokens = words ++ [Token.finish source.length] ∧ Covers words source.toList := by
  obtain ⟨words, stop, reading, rfl⟩ := scan_eq_ok_iff.mp scanned
  obtain ⟨front, same, reached⟩ := reading.exists_front
  have length : stop = source.length := by
    rw [reached, ← String.length_toList, same]
    simp
  exact ⟨words, by rw [length], reading.covers⟩

/-- The words of a source have the forms of their kinds. -/
theorem Covers.hasForm
    {words : List Token}
    {source : List Char}
    (covers : Covers words source)
    {word : Token}
    (present : word ∈ words) :
    HasForm word.kind word.text.toList := by
  obtain ⟨before, after, stands⟩ := covers.place word present
  exact stands.form

/-- The text of a token stands in a source at its position. -/
def Occurs (source : List Char) (token : Token) : Prop :=
  ∃ before after, source = before ++ token.text.toList ++ after ∧
    token.position = before.length

theorem Covers.occurs
    {words : List Token}
    {source : List Char}
    (covers : Covers words source)
    {word : Token}
    (present : word ∈ words) :
    Occurs source word := by
  obtain ⟨before, after, stands⟩ := covers.place word present
  exact ⟨before, after, stands.split, stands.position⟩

theorem occurs_finish (source : String) :
    Occurs source.toList (Token.finish source.length) :=
  ⟨source.toList, [], by simp [Token.finish], by rw [String.length_toList]; rfl⟩

/-- The end of input is no word. -/
theorem Covers.kind_ne
    {words : List Token}
    {source : List Char}
    (covers : Covers words source)
    {word : Token}
    (present : word ∈ words) :
    word.kind ≠ .finish := by
  intro isFinish
  have form := covers.hasForm present
  rw [isFinish] at form
  obtain ⟨sign, isSign, -⟩ := form
  cases isSign

/-- The character that an error shows stands in the source at its position. -/
theorem character_at_error
    {source : String}
    {error : LexicalError}
    (refused : Lexer.tokens source = .error error) :
    source.toList[error.position]? = some error.character := by
  obtain ⟨words, boundary, rest, reading, obstacle⟩ := scan_eq_error_iff.mp refused
  obtain ⟨front, same, reached⟩ := reading.exists_front
  obtain ⟨offset, place, character⟩ := obstacle.character_at
  rw [same, place, reached, Nat.zero_add, List.getElem?_append_right (Nat.le_add_right _ _),
    Nat.add_sub_cancel_left]
  exact character

theorem position_lt_of_error
    {source : String}
    {error : LexicalError}
    (refused : Lexer.tokens source = .error error) :
    error.position < source.length := by
  obtain ⟨within, -⟩ := List.getElem?_eq_some_iff.mp (character_at_error refused)
  rwa [String.length_toList] at within

/-- A source has tokens or an error. The tokens are words that cover the source and
then the end of input. The error is that of an obstacle at which a reading of the
source stops, and it shows a character of the source with its position. -/
theorem tokens_places_or_obstacle (source : String) :
    ((∃ tokens, Lexer.tokens source = .ok tokens) ∨
        ∃ error, Lexer.tokens source = .error error) ∧
      (∀ tokens, Lexer.tokens source = .ok tokens →
        ∃ words, tokens = words ++ [Token.finish source.length] ∧
          (∀ word ∈ words, word.kind ≠ .finish) ∧ Covers words source.toList) ∧
      (∀ error, Lexer.tokens source = .error error ↔
        ∃ words boundary rest, Reading boundary rest 0 source.toList words ∧
          Obstacle boundary rest error) ∧
      ∀ error, Lexer.tokens source = .error error →
        error.position < source.length ∧
          source.toList[error.position]? = some error.character := by
  refine ⟨?_, ?_, fun error => scan_eq_error_iff, ?_⟩
  · cases Lexer.tokens source with
    | ok tokens => exact Or.inl ⟨tokens, rfl⟩
    | error error => exact Or.inr ⟨error, rfl⟩
  · intro tokens scanned
    obtain ⟨words, same, covers⟩ := exists_covers scanned
    exact ⟨words, same, fun word present => covers.kind_ne present, covers⟩
  · exact fun error refused => ⟨position_lt_of_error refused, character_at_error refused⟩

/-- A number may begin at the point where another ends. -/
example : Lexer.tokens "1e5.5" =
    .ok [⟨.number, "1e5", 0⟩, ⟨.number, ".5", 3⟩, .finish 5] := rfl

end Lexer
end Calculator
