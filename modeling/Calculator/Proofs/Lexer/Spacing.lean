import Calculator.Proofs.Lexer.TokenList

/-!
# Texts with white space between them

The texts of the tokens of a source, written again with white space between them, are scanned as
tokens of the same kinds and texts. What a number or a word might absorb behind it is cut off by the
white space, and nothing shorter would have been taken from the source.
-/

namespace Calculator

/-- What a token is, wherever it stands. -/
def Token.content (token : Token) : Token.Kind × String :=
  (token.kind, token.text)

namespace Lexer

/-- A text of nothing but white space. -/
def AllBlank (text : List Char) : Prop :=
  ∀ c ∈ text, isBlank c = true

/-- Texts one after the other, each with white space behind it. There is some between two texts. -/
inductive Spaced : List String → List Char → Prop
  | done : Spaced [] []
  | text
      {text : String}
      {gap rest : List Char}
      {texts : List String}
      (blank : AllBlank gap)
      (apart : texts ≠ [] → gap ≠ [])
      (spaced : Spaced texts rest) :
      Spaced (text :: texts) (text.toList ++ (gap ++ rest))

/-- A source is written again as the texts of its tokens, with white space around them. -/
def Respaces (tokens : List Token) (respaced : String) : Prop :=
  ∃ lead body, respaced.toList = lead ++ body ∧ AllBlank lead ∧
    Spaced ((tokens.filter (·.kind ≠ .finish)).map Token.text) body

/-! ## Lexemes before white space -/

theorem not_isBlank_of_isAscii {c : Char} (digit : Digit.isAscii c = true) : isBlank c = false :=
  not_isBlank_of_isNumeral (isNumeral_of_isAscii digit)

/-- No white space stands in an exponent. -/
theorem IsExponent.not_isBlank
    {exponent : List Char}
    (isExponent : IsExponent exponent)
    {c : Char}
    (present : c ∈ exponent) :
    isBlank c = false := by
  have mark_apart {mark : Char} (isMark : mark = 'e' ∨ mark = 'E') : isBlank mark = false := by
    rcases isMark with rfl | rfl <;> decide
  have sign_apart {sign : Char} (isSign : sign = '+' ∨ sign = '-') : isBlank sign = false := by
    rcases isSign with rfl | rfl <;> decide
  cases isExponent with
  | absent => cases present
  | plain isMark allDigits nonempty =>
      rcases List.mem_cons.mp present with rfl | digit
      · exact mark_apart isMark
      · exact not_isBlank_of_isAscii (allDigits c digit)
  | signed isMark isSign allDigits nonempty =>
      rcases List.mem_cons.mp present with rfl | present
      · exact mark_apart isMark
      rcases List.mem_cons.mp present with rfl | digit
      · exact sign_apart isSign
      · exact not_isBlank_of_isAscii (allDigits c digit)

/-- White space ends an exponent. -/
theorem IsExponent.length_le_of_blank
    {exponent other rest : List Char}
    (isOther : IsExponent other)
    (blank : ∀ c ∈ rest.head?, isBlank c = true)
    (stands : other <+: exponent ++ rest) :
    other.length ≤ exponent.length := by
  refine Nat.le_of_not_lt fun longer => ?_
  cases rest with
  | nil =>
      rw [List.append_nil] at stands
      exact Nat.not_le_of_lt longer stands.length_le
  | cons c rest =>
      have reached : exponent ++ [c] <+: exponent ++ c :: rest :=
        (List.prefix_append_right_inj exponent).mpr (List.prefix_append [c] rest)
      have inside : exponent ++ [c] <+: other :=
        List.prefix_of_prefix_length_le reached stands (by simpa using Nat.succ_le_of_lt longer)
      have present : c ∈ other := inside.subset (by simp)
      exact absurd ((isOther.not_isBlank present).symm.trans (blank c rfl)) Bool.false_ne_true

/-- A text of the form of a kind is a lexeme before white space. -/
theorem HasForm.lexeme
    {kind : Token.Kind}
    {text rest : List Char}
    (form : HasForm kind text)
    (blank : ∀ c ∈ rest.head?, isBlank c = true) :
    Lexeme kind text rest := by
  have notBlank {c : Char} (other : isBlank c = false) (first : c ∈ rest.head?) : False := by
    rw [blank c first] at other
    cases other
  cases kind with
  | number =>
      obtain ⟨mantissa, exponent, isMantissa, isExponent, rfl⟩ := form
      refine .number isMantissa ?_ isExponent fun other isOther stands =>
        isOther.length_le_of_blank blank stands
      intro c first
      cases exponent with
      | nil =>
          rw [← Bool.not_eq_true]
          exact fun numeral => notBlank (not_isBlank_of_isNumeral numeral) first
      | cons mark exponent =>
          obtain ⟨noDigit, noPoint⟩ := isExponent.head_not_digit c first
          simp [isNumeral, noDigit, noPoint]
  | identifier =>
      obtain ⟨nonempty, allLetters⟩ := form
      refine .identifier allLetters nonempty fun c first => ?_
      rw [← Bool.not_eq_true]
      exact fun letter => notBlank (not_isBlank_of_isLetter letter) first
  | operator | opener | closer | comma | finish =>
      obtain ⟨sign, isSign, rfl⟩ := form
      exact .sign isSign

/-! ## Readings of what is written again -/

/-- White space is passed over. -/
theorem Reading.of_blanks
    {stop position : Nat}
    {after gap rest : List Char}
    {words : List Token}
    (blank : AllBlank gap)
    (reading : Reading stop after (position + gap.length) rest words) :
    Reading stop after position (gap ++ rest) words := by
  induction gap generalizing position with
  | nil => exact reading
  | cons c gap gapHypothesis =>
      refine .blank (blank c List.mem_cons_self) (gapHypothesis ?_ ?_)
      · exact fun d present => blank d (List.mem_cons_of_mem c present)
      · rwa [List.length_cons, Nat.add_comm gap.length, ← Nat.add_assoc] at reading

/-- Behind a text stands white space or nothing. -/
theorem Spaced.blank_head
    {gap rest : List Char}
    {texts : List String}
    (spaced : Spaced texts rest)
    (blank : AllBlank gap)
    (apart : texts ≠ [] → gap ≠ []) :
    ∀ c ∈ (gap ++ rest).head?, isBlank c = true := by
  cases gap with
  | cons d gap =>
      rintro c ⟨⟩
      exact blank d List.mem_cons_self
  | nil =>
      cases spaced with
      | done => exact nofun
      | text => exact absurd rfl (apart (List.cons_ne_nil _ _))

/-- Words are read again from their texts with white space between them. -/
theorem Spaced.exists_reading
    {body : List Char}
    {words : List Token}
    (spaced : Spaced (words.map Token.text) body)
    (forms : ∀ word ∈ words, HasForm word.kind word.text.toList)
    (position : Nat) :
    ∃ others stop, Reading stop [] position body others ∧
      others.map Token.content = words.map Token.content := by
  induction words generalizing body position with
  | nil =>
      cases spaced
      exact ⟨[], position, .done, rfl⟩
  | cons word words wordsHypothesis =>
      rw [List.forall_mem_cons] at forms
      cases spaced with
      | @text _ gap rest _ blank apart spaced =>
          have standing := forms.1.lexeme (spaced.blank_head blank apart)
          obtain ⟨others, stop, reading, same⟩ :=
            wordsHypothesis spaced forms.2 (position + word.text.toList.length + gap.length)
          refine ⟨_, stop, .token standing (reading.of_blanks blank), ?_⟩
          rw [List.map_cons, List.map_cons, same]
          simp [Token.content]

/-- The tokens of a source that is written again have the kinds and texts of the tokens it was
written from. -/
theorem tokens_of_respaces
    {source respaced : String}
    {tokens : List Token}
    (scanned : Lexer.tokens source = .ok tokens)
    (respaces : Respaces tokens respaced) :
    ∃ others, Lexer.tokens respaced = .ok others ∧
      others.map Token.content = tokens.map Token.content := by
  obtain ⟨words, rfl, covers⟩ := exists_covers scanned
  obtain ⟨lead, body, split, blank, spaced⟩ := respaces
  have isWords : (words ++ [Token.finish source.length]).filter (·.kind ≠ .finish) = words := by
    have others : ∀ word ∈ words, decide (word.kind ≠ .finish) = true :=
      fun word present => decide_eq_true (covers.kind_ne present)
    rw [List.filter_append, List.filter_eq_self.mpr others]
    exact List.append_nil words
  rw [isWords] at spaced
  obtain ⟨others, stop, reading, same⟩ :=
    spaced.exists_reading (fun word present => covers.hasForm present) (0 + lead.length)
  refine ⟨others ++ [Token.finish stop], ?_, ?_⟩
  · rw [Lexer.tokens, split]
    exact scan_eq_ok_iff.mpr ⟨others, stop, reading.of_blanks blank, rfl⟩
  · rw [List.map_append, List.map_append, same]
    rfl

end Lexer

end Calculator
