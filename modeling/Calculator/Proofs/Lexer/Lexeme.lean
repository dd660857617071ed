import Calculator.Outcome
import Calculator.Proofs.Lexer.Numeral

/-!
# Lexemes and obstacles

What may stand at a place of a text as a token, and how far it reaches: a lexeme is
as long as it can be. A character that begins neither a blank nor a lexeme is an
obstacle, and so is a run of digits and points that writes no number.
-/

namespace Calculator
namespace Lexer

/-- The characters that are tokens of a kind by themselves. -/
def signs : Token.Kind → List Char
  | .operator => ['+', '-', '*', '/', '^']
  | .opener => ['(']
  | .closer => [')']
  | .comma => [',']
  | .number => []
  | .identifier => []
  | .finish => []

/-- A lexeme of a kind in front of the rest of a text. -/
inductive Lexeme : Token.Kind → List Char → List Char → Prop
  | number
      {mantissa exponent rest : List Char}
      (isMantissa : IsMantissa mantissa)
      (ends : ∀ c ∈ (exponent ++ rest).head?, isNumeral c = false)
      (isExponent : IsExponent exponent)
      (longest : ∀ other, IsExponent other → other <+: exponent ++ rest →
        other.length ≤ exponent.length) :
      Lexeme .number (mantissa ++ exponent) rest
  | identifier
      {letters rest : List Char}
      (allLetters : ∀ c ∈ letters, isLetter c = true)
      (nonempty : letters ≠ [])
      (ends : ∀ c ∈ rest.head?, isLetter c = false) :
      Lexeme .identifier letters rest
  | sign
      {kind : Token.Kind}
      {c : Char}
      {rest : List Char}
      (isSign : c ∈ signs kind) :
      Lexeme kind [c] rest

/-- What stands in the way at a place of a text, and the error it is reported by. -/
inductive Obstacle (position : Nat) : List Char → LexicalError → Prop
  | unrecognized
      {c : Char}
      {rest : List Char}
      (notBlank : isBlank c = false)
      (notNumeral : isNumeral c = false)
      (notLetter : isLetter c = false)
      (notSign : ∀ kind, c ∉ signs kind) :
      Obstacle position (c :: rest) (.unrecognized c position)
  | secondPoint
      {text before after : List Char}
      (run : text.takeWhile isNumeral = before ++ '.' :: after)
      (onePoint : before.count '.' = 1) :
      Obstacle position text (.secondPoint (position + before.length))
  | lonePoint
      {text : List Char}
      (run : text.takeWhile isNumeral = ['.']) :
      Obstacle position text (.lonePoint position)

/-! ## Signs -/

/-- The single characters are told apart by their kinds. -/
theorem singleKind?_eq_some_iff {c : Char} {kind : Token.Kind} :
    singleKind? c = some kind ↔ c ∈ signs kind := by
  by_cases operator : c ∈ ['+', '-', '*', '/', '^']
  · have single : singleKind? c = some .operator := by
      rw [singleKind?, if_pos (by simpa [or_assoc] using operator)]
    have other : c ≠ '(' ∧ c ≠ ')' ∧ c ≠ ',' := by
      refine ⟨?_, ?_, ?_⟩ <;> rintro rfl <;> revert operator <;> decide
    cases kind <;> simp [single, signs, operator, other]
  · rw [singleKind?, if_neg (by simpa [or_assoc] using operator)]
    by_cases opener : c = '('
    · subst opener
      cases kind <;> simp [signs]
    by_cases closer : c = ')'
    · subst closer
      cases kind <;> simp [signs]
    by_cases comma : c = ','
    · subst comma
      cases kind <;> simp [signs]
    · cases kind with
      | operator => simpa [signs, opener, closer, comma] using operator
      | _ => simp [signs, opener, closer, comma]

theorem singleKind?_eq_none_iff {c : Char} :
    singleKind? c = none ↔ ∀ kind, c ∉ signs kind := by
  rw [Option.eq_none_iff_forall_ne_some]
  exact forall_congr' fun kind => not_congr singleKind?_eq_some_iff

/-! ## Runs of digits and points -/

theorem head_dropWhile
    (inClass : Char → Bool)
    (text : List Char) :
    ∀ c ∈ (text.dropWhile inClass).head?, inClass c = false := by
  intro c first
  have stops := List.head?_dropWhile_not inClass text
  rw [Option.mem_def.mp first] at stops
  exact stops

/-- The reported offset is that of the second point of a run. -/
theorem secondPoint?_eq_some_iff
    {seen : Bool}
    {run : List Char}
    {offset : Nat} :
    secondPoint? seen run = some offset ↔
      ∃ before after, run = before ++ '.' :: after ∧
        before.count '.' + seen.toNat = 1 ∧ offset = before.length := by
  induction run generalizing seen offset with
  | nil => simp [secondPoint?]
  | cons c rest restHypothesis =>
      by_cases found : c = '.' ∧ seen = true
      · obtain ⟨rfl, rfl⟩ := found
        rw [secondPoint?, if_pos rfl, if_pos rfl]
        constructor
        · rintro ⟨⟩
          exact ⟨[], rest, rfl, rfl, rfl⟩
        · rintro ⟨before, after, same, counted, rfl⟩
          cases before with
          | nil => rfl
          | cons d before =>
              obtain ⟨rfl, -⟩ := List.cons.inj same
              simp at counted
      · have later : secondPoint? seen (c :: rest) =
            (secondPoint? (seen || c = '.') rest).map (· + 1) := by
          by_cases point : c = '.'
          · have notSeen : seen = false := by simpa [point] using found
            simp [secondPoint?, point, notSeen]
          · simp [secondPoint?, point]
        have counts (before : List Char) : (c :: before).count '.' + seen.toNat =
            before.count '.' + (seen || c = '.').toNat := by
          by_cases point : c = '.'
          · have notSeen : seen = false := by simpa [point] using found
            simp [point, notSeen]
          · simp [point]
        rw [later, Option.map_eq_some_iff]
        constructor
        · rintro ⟨smaller, restFound, rfl⟩
          obtain ⟨before, after, rfl, counted, rfl⟩ := restHypothesis.mp restFound
          exact ⟨c :: before, after, rfl, (counts before).trans counted, rfl⟩
        · rintro ⟨before, after, same, counted, rfl⟩
          cases before with
          | nil =>
              obtain ⟨rfl, -⟩ := List.cons.inj same
              exact absurd ⟨rfl, by simpa using counted⟩ found
          | cons d before =>
              obtain ⟨rfl, rfl⟩ := List.cons.inj same
              exact ⟨before.length,
                restHypothesis.mpr ⟨before, after, rfl, (counts before).symm.trans counted, rfl⟩,
                rfl⟩

theorem IsMantissa.secondPoint?_eq_none
    {text : List Char}
    (isMantissa : IsMantissa text) :
    secondPoint? false text = none := by
  have noPoint {digits : List Char} (allDigits : AllDigits digits) : digits.count '.' = 0 := by
    rw [List.count_eq_zero]
    intro point
    exact absurd (allDigits '.' point) (by decide)
  have count_le : text.count '.' ≤ 1 := by
    cases isMantissa with
    | whole allDigits nonempty => simp [noPoint allDigits]
    | pointed wholeDigits placesDigits nonempty =>
        simp [noPoint wholeDigits, noPoint placesDigits]
  rw [Option.eq_none_iff_forall_ne_some]
  intro offset found
  obtain ⟨before, after, rfl, counted, -⟩ := secondPoint?_eq_some_iff.mp found
  simp at counted count_le
  omega

theorem IsMantissa.ne_point {text : List Char} (isMantissa : IsMantissa text) : text ≠ ['.'] := by
  rintro rfl
  generalize same : ['.'] = text at isMantissa
  cases isMantissa with
  | whole allDigits nonempty =>
      exact absurd (allDigits '.' (by simp [← same])) (by decide)
  | pointed wholeDigits placesDigits nonempty =>
      have lengths := congrArg List.length same
      simp only [List.length_append, List.length_cons, List.length_nil] at lengths
      rcases nonempty with nonempty | nonempty
      · have positive := List.length_pos_iff.mpr nonempty
        omega
      · have positive := List.length_pos_iff.mpr nonempty
        omega

/-! ## Exponents -/

theorem exponentPart_isPrefix (text : List Char) : exponentPart text <+: text := by
  unfold exponentPart
  split
  · exact List.nil_prefix
  · split
    · split
      · exact List.nil_prefix
      · rename_i sign after
        split
        · split
          · exact List.nil_prefix
          · exact List.cons_prefix_cons.mpr ⟨rfl,
              List.cons_prefix_cons.mpr ⟨rfl, List.takeWhile_prefix Digit.isAscii⟩⟩
        · split
          · exact List.nil_prefix
          · exact List.cons_prefix_cons.mpr ⟨rfl, List.takeWhile_prefix Digit.isAscii⟩
    · exact List.nil_prefix

/-- An exponent without a sign is taken with all digits that follow. -/
theorem exponentPart_plain
    {mark : Char}
    {digits : List Char}
    (isMark : mark = 'e' ∨ mark = 'E')
    (allDigits : AllDigits digits)
    (nonempty : digits ≠ [])
    (rest : List Char) :
    exponentPart (mark :: (digits ++ rest)) =
      mark :: (digits ++ rest.takeWhile Digit.isAscii) := by
  obtain ⟨digit, others, rfl⟩ := List.exists_cons_of_ne_nil nonempty
  have notSign : ¬(digit = '+' ∨ digit = '-') := by
    rintro (rfl | rfl) <;> exact absurd (allDigits _ List.mem_cons_self) (by decide)
  have taken : ((digit :: others) ++ rest).takeWhile Digit.isAscii =
      (digit :: others) ++ rest.takeWhile Digit.isAscii :=
    List.takeWhile_append_of_pos allDigits
  rw [List.cons_append] at taken ⊢
  simp [exponentPart, isMark, notSign, taken]

/-- An exponent with a sign is taken with all digits that follow. -/
theorem exponentPart_signed
    {mark sign : Char}
    {digits : List Char}
    (isMark : mark = 'e' ∨ mark = 'E')
    (isSign : sign = '+' ∨ sign = '-')
    (allDigits : AllDigits digits)
    (nonempty : digits ≠ [])
    (rest : List Char) :
    exponentPart (mark :: sign :: (digits ++ rest)) =
      mark :: sign :: (digits ++ rest.takeWhile Digit.isAscii) := by
  obtain ⟨digit, others, rfl⟩ := List.exists_cons_of_ne_nil nonempty
  have taken : ((digit :: others) ++ rest).takeWhile Digit.isAscii =
      (digit :: others) ++ rest.takeWhile Digit.isAscii :=
    List.takeWhile_append_of_pos allDigits
  rw [List.cons_append] at taken ⊢
  simp [exponentPart, isMark, isSign, taken]

/-- The exponent that is taken is the longest one that stands there. -/
theorem length_le_exponentPart
    {exponent text : List Char}
    (isExponent : IsExponent exponent)
    (stands : exponent <+: text) :
    exponent.length ≤ (exponentPart text).length := by
  obtain ⟨rest, rfl⟩ := stands
  cases isExponent with
  | absent => exact Nat.zero_le _
  | plain isMark allDigits nonempty =>
      rw [List.cons_append, exponentPart_plain isMark allDigits nonempty]
      simp
  | signed isMark isSign allDigits nonempty =>
      rw [List.cons_append, List.cons_append,
        exponentPart_signed isMark isSign allDigits nonempty]
      simp

/-- An exponent that no longer one contains is the one that is taken. -/
theorem exponentPart_eq
    {exponent rest : List Char}
    (isExponent : IsExponent exponent)
    (longest : ∀ other, IsExponent other → other <+: exponent ++ rest →
      other.length ≤ exponent.length) :
    exponentPart (exponent ++ rest) = exponent := by
  have stands : exponent <+: exponent ++ rest := List.prefix_append exponent rest
  have taken : exponentPart (exponent ++ rest) <+: exponent ++ rest := exponentPart_isPrefix _
  have shorter := longest _ (isExponent_exponentPart _) taken
  have longer := length_le_exponentPart isExponent stands
  exact (List.prefix_of_prefix_length_le taken stands shorter).eq_of_length_le longer

/-- No digit follows the longest exponent. -/
theorem IsExponent.not_digit_after
    {exponent rest : List Char}
    (isExponent : IsExponent exponent)
    (nonempty : exponent ≠ [])
    (longest : ∀ other, IsExponent other → other <+: exponent ++ rest →
      other.length ≤ exponent.length) :
    ∀ c ∈ rest.head?, Digit.isAscii c = false := by
  intro c first
  rw [← Bool.not_eq_true]
  intro digit
  obtain ⟨tail, rfl⟩ : ∃ tail, rest = c :: tail := by
    cases rest with
    | nil => cases first
    | cons d tail => exact ⟨tail, by rw [Option.some.inj first]⟩
  have taken := congrArg List.length (exponentPart_eq isExponent longest)
  cases isExponent with
  | absent => exact nonempty rfl
  | plain isMark allDigits filled =>
      rw [List.cons_append, exponentPart_plain isMark allDigits filled] at taken
      simp [digit] at taken
  | signed isMark isSign allDigits filled =>
      rw [List.cons_append, List.cons_append,
        exponentPart_signed isMark isSign allDigits filled] at taken
      simp [digit] at taken

/-! ## What the scanner takes and refuses -/

theorem run_ne_nil {c : Char} {rest : List Char} (starts : isNumeral c = true) :
    (c :: rest).takeWhile isNumeral ≠ [] := by
  rw [List.takeWhile_cons_of_pos starts]
  exact List.cons_ne_nil _ _

/-- A number that is taken is a lexeme. -/
theorem lexeme_of_number
    {position : Nat}
    {c : Char}
    {rest taken : List Char}
    (starts : isNumeral c = true)
    (scanned : number position (c :: rest) = .ok taken) :
    ∃ after, c :: rest = taken ++ after ∧ Lexeme .number taken after := by
  have numerals : ∀ d ∈ (c :: rest).takeWhile isNumeral, isNumeral d = true :=
    List.all_eq_true.mp List.all_takeWhile
  simp only [number] at scanned
  split at scanned
  · cases scanned
  rename_i noSecond
  split at scanned
  · cases scanned
  rename_i notLone
  cases scanned
  obtain ⟨after, behind⟩ := exponentPart_isPrefix ((c :: rest).dropWhile isNumeral)
  refine ⟨after, ?_, .number ?_ ?_ (isExponent_exponentPart _) ?_⟩
  · rw [List.append_assoc, behind, List.takeWhile_append_dropWhile]
  · exact isMantissa_of_secondPoint? numerals (run_ne_nil starts) noSecond notLone
  · rw [behind]
    exact head_dropWhile isNumeral (c :: rest)
  · rw [behind]
    exact fun other isExponent stands => length_le_exponentPart isExponent stands

/-- A number that is a lexeme is taken. -/
theorem number_of_lexeme
    {taken after : List Char}
    (standing : Lexeme .number taken after)
    (position : Nat) :
    number position (taken ++ after) = .ok taken := by
  cases standing with
  | number isMantissa ends isExponent longest =>
      obtain ⟨run, behind⟩ := span_append isMantissa.all_isNumeral ends
      rw [List.append_assoc]
      simp only [number, run, behind, isMantissa.secondPoint?_eq_none,
        if_neg isMantissa.ne_point, exponentPart_eq isExponent longest]
  | sign isSign => cases isSign

/-- A run of digits and points is refused for its second point, or for being a
point alone. -/
theorem number_eq_error_iff
    {position : Nat}
    {text : List Char}
    {error : LexicalError} :
    number position text = .error error ↔
      (∃ before after, text.takeWhile isNumeral = before ++ '.' :: after ∧
          before.count '.' = 1 ∧ error = .secondPoint (position + before.length)) ∨
        (text.takeWhile isNumeral = ['.'] ∧ error = .lonePoint position) := by
  have second (offset : Nat) : secondPoint? false (text.takeWhile isNumeral) = some offset ↔
      ∃ before after, text.takeWhile isNumeral = before ++ '.' :: after ∧
        before.count '.' = 1 ∧ offset = before.length :=
    secondPoint?_eq_some_iff
  simp only [number]
  split
  · rename_i offset found
    obtain ⟨before, after, run, counted, rfl⟩ := (second offset).mp found
    constructor
    · rintro ⟨⟩
      exact Or.inl ⟨before, after, run, counted, rfl⟩
    · rintro (⟨before', after', run', counted', rfl⟩ | ⟨lone, rfl⟩)
      · have same := (second before'.length).mpr ⟨before', after', run', counted', rfl⟩
        rw [Option.some.inj (found.symm.trans same)]
      · rw [lone] at found
        cases found
  · rename_i noSecond
    have noBefore (before after : List Char) (counted : before.count '.' = 1) :
        text.takeWhile isNumeral ≠ before ++ '.' :: after := by
      intro run
      rw [(second before.length).mpr ⟨before, after, run, counted, rfl⟩] at noSecond
      cases noSecond
    split
    · rename_i lone
      constructor
      · rintro ⟨⟩
        exact Or.inr ⟨lone, rfl⟩
      · rintro (⟨before, after, run, counted, -⟩ | ⟨-, rfl⟩)
        · exact absurd run (noBefore before after counted)
        · rfl
    · rename_i notLone
      constructor
      · rintro ⟨⟩
      · rintro (⟨before, after, run, counted, -⟩ | ⟨lone, -⟩)
        · exact absurd run (noBefore before after counted)
        · exact absurd lone notLone

/-! ## The classes of characters are disjoint -/

theorem isNumeral_iff {c : Char} :
    isNumeral c = true ↔ (48 ≤ c.toNat ∧ c.toNat ≤ 57) ∨ c.toNat = 46 := by
  have point : c = '.' ↔ c.toNat = 46 := by
    rw [Char.ext_iff, ← UInt32.toNat_inj]
    rfl
  simp [isNumeral, Digit.isAscii, Char.le_def, UInt32.le_iff_toNat_le, point]

theorem isLetter_iff {c : Char} :
    isLetter c = true ↔
      (97 ≤ c.toNat ∧ c.toNat ≤ 122) ∨ (65 ≤ c.toNat ∧ c.toNat ≤ 90) := by
  simp [isLetter, Char.le_def, UInt32.le_iff_toNat_le]

theorem not_isBlank_of_isNumeral {c : Char} (numeral : isNumeral c = true) :
    isBlank c = false := by
  rw [isNumeral_iff] at numeral
  simp [isBlank, Blank.ranges]
  omega

theorem not_isBlank_of_isLetter {c : Char} (letter : isLetter c = true) :
    isBlank c = false := by
  rw [isLetter_iff] at letter
  simp [isBlank, Blank.ranges]
  omega

theorem not_isNumeral_of_isLetter {c : Char} (letter : isLetter c = true) :
    isNumeral c = false := by
  rw [← Bool.not_eq_true, isNumeral_iff]
  rw [isLetter_iff] at letter
  omega

/-- A sign belongs to no other class of characters. -/
theorem apart_of_mem_signs
    {kind : Token.Kind}
    {c : Char}
    (isSign : c ∈ signs kind) :
    isNumeral c = false ∧ isLetter c = false ∧ isBlank c = false := by
  have apart : ((signs kind).all fun sign =>
      !isNumeral sign && !isLetter sign && !isBlank sign) = true := by
    cases kind <;> rfl
  simpa [and_assoc] using List.all_eq_true.mp apart c isSign

/-! ## The token at a place -/

/-- The first character of a lexeme. -/
theorem Lexeme.exists_cons
    {kind : Token.Kind}
    {taken rest : List Char}
    (standing : Lexeme kind taken rest) :
    ∃ c tail, taken = c :: tail ∧ isBlank c = false := by
  cases standing with
  | number isMantissa ends isExponent longest =>
      obtain ⟨c, tail, rfl⟩ := List.exists_cons_of_ne_nil isMantissa.ne_nil
      exact ⟨c, _, rfl, not_isBlank_of_isNumeral (isMantissa.all_isNumeral c List.mem_cons_self)⟩
  | identifier allLetters nonempty ends =>
      obtain ⟨c, tail, rfl⟩ := List.exists_cons_of_ne_nil nonempty
      exact ⟨c, tail, rfl, not_isBlank_of_isLetter (allLetters c List.mem_cons_self)⟩
  | sign isSign => exact ⟨_, [], rfl, (apart_of_mem_signs isSign).2.2⟩

/-- The token that is taken at a character is the lexeme that stands there. -/
theorem lexeme_eq_ok_iff
    {position : Nat}
    {c : Char}
    {rest taken : List Char}
    {kind : Token.Kind} :
    lexeme position c rest = .ok (kind, taken) ↔
      ∃ after, c :: rest = taken ++ after ∧ Lexeme kind taken after := by
  constructor
  · intro scanned
    rw [lexeme] at scanned
    split at scanned
    · rename_i starts
      obtain ⟨text, scanned, same⟩ := Outcome.map_eq_ok_iff.mp scanned
      cases same
      exact lexeme_of_number starts scanned
    split at scanned
    · rename_i starts
      cases scanned
      refine ⟨(c :: rest).dropWhile isLetter, List.takeWhile_append_dropWhile.symm,
        .identifier ?_ ?_ (head_dropWhile isLetter _)⟩
      · exact List.all_eq_true.mp List.all_takeWhile
      · rw [List.takeWhile_cons_of_pos starts]
        exact List.cons_ne_nil _ _
    split at scanned
    · rename_i single
      cases scanned
      exact ⟨rest, rfl, .sign (singleKind?_eq_some_iff.mp single)⟩
    · cases scanned
  · rintro ⟨after, same, standing⟩
    have starts := standing
    cases starts with
    | number isMantissa ends isExponent longest =>
        have first : isNumeral c = true := by
          obtain ⟨d, tail, rfl⟩ := List.exists_cons_of_ne_nil isMantissa.ne_nil
          obtain ⟨rfl, -⟩ := List.cons.inj same
          exact isMantissa.all_isNumeral c List.mem_cons_self
        rw [lexeme, if_pos first, same, number_of_lexeme standing]
        rfl
    | identifier allLetters nonempty ends =>
        have first : isLetter c = true := by
          obtain ⟨d, tail, rfl⟩ := List.exists_cons_of_ne_nil nonempty
          obtain ⟨rfl, -⟩ := List.cons.inj same
          exact allLetters c List.mem_cons_self
        rw [lexeme, if_neg (by simp [not_isNumeral_of_isLetter first]), if_pos first, same,
          (span_append allLetters ends).1]
    | sign isSign =>
        obtain ⟨rfl, rfl⟩ := List.cons.inj same
        obtain ⟨notNumeral, notLetter, -⟩ := apart_of_mem_signs isSign
        simp [lexeme, notNumeral, notLetter, singleKind?_eq_some_iff.mpr isSign]

/-- Nothing is taken at a character that is not blank exactly where an obstacle
stands. -/
theorem lexeme_eq_error_iff
    {position : Nat}
    {c : Char}
    {rest : List Char}
    {error : LexicalError}
    (notBlank : isBlank c = false) :
    lexeme position c rest = .error error ↔ Obstacle position (c :: rest) error := by
  constructor
  · intro refused
    rw [lexeme] at refused
    split at refused
    · rw [Outcome.map_eq_error_iff] at refused
      rcases number_eq_error_iff.mp refused with ⟨before, after, run, counted, rfl⟩ | ⟨run, rfl⟩
      · exact .secondPoint run counted
      · exact .lonePoint run
    rename_i notNumeral
    split at refused
    · cases refused
    rename_i notLetter
    split at refused
    · cases refused
    rename_i notSingle
    cases refused
    exact .unrecognized notBlank (by simpa using notNumeral) (by simpa using notLetter)
      (singleKind?_eq_none_iff.mp notSingle)
  · intro obstacle
    have starts (filled : (c :: rest).takeWhile isNumeral ≠ []) : isNumeral c = true := by
      by_cases numeral : isNumeral c = true
      · exact numeral
      · exact absurd (List.takeWhile_cons_of_neg numeral) filled
    cases obstacle with
    | unrecognized notBlank notNumeral notLetter notSign =>
        simp [lexeme, notNumeral, notLetter, singleKind?_eq_none_iff.mpr notSign]
    | secondPoint run counted =>
        rw [lexeme, if_pos (starts (by simp [run])),
          number_eq_error_iff.mpr (Or.inl ⟨_, _, run, counted, rfl⟩)]
        rfl
    | lonePoint run =>
        rw [lexeme, if_pos (starts (by simp [run])),
          number_eq_error_iff.mpr (Or.inr ⟨run, rfl⟩)]
        rfl

end Lexer
end Calculator
