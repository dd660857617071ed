import Calculator.Proofs.Lexer.Lexeme

/-!
# Readings of a source

A text is read by passing over its blanks and taking the lexemes between them. The
tokens of a source are those of its reading to the end, each at the place where its
lexeme stands. A source without tokens has a reading that stops at an obstacle.
-/

namespace Calculator
namespace Lexer

/-- A reading of a text from one place to another, with the tokens that it takes. -/
inductive Reading (stop : Nat) (after : List Char) : Nat → List Char → List Token → Prop
  | done : Reading stop after stop after []
  | blank
      {position : Nat}
      {c : Char}
      {rest : List Char}
      {words : List Token}
      (blank : isBlank c = true)
      (reading : Reading stop after (position + 1) rest words) :
      Reading stop after position (c :: rest) words
  | token
      {position : Nat}
      {kind : Token.Kind}
      {taken rest : List Char}
      {words : List Token}
      (standing : Lexeme kind taken rest)
      (reading : Reading stop after (position + taken.length) rest words) :
      Reading stop after position (taken ++ rest)
        (⟨kind, String.ofList taken, position⟩ :: words)

/-! ## The scanner follows the reading -/

/-- The characters to be skipped are passed over. -/
theorem scan_append
    (taken rest : List Char)
    (position : Nat) :
    scan position taken.length (taken ++ rest) = scan (position + taken.length) 0 rest := by
  induction taken generalizing position with
  | nil => rfl
  | cons c taken takenHypothesis =>
      rw [List.length_cons, List.cons_append, scan, takenHypothesis]
      congr 1
      omega

theorem scan_token
    {kind : Token.Kind}
    {taken rest : List Char}
    (standing : Lexeme kind taken rest)
    (position : Nat) :
    scan position 0 (taken ++ rest) =
      (scan (position + taken.length) 0 rest).map
        (⟨kind, String.ofList taken, position⟩ :: ·) := by
  obtain ⟨c, tail, rfl, notBlank⟩ := standing.exists_cons
  have found : lexeme position c (tail ++ rest) = .ok (kind, c :: tail) :=
    lexeme_eq_ok_iff.mpr ⟨rest, rfl, standing⟩
  rw [List.cons_append, scan, if_neg (by simp [notBlank])]
  simp only [found, List.length_cons, Nat.add_sub_cancel, scan_append]
  congr 2
  omega

/-- After a reading the scanner goes on where the reading has stopped. -/
theorem Reading.scan_eq
    {stop position : Nat}
    {after text : List Char}
    {words : List Token}
    (reading : Reading stop after position text words) :
    scan position 0 text = (scan stop 0 after).map (words ++ ·) := by
  induction reading with
  | done => cases scan stop 0 after <;> rfl
  | blank blank _ readingHypothesis => rw [scan, if_pos blank, readingHypothesis]
  | token standing _ readingHypothesis =>
      rw [scan_token standing, readingHypothesis]
      cases scan stop 0 after <;> rfl

/-- An obstacle is no blank. -/
theorem Obstacle.exists_cons
    {position : Nat}
    {text : List Char}
    {error : LexicalError}
    (obstacle : Obstacle position text error) :
    ∃ c rest, text = c :: rest ∧ isBlank c = false := by
  have starts (filled : text.takeWhile isNumeral ≠ []) :
      ∃ c rest, text = c :: rest ∧ isBlank c = false := by
    cases text with
    | nil => exact absurd rfl filled
    | cons c rest =>
        by_cases numeral : isNumeral c = true
        · exact ⟨c, rest, rfl, not_isBlank_of_isNumeral numeral⟩
        · exact absurd (List.takeWhile_cons_of_neg numeral) filled
  cases obstacle with
  | unrecognized notBlank notNumeral notLetter notSign => exact ⟨_, _, rfl, notBlank⟩
  | secondPoint run onePoint => exact starts (by simp [run])
  | lonePoint run => exact starts (by simp [run])

theorem Obstacle.scan_eq
    {position : Nat}
    {text : List Char}
    {error : LexicalError}
    (obstacle : Obstacle position text error) :
    scan position 0 text = .error error := by
  obtain ⟨c, rest, rfl, notBlank⟩ := obstacle.exists_cons
  have refused := (lexeme_eq_error_iff notBlank).mpr obstacle
  rw [scan, if_neg (by simp [notBlank])]
  simp only [refused]

/-- Every text has a reading to its end or to an obstacle. -/
theorem exists_reading
    (position : Nat)
    (text : List Char) :
    ∃ words stop after, Reading stop after position text words ∧
      (after = [] ∨ ∃ error, Obstacle stop after error) := by
  generalize long : text.length = length
  induction length using Nat.strongRecOn generalizing position text with
  | ind length shorterHypothesis =>
      cases text with
      | nil => exact ⟨[], position, [], .done, Or.inl rfl⟩
      | cons c rest =>
          by_cases blank : isBlank c = true
          · obtain ⟨words, stop, after, reading, stopped⟩ :=
              shorterHypothesis rest.length (by simp [← long]) (position + 1) rest rfl
            exact ⟨words, stop, after, .blank blank reading, stopped⟩
          have notBlank : isBlank c = false := by simpa using blank
          cases scanned : lexeme position c rest with
          | error error =>
              exact ⟨[], position, c :: rest, .done,
                Or.inr ⟨error, (lexeme_eq_error_iff notBlank).mp scanned⟩⟩
          | ok token =>
              obtain ⟨kind, taken⟩ := token
              obtain ⟨behind, same, standing⟩ := lexeme_eq_ok_iff.mp scanned
              obtain ⟨d, tail, rfl, -⟩ := standing.exists_cons
              have lengths := congrArg List.length same
              rw [List.length_append, List.length_cons, List.length_cons] at lengths
              rw [List.length_cons] at long
              obtain ⟨words, stop, after, reading, stopped⟩ :=
                shorterHypothesis behind.length (by omega) (position + (d :: tail).length)
                  behind rfl
              rw [same]
              exact ⟨_, stop, after, .token standing reading, stopped⟩

/-- A scan succeeds exactly where a text has a reading to its end. -/
theorem scan_eq_ok_iff
    {position : Nat}
    {text : List Char}
    {tokens : List Token} :
    scan position 0 text = .ok tokens ↔
      ∃ words stop, Reading stop [] position text words ∧
        tokens = words ++ [Token.finish stop] := by
  constructor
  · intro scanned
    obtain ⟨words, stop, after, reading, rfl | ⟨error, obstacle⟩⟩ := exists_reading position text
    · rw [reading.scan_eq] at scanned
      cases scanned
      exact ⟨words, stop, reading, rfl⟩
    · rw [reading.scan_eq, obstacle.scan_eq] at scanned
      cases scanned
  · rintro ⟨words, stop, reading, rfl⟩
    rw [reading.scan_eq]
    rfl

/-- A scan fails exactly where a reading stops at an obstacle. -/
theorem scan_eq_error_iff
    {position : Nat}
    {text : List Char}
    {error : LexicalError} :
    scan position 0 text = .error error ↔
      ∃ words stop after, Reading stop after position text words ∧
        Obstacle stop after error := by
  constructor
  · intro scanned
    obtain ⟨words, stop, after, reading, rfl | ⟨other, obstacle⟩⟩ := exists_reading position text
    · rw [reading.scan_eq] at scanned
      cases scanned
    · rw [reading.scan_eq, obstacle.scan_eq] at scanned
      cases scanned
      exact ⟨words, stop, after, reading, obstacle⟩
  · rintro ⟨words, stop, after, reading, obstacle⟩
    rw [reading.scan_eq, obstacle.scan_eq]
    rfl

end Lexer
end Calculator
