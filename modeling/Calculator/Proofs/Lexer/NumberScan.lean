import Calculator.Arithmetic.Double
import Calculator.Proofs.Lexer.Place

/-!
# What is scanned as a number

At a digit or a point the scanner takes the whole run of digits and points and the
longest exponent behind it, or refuses the run for its points. What it takes is
never empty, lies within the source and can be read.
-/

namespace Calculator
namespace Lexer

/-- A run of digits and points in front of the rest of a text, as long as it can be. -/
structure IsRun (run after : List Char) : Prop where
  nonempty : run ≠ []
  numerals : ∀ c ∈ run, isNumeral c = true
  ends : ∀ c ∈ after.head?, isNumeral c = false

/-- The longest exponent at the front of a text, which is empty where no other stands. -/
structure IsLongestExponent (exponent after : List Char) : Prop where
  isExponent : IsExponent exponent
  stands : exponent <+: after
  longest : ∀ other, IsExponent other → other <+: after → other.length ≤ exponent.length

/-! ## The run and the exponent behind it -/

/-- A text that begins with a digit or a point begins with a run. -/
theorem exists_isRun {first : Char} (begins : isNumeral first = true) (rest : List Char) :
    ∃ run after, first :: rest = run ++ after ∧ IsRun run after := by
  refine ⟨_, _, List.takeWhile_append_dropWhile.symm, run_ne_nil begins, ?_,
    head_dropWhile isNumeral _⟩
  exact List.all_eq_true.mp List.all_takeWhile

/-- A run has a second point where it has more than one. -/
theorem exists_secondPoint_iff {run : List Char} :
    (∃ before behind, run = before ++ '.' :: behind ∧ before.count '.' = 1) ↔
      2 ≤ run.count '.' := by
  constructor
  · rintro ⟨before, behind, rfl, counted⟩
    rw [List.count_append, List.count_cons_self, counted]
    omega
  · intro twice
    have present : '.' ∈ run := List.count_pos_iff.mp (by omega)
    obtain ⟨front, rest, rfl, noEarlier⟩ := List.eq_append_cons_of_mem present
    have before : front.count '.' = 0 := List.count_eq_zero.mpr noEarlier
    rw [List.count_append, List.count_cons_self, before] at twice
    have again : '.' ∈ rest := List.count_pos_iff.mp (by omega)
    obtain ⟨between, behind, rfl, noneBetween⟩ := List.eq_append_cons_of_mem again
    refine ⟨front ++ '.' :: between, behind, by simp, ?_⟩
    rw [List.count_append, List.count_cons_self, before, List.count_eq_zero.mpr noneBetween]

/-- The exponent that is taken is the only longest one. -/
theorem isLongestExponent_iff {exponent after : List Char} :
    IsLongestExponent exponent after ↔ exponent = exponentPart after := by
  constructor
  · rintro ⟨isExponent, ⟨rest, rfl⟩, longest⟩
    exact (exponentPart_eq isExponent longest).symm
  · rintro rfl
    exact ⟨isExponent_exponentPart after, exponentPart_isPrefix after,
      fun other isExponent stands => length_le_exponentPart isExponent stands⟩

section Run

variable {run after : List Char} (isRun : IsRun run after) (start : Nat)
include isRun

/-- The scanner goes through the run. -/
theorem IsRun.takeWhile_eq : (run ++ after).takeWhile isNumeral = run :=
  (span_append isRun.numerals isRun.ends).1

theorem IsRun.dropWhile_eq : (run ++ after).dropWhile isNumeral = after :=
  (span_append isRun.numerals isRun.ends).2

/-- The scanner refuses a run for its second point, at the place of this point, or for
being a point alone. -/
theorem IsRun.number_eq_error_iff {error : LexicalError} :
    number start (run ++ after) = .error error ↔
      (∃ before behind, run = before ++ '.' :: behind ∧ before.count '.' = 1 ∧
          error = .secondPoint (start + before.length)) ∨
        (run = ['.'] ∧ error = .lonePoint start) := by
  rw [Lexer.number_eq_error_iff, isRun.takeWhile_eq]

/-- The scanner refuses exactly the runs with two points and the point alone. -/
theorem IsRun.exists_error_iff :
    (∃ error, number start (run ++ after) = .error error) ↔
      2 ≤ run.count '.' ∨ run = ['.'] := by
  rw [← exists_secondPoint_iff]
  constructor
  · rintro ⟨error, refused⟩
    rcases (isRun.number_eq_error_iff start).mp refused with
      ⟨before, behind, same, counted, -⟩ | ⟨alone, -⟩
    · exact .inl ⟨before, behind, same, counted⟩
    · exact .inr alone
  · rintro (⟨before, behind, same, counted⟩ | alone)
    · exact ⟨_, (isRun.number_eq_error_iff start).mpr
        (.inl ⟨before, behind, same, counted, rfl⟩)⟩
    · exact ⟨_, (isRun.number_eq_error_iff start).mpr (.inr ⟨alone, rfl⟩)⟩

/-- What the scanner takes where it does not refuse the run. -/
theorem IsRun.number_eq_ok_iff {taken : List Char} :
    number start (run ++ after) = .ok taken ↔
      ¬(2 ≤ run.count '.' ∨ run = ['.']) ∧
        ∃ exponent, taken = run ++ exponent ∧ IsLongestExponent exponent after := by
  have only : (∃ exponent, taken = run ++ exponent ∧ IsLongestExponent exponent after) ↔
      taken = run ++ exponentPart after := by
    simp only [isLongestExponent_iff, exists_eq_right]
  rw [only, ← isRun.exists_error_iff start, number, isRun.takeWhile_eq, isRun.dropWhile_eq]
  split
  · simp
  · split
    · simp
    · simp [eq_comm]

end Run

/-- Where a digit or a point stands in a source, the scanner refuses the run of digits
and points for its second point, at the place of that, or for being a point alone, at the
start, and for nothing else. Otherwise it takes the run and the longest exponent behind it:
at least one character, none behind the end of the source, and a text that can be read as a
number. -/
theorem number_takes_run_and_exponent
    (α : Type)
    [Scalar α]
    (source : String)
    (start : Nat)
    (first : Char)
    (stands : source.toList[start]? = some first)
    (begins : isNumeral first = true) :
    ∃ run after, source.toList.drop start = run ++ after ∧ IsRun run after ∧
      (∀ error, number start (source.toList.drop start) = .error error ↔
        (∃ before behind, run = before ++ '.' :: behind ∧ before.count '.' = 1 ∧
            error = .secondPoint (start + before.length)) ∨
          (run = ['.'] ∧ error = .lonePoint start)) ∧
      ((∃ error, number start (source.toList.drop start) = .error error) ↔
        2 ≤ run.count '.' ∨ run = ['.']) ∧
      (∀ taken, number start (source.toList.drop start) = .ok taken ↔
        ¬(2 ≤ run.count '.' ∨ run = ['.']) ∧
          ∃ exponent, taken = run ++ exponent ∧ IsLongestExponent exponent after) ∧
      ∀ taken, number start (source.toList.drop start) = .ok taken →
        start < start + taken.length ∧ start + taken.length ≤ source.length ∧
          taken <+: source.toList.drop start ∧ (Decimal.read? taken : Option α).isSome := by
  obtain ⟨within, same⟩ := List.getElem?_eq_some_iff.mp stands
  have split : source.toList.drop start = first :: source.toList.drop (start + 1) := by
    rw [List.drop_eq_getElem_cons within, same]
  obtain ⟨run, after, parts, isRun⟩ := exists_isRun begins (source.toList.drop (start + 1))
  refine ⟨run, after, split.trans parts, isRun, ?_, ?_, ?_, ?_⟩
  · rw [split, parts]
    exact fun error => isRun.number_eq_error_iff start
  · rw [split, parts]
    exact isRun.exists_error_iff start
  · rw [split, parts]
    exact fun taken => isRun.number_eq_ok_iff start
  · intro taken scanned
    rw [split] at scanned
    obtain ⟨rest, around, lexeme⟩ := lexeme_of_number begins scanned
    have lengths := congrArg List.length (split.trans around)
    rw [List.length_drop, String.length_toList, List.length_append] at lengths
    rw [String.length_toList] at within
    obtain ⟨c, tail, rfl, -⟩ := lexeme.exists_cons
    refine ⟨Nat.lt_add_of_pos_right (Nat.succ_pos _), by omega, ⟨rest, ?_⟩, ?_⟩
    · rw [split, around]
    · exact IsNumeral.isSome_read? lexeme.hasForm

/-- The run ends at the exponent, and the second point of the source begins another
number. -/
theorem number_takes_signed_exponent :
    "2*.5e+7.1".toList[2]? = some '.' ∧ isNumeral '.' = true ∧
      number 2 ("2*.5e+7.1".toList.drop 2) = .ok ".5e+7".toList ∧
      (∃ run exponent, ".5e+7".toList = run ++ exponent ∧ IsExponent exponent) ∧
      2 + ".5e+7".toList.length ≤ "2*.5e+7.1".length ∧
      (Decimal.read? ".5e+7".toList : Option Float).isSome := by
  have stands : "2*.5e+7.1".toList[2]? = some '.' := rfl
  have scanned : number 2 ("2*.5e+7.1".toList.drop 2) = .ok ".5e+7".toList := rfl
  obtain ⟨run, after, -, -, -, -, takes, fits⟩ :=
    number_takes_run_and_exponent Float "2*.5e+7.1" 2 '.' stands rfl
  obtain ⟨-, exponent, same, isLongest⟩ := (takes _).mp scanned
  obtain ⟨-, within, -, read⟩ := fits _ scanned
  exact ⟨stands, rfl, scanned, ⟨run, exponent, same, isLongest.isExponent⟩, within, read⟩

/-- An exponent that breaks off is left behind, and a point behind it as well. -/
example : number 0 "2e+.5".toList = .ok "2".toList := rfl

end Lexer
end Calculator
