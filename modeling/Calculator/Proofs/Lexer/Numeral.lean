import Calculator.Decimal.Reader
import Calculator.Expression.Lexer

/-!
# Numerals

The texts of number tokens: digits around at most one point, at least one digit,
and an exponent that is either whole or missing. Every numeral can be read.
-/

namespace Calculator
namespace Lexer

/-- A text of ASCII digits. -/
def AllDigits (text : List Char) : Prop :=
  ∀ c ∈ text, Digit.isAscii c = true

@[simp] theorem allDigits_nil : AllDigits [] := by
  simp [AllDigits]

@[simp] theorem allDigits_cons {c : Char} {text : List Char} :
    AllDigits (c :: text) ↔ Digit.isAscii c = true ∧ AllDigits text := by
  rw [AllDigits, List.forall_mem_cons]
  rfl

/-- Digits around at most one point, at least one of them. -/
inductive IsMantissa : List Char → Prop
  | whole
      {digits : List Char}
      (allDigits : AllDigits digits)
      (nonempty : digits ≠ []) :
      IsMantissa digits
  | pointed
      {whole places : List Char}
      (wholeDigits : AllDigits whole)
      (placesDigits : AllDigits places)
      (nonempty : whole ≠ [] ∨ places ≠ []) :
      IsMantissa (whole ++ '.' :: places)

/-- A mark, an optional sign and at least one digit, or nothing. -/
inductive IsExponent : List Char → Prop
  | absent : IsExponent []
  | plain
      {mark : Char}
      {digits : List Char}
      (isMark : mark = 'e' ∨ mark = 'E')
      (allDigits : AllDigits digits)
      (nonempty : digits ≠ []) :
      IsExponent (mark :: digits)
  | signed
      {mark sign : Char}
      {digits : List Char}
      (isMark : mark = 'e' ∨ mark = 'E')
      (isSign : sign = '+' ∨ sign = '-')
      (allDigits : AllDigits digits)
      (nonempty : digits ≠ []) :
      IsExponent (mark :: sign :: digits)

/-- The text of a number. -/
def IsNumeral (text : List Char) : Prop :=
  ∃ mantissa exponent,
    IsMantissa mantissa ∧ IsExponent exponent ∧ text = mantissa ++ exponent

/-! ## The scanner takes numerals -/

theorem allDigits_takeWhile (text : List Char) :
    AllDigits (text.takeWhile Digit.isAscii) := by
  intro c present
  exact List.all_eq_true.mp List.all_takeWhile c present

theorem isExponent_exponentPart (text : List Char) : IsExponent (exponentPart text) := by
  cases text with
  | nil => exact .absent
  | cons mark rest =>
      by_cases isMark : mark = 'e' ∨ mark = 'E'
      · cases rest with
        | nil => simpa [exponentPart] using IsExponent.absent
        | cons sign after =>
            simp only [exponentPart, Bool.or_eq_true, decide_eq_true_eq, isMark, if_true]
            split
            · rename_i isSign
              split
              · exact .absent
              · rename_i nonempty
                exact .signed isMark isSign (allDigits_takeWhile after) nonempty
            · split
              · exact .absent
              · rename_i nonempty
                exact .plain isMark (allDigits_takeWhile (sign :: after)) nonempty
      · simpa [exponentPart, isMark] using IsExponent.absent

theorem isAscii_of_isNumeral {c : Char} (numeral : isNumeral c = true) (other : c ≠ '.') :
    Digit.isAscii c = true := by
  simpa [isNumeral, other] using numeral

/-- After a point there are digits until the second point. -/
theorem allDigits_of_secondPoint?
    {run : List Char}
    (numerals : ∀ c ∈ run, isNumeral c = true)
    (noPoint : secondPoint? true run = none) :
    AllDigits run := by
  induction run with
  | nil => exact allDigits_nil
  | cons c rest restHypothesis =>
      by_cases point : c = '.'
      · simp [secondPoint?, point] at noPoint
      · have restDigits : AllDigits rest :=
          restHypothesis (fun d present => numerals d (List.mem_cons_of_mem c present))
            (by simpa [secondPoint?, point] using noPoint)
        have digit : Digit.isAscii c = true :=
          isAscii_of_isNumeral (numerals c List.mem_cons_self) point
        exact allDigits_cons.mpr ⟨digit, restDigits⟩

/-- A run without a second point consists of digits around at most one point. -/
theorem digits_of_secondPoint?
    {run : List Char}
    (numerals : ∀ c ∈ run, isNumeral c = true)
    (noSecond : secondPoint? false run = none) :
    AllDigits run ∨
      ∃ whole places, AllDigits whole ∧ AllDigits places ∧ run = whole ++ '.' :: places := by
  induction run with
  | nil => exact Or.inl allDigits_nil
  | cons c rest restHypothesis =>
      have restNumerals : ∀ d ∈ rest, isNumeral d = true :=
        fun d present => numerals d (List.mem_cons_of_mem c present)
      by_cases point : c = '.'
      · right
        have noPoint : secondPoint? true rest = none := by
          simpa [secondPoint?, point] using noSecond
        exact ⟨[], rest, allDigits_nil, allDigits_of_secondPoint? restNumerals noPoint,
          by rw [point, List.nil_append]⟩
      · have digit : Digit.isAscii c = true :=
          isAscii_of_isNumeral (numerals c List.mem_cons_self) point
        have noSecond : secondPoint? false rest = none := by
          simpa [secondPoint?, point] using noSecond
        rcases restHypothesis restNumerals noSecond with
          digits | ⟨whole, places, wholeDigits, placesDigits, rfl⟩
        · exact Or.inl (allDigits_cons.mpr ⟨digit, digits⟩)
        · exact Or.inr ⟨c :: whole, places, allDigits_cons.mpr ⟨digit, wholeDigits⟩,
            placesDigits, rfl⟩

/-- A run with at most one point, which is not a point alone, is a mantissa. -/
theorem isMantissa_of_secondPoint?
    {run : List Char}
    (numerals : ∀ c ∈ run, isNumeral c = true)
    (nonempty : run ≠ [])
    (noSecond : secondPoint? false run = none)
    (notLone : run ≠ ['.']) :
    IsMantissa run := by
  rcases digits_of_secondPoint? numerals noSecond with
    digits | ⟨whole, places, wholeDigits, placesDigits, rfl⟩
  · exact .whole digits nonempty
  · refine .pointed wholeDigits placesDigits ?_
    cases whole with
    | nil =>
        right
        rintro rfl
        exact notLone rfl
    | cons digit whole => exact Or.inl (List.cons_ne_nil digit whole)

/-! ## Numerals can be read -/

/-- A character that stands for itself when a number is read. -/
structure IsPlain (c : Char) : Prop where
  notBlank : isBlank c = false
  asciiDigit_eq : Decimal.asciiDigit c = c
  notSeparator : c ≠ '_'
  notComma : c ≠ ','

theorem IsPlain.notPadding {c : Char} (isPlain : IsPlain c) : Decimal.isPadding c = false := by
  rw [Decimal.isPadding, isPlain.notBlank, Bool.false_and]

theorem exists_digit_of_isAscii {c : Char} (digit : Digit.isAscii c = true) :
    ∃ value < 10, c = Char.ofNat (48 + value) := by
  have bounds : 48 ≤ c.toNat ∧ c.toNat ≤ 57 := by
    simpa [Digit.isAscii, Char.le_def, UInt32.le_iff_toNat_le] using digit
  refine ⟨c.toNat - 48, by omega, ?_⟩
  rw [Nat.add_sub_cancel' bounds.1, Char.ofNat_toNat]

theorem isPlain_of_isAscii {c : Char} (digit : Digit.isAscii c = true) : IsPlain c := by
  obtain ⟨value, small, rfl⟩ := exists_digit_of_isAscii digit
  have checked : ∀ value < 10,
      isBlank (Char.ofNat (48 + value)) = false ∧
        Decimal.asciiDigit (Char.ofNat (48 + value)) = Char.ofNat (48 + value) ∧
        Char.ofNat (48 + value) ≠ '_' ∧ Char.ofNat (48 + value) ≠ ',' := by decide
  obtain ⟨notBlank, asciiDigit_eq, notSeparator, notComma⟩ := checked value small
  exact ⟨notBlank, asciiDigit_eq, notSeparator, notComma⟩

theorem AllDigits.isPlain
    {digits : List Char}
    (allDigits : AllDigits digits) :
    ∀ c ∈ digits, IsPlain c :=
  fun c present => isPlain_of_isAscii (allDigits c present)

/-- The other characters of numerals. -/
theorem isPlain_of_mem {c : Char} (mark : c ∈ ['.', 'e', 'E', '+', '-']) : IsPlain c := by
  simp only [List.mem_cons, List.not_mem_nil, or_false] at mark
  rcases mark with rfl | rfl | rfl | rfl | rfl <;>
    exact ⟨by decide, by decide, by decide, by decide⟩

theorem IsMantissa.isPlain {text : List Char} (isMantissa : IsMantissa text) :
    ∀ c ∈ text, IsPlain c := by
  cases isMantissa with
  | whole allDigits nonempty => exact allDigits.isPlain
  | pointed wholeDigits placesDigits nonempty =>
      rw [List.forall_mem_append, List.forall_mem_cons]
      exact ⟨wholeDigits.isPlain, isPlain_of_mem (by simp), placesDigits.isPlain⟩

theorem IsExponent.isPlain {text : List Char} (isExponent : IsExponent text) :
    ∀ c ∈ text, IsPlain c := by
  cases isExponent with
  | absent => simp
  | plain isMark allDigits nonempty =>
      rw [List.forall_mem_cons]
      refine ⟨isPlain_of_mem ?_, allDigits.isPlain⟩
      rcases isMark with rfl | rfl <;> simp
  | signed isMark isSign allDigits nonempty =>
      rw [List.forall_mem_cons, List.forall_mem_cons]
      refine ⟨isPlain_of_mem ?_, isPlain_of_mem ?_, allDigits.isPlain⟩
      · rcases isMark with rfl | rfl <;> simp
      · rcases isSign with rfl | rfl <;> simp

theorem IsNumeral.isPlain {text : List Char} (isNumeral : IsNumeral text) :
    ∀ c ∈ text, IsPlain c := by
  obtain ⟨mantissa, exponent, isMantissa, isExponent, rfl⟩ := isNumeral
  rw [List.forall_mem_append]
  exact ⟨isMantissa.isPlain, isExponent.isPlain⟩

theorem withoutSeparators_eq
    {text : List Char}
    (plain : ∀ c ∈ text, c ≠ '_')
    (afterDigit : Bool) :
    Decimal.withoutSeparators afterDigit text = some text := by
  induction text generalizing afterDigit with
  | nil => rfl
  | cons c rest restHypothesis =>
      have restPlain := restHypothesis fun d present => plain d (List.mem_cons_of_mem c present)
      have notSeparator : c ≠ '_' := plain c List.mem_cons_self
      unfold Decimal.withoutSeparators
      split
      · rename_i isNil
        cases isNil
      · rename_i isSeparator
        exact absurd (List.cons.inj isSeparator).1 notSeparator
      · rename_i same
        cases same
        simp [restPlain]

/-- Characters of a class end where the text after them begins with none. -/
theorem span_append
    {inClass : Char → Bool}
    {front rest : List Char}
    (all : ∀ c ∈ front, inClass c = true)
    (ends : ∀ c ∈ rest.head?, inClass c = false) :
    (front ++ rest).takeWhile inClass = front ∧
      (front ++ rest).dropWhile inClass = rest := by
  rw [List.takeWhile_append_of_pos all, List.dropWhile_append_of_pos all]
  cases rest with
  | nil => simp
  | cons c rest => simp [ends c rfl]

theorem IsExponent.head_not_digit {text : List Char} (isExponent : IsExponent text) :
    ∀ c ∈ text.head?, Digit.isAscii c = false ∧ c ≠ '.' := by
  intro c first
  have isMark : c = 'e' ∨ c = 'E' := by
    cases isExponent with
    | absent => cases first
    | plain isMark allDigits nonempty =>
        cases first
        exact isMark
    | signed isMark isSign allDigits nonempty =>
        cases first
        exact isMark
  rcases isMark with rfl | rfl
  · exact ⟨by decide, by decide⟩
  · exact ⟨by decide, by decide⟩

theorem isNumeral_of_isAscii {c : Char} (digit : Digit.isAscii c = true) :
    isNumeral c = true := by
  simp [isNumeral, digit]

theorem IsMantissa.all_isNumeral {text : List Char} (isMantissa : IsMantissa text) :
    ∀ c ∈ text, isNumeral c = true := by
  cases isMantissa with
  | whole allDigits nonempty =>
      exact fun c present => isNumeral_of_isAscii (allDigits c present)
  | pointed wholeDigits placesDigits nonempty =>
      rw [List.forall_mem_append, List.forall_mem_cons]
      refine ⟨?_, rfl, ?_⟩
      · exact fun c inWhole => isNumeral_of_isAscii (wholeDigits c inWhole)
      · exact fun c inPlaces => isNumeral_of_isAscii (placesDigits c inPlaces)

theorem IsMantissa.ne_nil {text : List Char} (isMantissa : IsMantissa text) : text ≠ [] := by
  cases isMantissa with
  | whole allDigits nonempty => exact nonempty
  | pointed wholeDigits placesDigits nonempty => simp

/-- A text that begins like a number has no sign. -/
theorem splitSign_eq
    {text : List Char}
    (starts : ∀ c ∈ text.head?, isNumeral c = true) :
    Decimal.splitSign text = (false, text) := by
  unfold Decimal.splitSign
  split
  · exact absurd (starts '-' rfl) (by decide)
  · exact absurd (starts '+' rfl) (by decide)
  · rfl

theorem splitSign_digits
    {digits : List Char}
    (allDigits : AllDigits digits) :
    Decimal.splitSign digits = (false, digits) :=
  splitSign_eq fun c first => isNumeral_of_isAscii (allDigits c (List.mem_of_head? first))

theorem splitSign_mantissa
    {mantissa : List Char}
    (isMantissa : IsMantissa mantissa)
    (exponent : List Char) :
    Decimal.splitSign (mantissa ++ exponent) = (false, mantissa ++ exponent) := by
  refine splitSign_eq fun c first => isMantissa.all_isNumeral c ?_
  cases mantissa with
  | nil => exact absurd rfl isMantissa.ne_nil
  | cons digit rest => exact List.mem_of_head? first

theorem isSome_readExponent? {text : List Char} (isExponent : IsExponent text) :
    (Decimal.readExponent? text).isSome := by
  cases isExponent with
  | absent => rfl
  | plain isMark allDigits nonempty =>
      simp [Decimal.readExponent?, splitSign_digits allDigits, isMark, nonempty]
      exact allDigits
  | signed isMark isSign allDigits nonempty =>
      rcases isSign with rfl | rfl
      · simp [Decimal.readExponent?, Decimal.splitSign, isMark, nonempty]
        exact allDigits
      · simp [Decimal.readExponent?, Decimal.splitSign, isMark, nonempty]
        exact allDigits

theorem isSome_readMagnitude?
    {α : Type}
    [Scalar α]
    {mantissa exponent : List Char}
    (isMantissa : IsMantissa mantissa)
    (isExponent : IsExponent exponent) :
    (Decimal.readMagnitude? (mantissa ++ exponent) : Option α).isSome := by
  have ends : ∀ c ∈ exponent.head?, Digit.isAscii c = false :=
    fun c first => (isExponent.head_not_digit c first).1
  have read := isSome_readExponent? isExponent
  cases isMantissa with
  | whole allDigits nonempty =>
      obtain ⟨taken, dropped⟩ := span_append allDigits ends
      unfold Decimal.readMagnitude?
      simp only [taken, dropped]
      split
      · exact absurd rfl (isExponent.head_not_digit '.' rfl).2
      · simp [nonempty, read]
  | pointed wholeDigits placesDigits nonempty =>
      rename_i whole places
      have pointEnds : ∀ c ∈ ('.' :: (places ++ exponent)).head?, Digit.isAscii c = false := by
        rintro c ⟨⟩
        rfl
      obtain ⟨taken, dropped⟩ := span_append wholeDigits pointEnds
      obtain ⟨placesTaken, placesDropped⟩ := span_append placesDigits ends
      rw [List.append_assoc, List.cons_append]
      unfold Decimal.readMagnitude?
      simp only [taken, dropped, placesTaken, placesDropped]
      have notBoth : ¬(whole.isEmpty && places.isEmpty) = true := by
        simpa [Classical.or_iff_not_imp_left] using nonempty
      rw [if_neg notBoth, Option.isSome_map]
      exact read

/-- Every numeral can be read. -/
theorem IsNumeral.isSome_read?
    {α : Type}
    [Scalar α]
    {text : List Char}
    (isNumeral : IsNumeral text) :
    (Decimal.read? text : Option α).isSome := by
  have trimmed : trimmed Decimal.isPadding text = text :=
    trimmed_eq fun c present => (isNumeral.isPlain c present).notPadding
  have ascii : text.map Decimal.asciiDigit = text := by
    rw [List.map_congr_left fun c present => (isNumeral.isPlain c present).asciiDigit_eq,
      List.map_id']
  have unseparated : Decimal.withoutSeparators false text = some text :=
    withoutSeparators_eq (fun c present => (isNumeral.isPlain c present).notSeparator) false
  obtain ⟨mantissa, exponent, isMantissa, isExponent, rfl⟩ := isNumeral
  have magnitude : (Decimal.readMagnitude? (mantissa ++ exponent) : Option α).isSome :=
    isSome_readMagnitude? isMantissa isExponent
  rw [Decimal.read?, trimmed, ascii, unseparated]
  simp [splitSign_mantissa isMantissa exponent, magnitude]

end Lexer
end Calculator
