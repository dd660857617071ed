import Calculator.Decimal.Layout
import Calculator.Proofs.Lexer.Numeral
import Mathlib.Data.Rat.Cast.Order
import Mathlib.Tactic.FieldSimp
import Mathlib.Tactic.NormNum
import Mathlib.Tactic.Positivity
import Mathlib.Tactic.Ring

/-!
# Plain decimals can be read

What a decimal is written as is a numeral, and reading it gives a whole number of units that has the
value of the decimal.
-/

namespace Calculator
namespace Decimal

open Lexer

/-! ## Digits -/

theorem wholeNumber_eq (digits : List Char) : wholeNumber digits = Nat.ofDigitChars 10 digits 0 :=
  Nat.ofDigitChars_eq_foldl.symm

theorem wholeNumber_toDigits (n : Nat) : wholeNumber (Nat.toDigits 10 n) = n := by
  rw [wholeNumber_eq, Nat.ofDigitChars_ten_toDigits]

theorem wholeNumber_append (front rest : List Char) :
    wholeNumber (front ++ rest) = 10 ^ rest.length * wholeNumber front + wholeNumber rest := by
  rw [wholeNumber_eq, wholeNumber_eq, wholeNumber_eq, Nat.ofDigitChars_append,
    Nat.ofDigitChars_eq_ofDigitChars_zero]

theorem wholeNumber_zeros (count : Nat) : wholeNumber (List.replicate count '0') = 0 := by
  rw [wholeNumber_eq, Nat.ofDigitChars_replicate_zero, Nat.mul_zero]

theorem allDigits_toDigits (n : Nat) : AllDigits (Nat.toDigits 10 n) := by
  intro c present
  have digit := Nat.isDigit_of_mem_toDigits (by decide) (by decide) present
  rw [Char.isDigit, Bool.and_eq_true, decide_eq_true_eq, decide_eq_true_eq] at digit
  rw [Digit.isAscii, Bool.and_eq_true, decide_eq_true_eq, decide_eq_true_eq]
  exact digit

theorem allDigits_zeros (count : Nat) : AllDigits (List.replicate count '0') := by
  intro c present
  rw [List.eq_of_mem_replicate present]
  rfl

theorem allDigits_append {front rest : List Char} :
    AllDigits (front ++ rest) ↔ AllDigits front ∧ AllDigits rest :=
  List.forall_mem_append

/-! ## Reading -/

/-- A whole number of units, the unit being ten to the scale. -/
def scaled (α : Type) [Scalar α] (coefficient : Nat) (scale : Int) : α :=
  OfScientific.ofScientific coefficient (decide (scale < 0)) scale.natAbs

/-- A numeral with a leading digit is read as a whole number of units, in every arithmetic. -/
structure Denotes (text : List Char) (coefficient : Nat) (scale : Int) : Prop where
  isNumeral : IsNumeral text
  leads : ∃ digit rest, text = digit :: rest ∧ Digit.isAscii digit = true
  readMagnitude?_eq : ∀ (α : Type) [Scalar α], readMagnitude? text = some (scaled α coefficient scale)

variable {whole places exponent : List Char} {power : Int}

/-- Digits on both sides of a point. -/
theorem denotes_pointed
    (wholeDigits : AllDigits whole)
    (nonempty : whole ≠ [])
    (placesDigits : AllDigits places)
    (isExponent : IsExponent exponent)
    (isPower : readExponent? exponent = some power) :
    Denotes (whole ++ '.' :: places ++ exponent) (wholeNumber (whole ++ places))
      (power - places.length) where
  isNumeral := ⟨_, _, .pointed wholeDigits placesDigits (.inl nonempty), isExponent, rfl⟩
  leads := by
    obtain ⟨digit, rest, rfl⟩ := List.exists_cons_of_ne_nil nonempty
    exact ⟨digit, _, rfl, wholeDigits digit List.mem_cons_self⟩
  readMagnitude?_eq α _ := by
    have ends : ∀ c ∈ exponent.head?, Digit.isAscii c = false :=
      fun c first => (isExponent.head_not_digit c first).1
    have pointEnds : ∀ c ∈ ('.' :: (places ++ exponent)).head?, Digit.isAscii c = false := by
      rintro c ⟨⟩
      rfl
    obtain ⟨taken, dropped⟩ := span_append wholeDigits pointEnds
    obtain ⟨placesTaken, placesDropped⟩ := span_append placesDigits ends
    rw [List.append_assoc, List.cons_append]
    unfold readMagnitude?
    simp only [taken, dropped, placesTaken, placesDropped]
    rw [if_neg (by simp [nonempty]), isPower]
    rfl

/-- Digits without a point. -/
theorem denotes_whole
    (wholeDigits : AllDigits whole)
    (nonempty : whole ≠ [])
    (isExponent : IsExponent exponent)
    (isPower : readExponent? exponent = some power) :
    Denotes (whole ++ exponent) (wholeNumber whole) power where
  isNumeral := ⟨_, _, .whole wholeDigits nonempty, isExponent, rfl⟩
  leads := by
    obtain ⟨digit, rest, rfl⟩ := List.exists_cons_of_ne_nil nonempty
    exact ⟨digit, _, rfl, wholeDigits digit List.mem_cons_self⟩
  readMagnitude?_eq α _ := by
    have ends : ∀ c ∈ exponent.head?, Digit.isAscii c = false :=
      fun c first => (isExponent.head_not_digit c first).1
    obtain ⟨taken, dropped⟩ := span_append wholeDigits ends
    unfold readMagnitude?
    simp only [taken, dropped]
    split
    · exact absurd rfl (isExponent.head_not_digit '.' rfl).2
    · rw [if_neg (by simp [nonempty]), isPower]
      simp [scaled]

/-- A text of characters that stand for themselves is read as it is. -/
theorem read?_of_isPlain
    {α : Type}
    [Scalar α]
    {text : List Char}
    (isPlain : ∀ c ∈ text, IsPlain c) :
    (read? text : Option α) =
      ((readWord? (splitSign text).2).or (readMagnitude? (splitSign text).2)).map
        fun magnitude => if (splitSign text).1 then -magnitude else magnitude := by
  have trimmed : trimmed isPadding text = text :=
    trimmed_eq fun c present => (isPlain c present).notPadding
  have ascii : text.map asciiDigit = text := by
    rw [List.map_congr_left fun c present => (isPlain c present).asciiDigit_eq, List.map_id']
  have unseparated : withoutSeparators false text = some text :=
    withoutSeparators_eq (fun c present => (isPlain c present).notSeparator) false
  rw [read?, trimmed, ascii, unseparated]
  exact Option.map_eq_bind.symm

/-- No word begins with a digit. -/
theorem readWord?_of_leads
    {α : Type}
    [Scalar α]
    {digit : Char}
    (isDigit : Digit.isAscii digit = true)
    (rest : List Char) :
    (readWord? (digit :: rest) : Option α) = none := by
  obtain ⟨value, small, rfl⟩ := exists_digit_of_isAscii isDigit
  have checked : ∀ value < 10,
      (Char.ofNat (48 + value)).toLower ≠ 'i' ∧ (Char.ofNat (48 + value)).toLower ≠ 'n' := by
    decide
  obtain ⟨notI, notN⟩ := checked value small
  simp [readWord?, notI, notN]

/-- A numeral is read as what it denotes, under a sign as the negative of it. -/
theorem Denotes.read?_eq
    {text : List Char}
    {coefficient : Nat}
    {scale : Int}
    (denotes : Denotes text coefficient scale)
    (α : Type)
    [Scalar α]
    (negative : Bool) :
    read? (if negative then '-' :: text else text) =
      some (if negative then -scaled α coefficient scale else scaled α coefficient scale) := by
  obtain ⟨digit, rest, isText, isDigit⟩ := denotes.leads
  have noWord : (readWord? text : Option α) = none := by
    rw [isText]
    exact readWord?_of_leads isDigit rest
  have isPlain := denotes.isNumeral.isPlain
  cases negative with
  | true =>
      have signed : splitSign ('-' :: text) = (true, text) := rfl
      rw [if_pos rfl, if_pos rfl, read?_of_isPlain, signed, noWord, denotes.readMagnitude?_eq]
      · rfl
      · exact List.forall_mem_cons.mpr ⟨isPlain_of_mem (by simp), isPlain⟩
  | false =>
      have unsigned : splitSign text = (false, text) := by
        refine splitSign_eq fun c first => ?_
        rw [isText] at first
        cases first
        exact isNumeral_of_isAscii isDigit
      rw [if_neg Bool.false_ne_true, if_neg Bool.false_ne_true, read?_of_isPlain isPlain, unsigned,
        noWord, denotes.readMagnitude?_eq]
      rfl

/-! ## Layouts -/

theorem isExponent_exponentText (power : Int) : IsExponent ('e' :: exponentText power) := by
  refine .signed (.inl rfl) ?_ (allDigits_append.mpr ⟨allDigits_zeros _, allDigits_toDigits _⟩) ?_
  · split
    · exact .inr rfl
    · exact .inl rfl
  · exact List.append_ne_nil_of_right_ne_nil _ Nat.toDigits_ne_nil

theorem readExponent?_exponentText (power : Int) :
    readExponent? ('e' :: exponentText power) = some power := by
  have allDigits := allDigits_append.mpr
    ⟨allDigits_zeros (2 - (Nat.toDigits 10 power.natAbs).length), allDigits_toDigits power.natAbs⟩
  have isMagnitude : wholeNumber (List.replicate (2 - (Nat.toDigits 10 power.natAbs).length) '0' ++
      Nat.toDigits 10 power.natAbs) = power.natAbs := by
    rw [wholeNumber_append, wholeNumber_zeros, wholeNumber_toDigits, Nat.mul_zero, Nat.zero_add]
  have nonempty := List.append_ne_nil_of_right_ne_nil
    (List.replicate (2 - (Nat.toDigits 10 power.natAbs).length) '0')
    (Nat.toDigits_ne_nil (n := power.natAbs) (b := 10))
  rw [exponentText]
  generalize List.replicate _ '0' ++ Nat.toDigits 10 power.natAbs = digits at *
  have readable : (('e' = 'e' || 'e' = 'E') && !digits.isEmpty && digits.all Digit.isAscii) = true := by
    simp [nonempty]
    exact allDigits
  split
  · next negative =>
    refine (if_pos readable).trans (congrArg some ?_)
    change -(wholeNumber digits : Int) = power
    omega
  · next nonneg =>
    refine (if_pos readable).trans (congrArg some ?_)
    change (wholeNumber digits : Int) = power
    omega

variable (d : Decimal)

theorem wholeNumber_digits : wholeNumber d.digits = d.coefficient :=
  wholeNumber_toDigits d.coefficient

theorem allDigits_digits : AllDigits d.digits :=
  allDigits_toDigits d.coefficient

theorem denotes_scientific : Denotes d.scientific d.coefficient d.scale := by
  have allDigits := d.allDigits_digits
  have isCoefficient := d.wholeNumber_digits
  have isExponent := isExponent_exponentText d.leading
  have isPower := readExponent?_exponentText d.leading
  rw [scientific]
  cases isDigits : d.digits with
  | nil => exact absurd isDigits Nat.toDigits_ne_nil
  | cons digit rest =>
      rw [isDigits] at allDigits isCoefficient
      have digitDigits : AllDigits [digit] :=
        allDigits_cons.mpr ⟨allDigits digit List.mem_cons_self, allDigits_nil⟩
      cases rest with
      | nil =>
          have isLeading : d.leading = d.scale := by simp [leading, isDigits]
          have denotes := denotes_whole digitDigits (List.cons_ne_nil _ _) isExponent isPower
          rw [isCoefficient] at denotes
          rw [← isLeading]
          exact denotes
      | cons next rest =>
          have denotes := denotes_pointed digitDigits (List.cons_ne_nil _ _)
            (allDigits_cons.mp allDigits).2 isExponent isPower
          have isScale : d.leading - (next :: rest).length = d.scale := by
            simp [leading, isDigits]
          change Denotes _ (wholeNumber (digit :: next :: rest)) _ at denotes
          rw [isCoefficient, isScale] at denotes
          exact denotes

/-- All digits stand behind the point, perhaps with zeros before them. -/
theorem denotes_behind (zeros : Nat) :
    Denotes ('0' :: '.' :: List.replicate zeros '0' ++ d.digits) d.coefficient
      (-(zeros + d.digits.length)) := by
  have isZero : AllDigits ['0'] := allDigits_zeros 1
  have denotes := denotes_pointed isZero (List.cons_ne_nil _ _)
    (allDigits_append.mpr ⟨allDigits_zeros zeros, d.allDigits_digits⟩) .absent rfl
  have isWhole : wholeNumber (['0'] ++ (List.replicate zeros '0' ++ d.digits)) =
      d.coefficient := by
    have zero : wholeNumber ['0'] = 0 := rfl
    rw [wholeNumber_append, wholeNumber_append, wholeNumber_zeros, wholeNumber_digits, zero,
      Nat.mul_zero, Nat.mul_zero, Nat.zero_add, Nat.zero_add]
  rw [isWhole, List.append_nil, List.length_append, List.length_replicate, zero_sub,
    Nat.cast_add] at denotes
  exact denotes

/-- All digits stand before the point, perhaps with zeros behind them. -/
theorem denotes_before (zeros : Nat) :
    Denotes (d.digits ++ List.replicate zeros '0' ++ ".0".toList)
      (10 ^ (zeros + 1) * d.coefficient) (-1) := by
  have denotes := denotes_pointed
    (allDigits_append.mpr ⟨d.allDigits_digits, allDigits_zeros zeros⟩)
    (List.append_ne_nil_of_left_ne_nil Nat.toDigits_ne_nil _) (allDigits_zeros 1) .absent rfl
  have isWhole : wholeNumber (d.digits ++ List.replicate zeros '0' ++ List.replicate 1 '0') =
      10 ^ (zeros + 1) * d.coefficient := by
    rw [wholeNumber_append, wholeNumber_append, wholeNumber_zeros, wholeNumber_zeros,
      wholeNumber_digits, List.length_replicate, List.length_replicate, Nat.add_zero, Nat.add_zero,
      pow_succ]
    ring
  change Denotes _ (wholeNumber (d.digits ++ List.replicate zeros '0' ++ List.replicate 1 '0')) _
    at denotes
  rw [isWhole, List.append_nil] at denotes
  exact denotes

/-- The point stands between the digits. -/
theorem denotes_between {count : Nat} (positive : 0 < count) :
    Denotes (d.digits.take count ++ '.' :: d.digits.drop count) d.coefficient
      (-(d.digits.drop count).length) := by
  have wholeDigits : AllDigits (d.digits.take count) :=
    fun c present => d.allDigits_digits c (List.mem_of_mem_take present)
  have placesDigits : AllDigits (d.digits.drop count) :=
    fun c present => d.allDigits_digits c (List.mem_of_mem_drop present)
  have nonempty : d.digits.take count ≠ [] := by
    rw [Ne, List.take_eq_nil_iff, not_or]
    exact ⟨positive.ne', Nat.toDigits_ne_nil⟩
  have denotes := denotes_pointed wholeDigits nonempty placesDigits .absent rfl
  rw [List.take_append_drop, wholeNumber_digits, List.append_nil, zero_sub] at denotes
  exact denotes

theorem denotes_positional :
    ∃ coefficient scale, Denotes d.positional coefficient scale ∧
      (coefficient : ℚ) * 10 ^ scale = d.coefficient * 10 ^ d.scale := by
  have length_pos := List.length_pos_of_ne_nil (Nat.toDigits_ne_nil : d.digits ≠ [])
  have isLeading : d.leading = d.digits.length - 1 + d.scale := rfl
  rw [positional]
  split
  · next small =>
    have denotes := d.denotes_behind (-(d.leading + 1)).toNat
    have isScale : -(((-(d.leading + 1)).toNat : Int) + d.digits.length) = d.scale := by omega
    rw [isScale] at denotes
    exact ⟨_, _, denotes, rfl⟩
  split
  · next long =>
    have denotes := d.denotes_before ((d.leading + 1).toNat - d.digits.length)
    have isScale : d.scale = ((d.leading + 1).toNat - d.digits.length : Nat) := by omega
    refine ⟨_, _, denotes, ?_⟩
    rw [isScale, zpow_natCast, zpow_neg_one]
    push_cast
    rw [pow_succ]
    field_simp
  · next short =>
    have denotes := d.denotes_between (by omega : 0 < (d.leading + 1).toNat)
    have isScale : -((d.digits.drop (d.leading + 1).toNat).length : Int) = d.scale := by
      rw [List.length_drop]
      omega
    rw [isScale] at denotes
    exact ⟨_, _, denotes, rfl⟩

/-- The plain text of a decimal is read with its value. -/
theorem denotes_plain :
    ∃ coefficient scale, Denotes d.plain coefficient scale ∧
      (coefficient : ℚ) * 10 ^ scale = d.coefficient * 10 ^ d.scale := by
  rw [plain]
  split
  · exact d.denotes_positional
  · exact ⟨_, _, d.denotes_scientific, rfl⟩

end Decimal
end Calculator
