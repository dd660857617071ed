import Calculator.Proofs.Arithmetic.Conversion
import Calculator.Proofs.Arithmetic.Special
import Calculator.Proofs.Decimal.Plain
import Calculator.Proofs.Decimal.Shortest

/-!
# The text of a double reads back

The text that writes a finite double by the fewest digits is read as the very same double.
-/

namespace Calculator

open Float.Model Float.Model.UnpackedFloat

/-! ## Doubles with the same parts -/

namespace Binary

/-- Bits that stand for the same finite fraction are the same. -/
theorem eq_of_ofBits_finite
    {bits bits' mantissa : Nat}
    {negative : Bool}
    {exponent : Int}
    (bound : bits < 2 ^ 64)
    (bound' : bits' < 2 ^ 64)
    (isFinite : ofBits bits = .finite negative mantissa exponent)
    (isFinite' : ofBits bits' = .finite negative mantissa exponent) :
    bits = bits' := by
  have fields {bits : Nat} (bound : bits < 2 ^ 64)
      (isFinite : ofBits bits = .finite negative mantissa exponent) :
      bits = negative.toNat * 2 ^ 63 + (exponent + 1074).toNat * 2 ^ 52 + mantissa := by
    have isNegative : (bits / 2 ^ 63 % 2 == 1).toNat = bits / 2 ^ 63 := by
      rcases Nat.lt_or_ge bits (2 ^ 63) with less | more
      · rw [Nat.div_eq_of_lt less]
        rfl
      · rw [show bits / 2 ^ 63 = 1 by omega]
        rfl
    have twoPower (exponent : Nat) : powerOfTwo exponent = 2 ^ exponent := rfl
    simp only [ofBits, twoPower] at isFinite
    split at isFinite
    · split at isFinite <;> cases isFinite
    · split at isFinite
      · cases isFinite
        rw [isNegative]
        omega
      · cases isFinite
        rw [isNegative, Int.ofNat_eq_natCast]
        omega
  rw [fields bound isFinite, fields bound' isFinite']

end Binary

namespace Double

open Binary

theorem eq_of_ofFloat
    {x y : Float}
    {negative : Bool}
    {mantissa : Nat}
    {exponent : Int}
    (isFinite : ofFloat x = .finite negative mantissa exponent)
    (isFinite' : ofFloat y = .finite negative mantissa exponent) :
    x = y := by
  refine eq_of_toBitVec (BitVec.eq_of_toNat_eq ?_)
  exact eq_of_ofBits_finite x.toBits.toBitVec.isLt y.toBits.toBitVec.isLt isFinite isFinite'

section Finite

variable
  {mantissa : Nat}
  {exponent : Int}
  {positive : 0 < mantissa}
  (canonical : (Binary.finite false mantissa exponent).IsCanonical)

include canonical

/-- A double that stands at a positive place has the parts of it. -/
theorem parts_of_standsAt {y : Float} (standsAt : StandsAt y (mantissa * 2 ^ exponent)) :
    parts y = .finite .positive mantissa exponent positive := by
  have magnitude := magnitude_pos positive exponent
  rcases standsAt.hasValue.parts_cases with
    ⟨zero, -⟩ | ⟨sign, mantissa', exponent', positive', isParts, canonical', same⟩
  · exact absurd zero magnitude.ne'
  · cases sign with
    | negative =>
        have magnitude' := magnitude_pos positive' exponent'
        have below : (mantissa : ℚ) * 2 ^ exponent = -(mantissa' * 2 ^ exponent') := same
        linarith
    | positive =>
        have same : (mantissa : ℚ) * 2 ^ exponent = mantissa' * 2 ^ exponent' := same
        obtain rfl : exponent = exponent' := by
          rcases lt_trichotomy exponent exponent' with less | equal | greater
          · exact absurd same (lt_of_exponent_lt canonical canonical' less).ne
          · exact equal
          · exact absurd same.symm (lt_of_exponent_lt canonical' canonical greater).ne
        obtain rfl : mantissa = mantissa' := by
          exact_mod_cast mul_right_cancel₀ (by positivity) same
        exact isParts

/-- A double under a sign has the parts of the double and the sign. -/
theorem ofFloat_signed
    {y : Float}
    (isParts : parts y = .finite .positive mantissa exponent positive)
    (negative : Bool) :
    ofFloat (if negative then -y else y) = .finite negative mantissa exponent := by
  cases negative with
  | false =>
      rw [if_neg Bool.false_ne_true, ofFloat_eq, isParts]
      rfl
  | true =>
      rw [if_pos rfl, ofFloat_eq, parts_neg, isParts]
      change ofParts (stored (.finite .negative mantissa exponent positive)) = _
      rw [stored_finite canonical (exponent_le isParts)]
      rfl

end Finite

/-- What a numeral is read as stands where its value is rounded to. -/
theorem isRounded_scaled (coefficient : Nat) (scale : Int) :
    IsRounded (Decimal.scaled Float coefficient scale) (coefficient * 10 ^ scale) := by
  have isRounded := isRounded_ofScientific coefficient (decide (scale < 0)) scale.natAbs
  have isScale : (if decide (scale < 0) then -scale.natAbs else scale.natAbs : ℤ) = scale := by
    split
    · next negative =>
      have below := of_decide_eq_true negative
      omega
    · next nonneg =>
      have above := of_decide_eq_false (Bool.not_eq_true _ ▸ nonneg)
      omega
  rwa [isScale] at isRounded

/-- The shortest decimal of a binary fraction is read as the double with these parts. -/
theorem parts_of_shortest
    {mantissa : Nat}
    {exponent : Int}
    (positive : 0 < mantissa)
    (canonical : (Binary.finite false mantissa exponent).IsCanonical)
    (small : exponent ≤ 971)
    {coefficient : Nat}
    {scale : Int}
    (value : (coefficient : ℚ) * 10 ^ scale =
      (Decimal.shortest mantissa exponent).coefficient *
        10 ^ (Decimal.shortest mantissa exponent).scale) :
    parts (Decimal.scaled Float coefficient scale) =
      .finite .positive mantissa exponent positive := by
  have isRounded := isRounded_scaled coefficient scale
  have inside : |(mantissa : ℚ) * 2 ^ exponent| < Line.limit :=
    abs_mirrored_lt_limit canonical small false
  rw [IsRounded, Line.rounded, value, Decimal.nearest_shortest positive canonical small,
    Line.clipped_of_abs_lt inside] at isRounded
  exact parts_of_standsAt canonical isRounded

theorem denotes_zero : Decimal.Denotes "0.0".toList 0 (-1) :=
  have isZero : Lexer.AllDigits ['0'] := Decimal.allDigits_zeros 1
  Decimal.denotes_pointed isZero (List.cons_ne_nil _ _) isZero .absent rfl

/-- The text of a finite double is a numeral, perhaps under a sign, and denotes the double. -/
theorem exists_denotes_text {x : Float} (finite : Scalar.isFinite x = true) :
    ∃ (negative : Bool) (numeral : List Char) (coefficient : Nat) (scale : Int),
      (text x).toList = (if negative then '-' :: numeral else numeral) ∧
        Decimal.Denotes numeral coefficient scale ∧
        (if negative then -Decimal.scaled Float coefficient scale
          else Decimal.scaled Float coefficient scale) = x := by
  rw [isFinite_iff] at finite
  have canonical := isCanonical_parts x
  rw [text, render]
  cases isParts : parts x with
  | notANumber | infinity =>
      rw [isParts] at finite
      cases finite
  | zero sign =>
      have isFloat : ofFloat x = .finite (sign == .negative) 0 (-1074) := by
        rw [ofFloat_eq, isParts]
        rfl
      have isZero : ofFloat (if sign == .negative then -0.0 else 0.0) =
          .finite (sign == .negative) 0 (-1074) := by
        cases sign <;> rfl
      rw [isFloat]
      dsimp only
      rw [underSign, String.toList_ofList, if_pos rfl]
      exact ⟨_, _, _, _, rfl, denotes_zero, eq_of_ofFloat isZero isFloat⟩
  | finite sign mantissa exponent positive =>
      have isFloat : ofFloat x = .finite (sign == .negative) mantissa exponent := by
        rw [ofFloat_eq, isParts]
        rfl
      rw [isParts] at canonical
      obtain ⟨coefficient, scale, denotes, value⟩ :=
        (Decimal.shortest mantissa exponent).denotes_plain
      have isMagnitude :=
        parts_of_shortest positive canonical (exponent_le isParts) value
      rw [isFloat]
      dsimp only
      rw [underSign, String.toList_ofList, if_neg positive.ne']
      exact ⟨_, _, _, _, rfl, denotes,
        eq_of_ofFloat (ofFloat_signed canonical isMagnitude _) isFloat⟩

section Text

variable {x : Float} (finite : Scalar.isFinite x = true)

include finite

/-- The text of a finite double is read as that double. -/
theorem read?_text : Decimal.read? (text x).toList = some x := by
  obtain ⟨negative, numeral, coefficient, scale, isText, denotes, isDouble⟩ :=
    exists_denotes_text finite
  rw [isText, denotes.read?_eq, isDouble]

/-- It has no characters but those of numerals. -/
theorem isPlain_of_mem_text {c : Char} (present : c ∈ (text x).toList) : Lexer.IsPlain c := by
  obtain ⟨negative, numeral, coefficient, scale, isText, denotes, -⟩ := exists_denotes_text finite
  rw [isText] at present
  split at present
  · rcases List.mem_cons.mp present with rfl | inNumeral
    · exact Lexer.isPlain_of_mem (by simp)
    · exact denotes.isNumeral.isPlain c inNumeral
  · exact denotes.isNumeral.isPlain c present

end Text

end Double
end Calculator
