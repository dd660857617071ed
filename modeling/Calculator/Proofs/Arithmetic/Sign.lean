import Calculator.Proofs.Arithmetic.Order
import Mathlib.Logic.Basic

/-!
# Signs of doubles

Every double but the undefined one has a sign, and rounding keeps it. A product and a quotient are
defined unless they are indeterminate, and have the sign that the signs of their parts give. A sum
is defined unless it is one of opposite infinities.
-/

namespace Calculator

open Float.Model Float.Model.UnpackedFloat

namespace Double

/-- The sign of parts, which only what is not a number lacks. -/
def sign? : UnpackedFloat → Option Sign
  | .notANumber => none
  | .infinity sign => some sign
  | .zero sign => some sign
  | .finite sign .. => some sign

theorem sign?_eq_none_iff {a : UnpackedFloat} : sign? a = none ↔ a = .notANumber := by
  cases a with
  | notANumber => exact iff_of_true rfl rfl
  | infinity sign | zero sign | finite sign =>
      exact iff_of_false (Option.some_ne_none _) fun same => by cases same

/-! ## Storing -/

/-- Parts as they are read back from a double. -/
def stored (a : UnpackedFloat) : UnpackedFloat :=
  (Float.Model.pack a).unpack

theorem stored_infinity (sign : Sign) : stored (.infinity sign) = .infinity sign := by
  cases sign <;> rfl

theorem stored_zero (sign : Sign) : stored (.zero sign) = .zero sign := by
  cases sign <;> rfl

theorem unpackSign_packComponents
    {spec : Format}
    (sign : Sign)
    (exponent : BitVec spec.exponentBits)
    (mantissa : BitVec spec.mantissaBitsWithoutImplicit) :
    unpackSign (packComponents spec sign exponent mantissa) = sign.toBitVec := by
  ext index bound
  have first : index = 0 := by omega
  delta unpackSign
  simp [packComponents, BitVec.getLsbD_append, BitVec.getElem_append, first]

/-- The sign bit of what is packed. -/
theorem unpackSign_pack {a : UnpackedFloat} {sign : Sign} (signed : sign? a = some sign) :
    @unpackSign .binary64 (UnpackedFloat.pack .binary64 a) = sign.toBitVec := by
  cases a with
  | notANumber => cases signed
  | infinity sign | zero sign =>
      cases signed
      exact unpackSign_packComponents ..
  | finite sign mantissa exponent positive =>
      cases signed
      -- A finite number is packed as an infinity, a normal or a subnormal number.
      delta UnpackedFloat.pack
      dsimp only
      split
      · exact unpackSign_packComponents ..
      · split
        · exact unpackSign_packComponents ..
        · exact unpackSign_packComponents ..

/-- The sign of what is unpacked is its sign bit. -/
theorem sign?_unpack
    {bits : BitVec 64}
    (number : UnpackedFloat.unpack .binary64 bits ≠ .notANumber) :
    sign? (UnpackedFloat.unpack .binary64 bits) =
      some (Sign.ofBitVec (@unpackSign .binary64 bits)) := by
  delta UnpackedFloat.unpack at number ⊢
  dsimp only at number ⊢
  by_cases special : @unpackExponent .binary64 bits = -BitVec.ofNat _ 1
  · rw [if_pos special] at number ⊢
    by_cases empty : @unpackMantissa .binary64 bits = BitVec.ofNat _ 0
    · rw [if_pos empty]
      rfl
    · rw [if_neg empty] at number
      exact absurd rfl number
  · rw [if_neg special]
    by_cases tiny : @unpackExponent .binary64 bits = BitVec.ofNat _ 0
    · rw [if_pos tiny]
      by_cases empty : @unpackMantissa .binary64 bits = BitVec.ofNat _ 0
      · rw [dif_pos empty]
        rfl
      · rw [dif_neg empty]
        rfl
    · rw [if_neg tiny]
      rfl

/-- Storing keeps the sign, and what is not a number stays so. -/
theorem sign?_stored (a : UnpackedFloat) : sign? (stored a) = sign? a := by
  cases signed : sign? a with
  | none =>
      rw [sign?_eq_none_iff] at signed
      subst signed
      rfl
  | some sign =>
      have number : a ≠ .notANumber := by
        rintro rfl
        cases signed
      have restored : Sign.ofBitVec sign.toBitVec = sign := by
        cases sign <;> rfl
      rw [← restored, ← unpackSign_pack signed]
      exact sign?_unpack (unpack_pack_ne_notANumber number)

/-- Rounding keeps the sign. -/
theorem sign?_roundWithAccuracy
    (spec : Format)
    (sign : Sign)
    (mantissa : Nat)
    (exponent : Int)
    (accuracy : Accuracy) :
    sign? (roundWithAccuracy spec sign mantissa exponent accuracy) = some sign := by
  rw [roundWithAccuracy]
  dsimp only
  rw [apply_dite sign?]
  exact dite_eq_iff'.mpr ⟨fun _ => rfl, fun _ => rfl⟩

theorem roundWithAccuracy_ne_notANumber
    (spec : Format)
    (sign : Sign)
    (mantissa : Nat)
    (exponent : Int)
    (accuracy : Accuracy) :
    roundWithAccuracy spec sign mantissa exponent accuracy ≠ .notANumber := by
  rw [ne_eq, ← sign?_eq_none_iff, sign?_roundWithAccuracy]
  exact Option.some_ne_none sign

theorem normalize_ne_notANumber (spec : Format) (mantissa exponent : Int) (zeroSign : Sign) :
    UnpackedFloat.normalize spec mantissa exponent zeroSign ≠ .notANumber := by
  rw [UnpackedFloat.normalize]
  split
  · apply roundWithAccuracy_ne_notANumber
  · exact nofun
  · apply roundWithAccuracy_ne_notANumber

/-! ## Operations -/

section Operations

variable {spec : Format} {a b : UnpackedFloat}

/-- A product with a finite number has the product of the signs. -/
theorem sign?_mul_finite
    {sign : Sign}
    {mantissa : Nat}
    {exponent : Int}
    {positive : 0 < mantissa} :
    sign? (UnpackedFloat.mul spec a (.finite sign mantissa exponent positive)) =
      (sign? a).map (· * sign) := by
  cases a with
  | notANumber | infinity | zero => rfl
  | finite => exact sign?_roundWithAccuracy ..

theorem mul_notANumber : UnpackedFloat.mul spec a .notANumber = .notANumber := by
  cases a <;> rfl

/-- A product with an infinity is infinite or undefined. -/
theorem mul_infinity {sign : Sign} :
    UnpackedFloat.mul spec a (.infinity sign) = .notANumber ∨
      ∃ sign', UnpackedFloat.mul spec a (.infinity sign) = .infinity sign' := by
  cases a with
  | notANumber | zero => exact .inl rfl
  | infinity | finite => exact .inr ⟨_, rfl⟩

theorem sign?_finite_mul
    {sign : Sign}
    {mantissa : Nat}
    {exponent : Int}
    {positive : 0 < mantissa} :
    sign? (UnpackedFloat.mul spec (.finite sign mantissa exponent positive) b) =
      (sign? b).map (sign * ·) := by
  cases b with
  | notANumber | infinity | zero => rfl
  | finite => exact sign?_roundWithAccuracy ..

theorem sign?_div_finite
    {sign : Sign}
    {mantissa : Nat}
    {exponent : Int}
    {positive : 0 < mantissa} :
    sign? (UnpackedFloat.div spec a (.finite sign mantissa exponent positive)) =
      (sign? a).map (· / sign) := by
  cases a with
  | notANumber | infinity | zero => rfl
  | finite => exact sign?_roundWithAccuracy ..

/-- The root of a positive number is not negative. -/
theorem sign?_sqrt_finite
    {mantissa : Nat}
    {exponent : Int}
    {positive : 0 < mantissa} :
    sign? (UnpackedFloat.sqrt spec (.finite .positive mantissa exponent positive)) =
      some .positive :=
  sign?_roundWithAccuracy ..

/-- A sum is undefined only for opposite infinities. -/
theorem add_eq_notANumber_iff :
    UnpackedFloat.add spec a b = .notANumber ↔
      a = .notANumber ∨ b = .notANumber ∨
        ∃ sign sign', a = .infinity sign ∧ b = .infinity sign' ∧ (sign == sign') = false := by
  cases a with
  | notANumber => exact iff_of_true rfl (.inl rfl)
  | infinity sign =>
      cases b with
      | notANumber => exact iff_of_true rfl (.inr (.inl rfl))
      | zero | finite => exact iff_of_false nofun (by rintro (h | h | ⟨_, _, -, h, -⟩) <;> nomatch h)
      | infinity sign' =>
          change (if sign == sign' then infinity sign else .notANumber) = .notANumber ↔ _
          cases same : sign == sign' with
          | false => exact iff_of_true rfl (.inr (.inr ⟨_, _, rfl, rfl, same⟩))
          | true =>
              refine iff_of_false nofun ?_
              rintro (h | h | ⟨_, _, ⟨⟩, ⟨⟩, apart⟩)
              · nomatch h
              · nomatch h
              · rw [same] at apart
                nomatch apart
  | zero sign =>
      cases b with
      | notANumber => exact iff_of_true rfl (.inr (.inl rfl))
      | infinity | finite => exact iff_of_false nofun (by rintro (h | h | ⟨_, _, h, -⟩) <;> nomatch h)
      | zero sign' =>
          change (if sign == sign' then zero sign else zero .positive) = .notANumber ↔ _
          cases sign == sign' <;>
            exact iff_of_false nofun (by rintro (h | h | ⟨_, _, h, -⟩) <;> nomatch h)
  | finite =>
      cases b with
      | notANumber => exact iff_of_true rfl (.inr (.inl rfl))
      | infinity | zero => exact iff_of_false nofun (by rintro (h | h | ⟨_, _, h, -⟩) <;> nomatch h)
      | finite =>
          refine iff_of_false ?_ (by rintro (h | h | ⟨_, _, h, -⟩) <;> nomatch h)
          apply normalize_ne_notANumber

/-- Only a difference of equal infinities is undefined. -/
theorem sub_eq_notANumber_iff :
    UnpackedFloat.sub spec a b = .notANumber ↔
      a = .notANumber ∨ b = .notANumber ∨
        ∃ sign sign', a = .infinity sign ∧ b = .infinity sign' ∧ (sign == -sign') = false := by
  cases a with
  | notANumber => exact iff_of_true rfl (.inl rfl)
  | infinity sign =>
      cases b with
      | notANumber => exact iff_of_true rfl (.inr (.inl rfl))
      | zero | finite => exact iff_of_false nofun (by rintro (h | h | ⟨_, _, -, h, -⟩) <;> nomatch h)
      | infinity sign' =>
          change (if sign == -sign' then infinity sign else .notANumber) = .notANumber ↔ _
          cases same : sign == -sign' with
          | false => exact iff_of_true rfl (.inr (.inr ⟨_, _, rfl, rfl, same⟩))
          | true =>
              refine iff_of_false nofun ?_
              rintro (h | h | ⟨_, _, ⟨⟩, ⟨⟩, apart⟩)
              · nomatch h
              · nomatch h
              · rw [same] at apart
                nomatch apart
  | zero sign =>
      cases b with
      | notANumber => exact iff_of_true rfl (.inr (.inl rfl))
      | infinity | finite => exact iff_of_false nofun (by rintro (h | h | ⟨_, _, h, -⟩) <;> nomatch h)
      | zero sign' =>
          change (if sign == -sign' then zero sign else zero .positive) = .notANumber ↔ _
          cases sign == -sign' <;>
            exact iff_of_false nofun (by rintro (h | h | ⟨_, _, h, -⟩) <;> nomatch h)
  | finite =>
      cases b with
      | notANumber => exact iff_of_true rfl (.inr (.inl rfl))
      | infinity | zero => exact iff_of_false nofun (by rintro (h | h | ⟨_, _, h, -⟩) <;> nomatch h)
      | finite =>
          refine iff_of_false ?_ (by rintro (h | h | ⟨_, _, h, -⟩) <;> nomatch h)
          apply normalize_ne_notANumber

theorem isInf_iff : a.isInf = true ↔ ∃ sign, a = .infinity sign := by
  cases a with
  | infinity sign => exact iff_of_true rfl ⟨sign, rfl⟩
  | notANumber | zero | finite => exact iff_of_false nofun (fun ⟨_, h⟩ => nomatch h)

/-- Only a quotient of infinities or of zeros is undefined. -/
theorem div_eq_notANumber_iff :
    UnpackedFloat.div spec a b = .notANumber ↔
      a = .notANumber ∨ b = .notANumber ∨
        (a.isInf = true ∧ b.isInf = true) ∨
          ∃ sign sign', a = .zero sign ∧ b = .zero sign' := by
  cases a with
  | notANumber => exact iff_of_true rfl (.inl rfl)
  | infinity =>
      cases b with
      | notANumber => exact iff_of_true rfl (.inr (.inl rfl))
      | infinity => exact iff_of_true rfl (.inr (.inr (.inl ⟨rfl, rfl⟩)))
      | zero | finite =>
          exact iff_of_false nofun (by rintro (h | h | ⟨-, h⟩ | ⟨_, _, h, -⟩) <;> nomatch h)
  | zero =>
      cases b with
      | notANumber => exact iff_of_true rfl (.inr (.inl rfl))
      | zero => exact iff_of_true rfl (.inr (.inr (.inr ⟨_, _, rfl, rfl⟩)))
      | infinity | finite =>
          exact iff_of_false nofun (by rintro (h | h | ⟨h, -⟩ | ⟨_, _, -, h⟩) <;> nomatch h)
  | finite =>
      cases b with
      | notANumber => exact iff_of_true rfl (.inr (.inl rfl))
      | infinity | zero =>
          exact iff_of_false nofun (by rintro (h | h | ⟨h, -⟩ | ⟨_, _, h, -⟩) <;> nomatch h)
      | finite =>
          refine iff_of_false ?_ (by rintro (h | h | ⟨h, -⟩ | ⟨_, _, h, -⟩) <;> nomatch h)
          apply roundWithAccuracy_ne_notANumber

end Operations

/-! ## Doubles -/

section Doubles

open Scalar

variable {x y : Float}

theorem parts_add (x y : Float) :
    parts (x + y) = stored (UnpackedFloat.add .binary64 (parts x) (parts y)) := rfl

theorem parts_sub (x y : Float) :
    parts (x - y) = stored (UnpackedFloat.sub .binary64 (parts x) (parts y)) := rfl

theorem parts_mul (x y : Float) :
    parts (x * y) = stored (UnpackedFloat.mul .binary64 (parts x) (parts y)) := rfl

theorem parts_div (x y : Float) :
    parts (x / y) = stored (UnpackedFloat.div .binary64 (parts x) (parts y)) := rfl

theorem parts_sqrt (x : Float) :
    parts x.sqrt = stored (UnpackedFloat.sqrt .binary64 (parts x)) := rfl

theorem parts_neg (x : Float) : parts (-x) = stored (parts x).neg := rfl

theorem stored_eq_notANumber_iff {a : UnpackedFloat} : stored a = .notANumber ↔ a = .notANumber := by
  rw [← sign?_eq_none_iff, sign?_stored, sign?_eq_none_iff]

theorem isNaN_eq_false_iff : isNaN x = false ↔ ∃ sign, sign? (parts x) = some sign := by
  rw [← Option.ne_none_iff_exists', ne_eq, sign?_eq_none_iff, ← isNaN_iff, Bool.not_eq_true]

theorem isFinite_iff : Scalar.isFinite x = true ↔ (parts x).isFinite = true := Iff.rfl

theorem isInfinite_iff : isInfinite x = true ↔ ∃ sign, parts x = .infinity sign := by
  rw [isInfinite, Bool.and_eq_true, Bool.not_eq_true', Bool.not_eq_true', ← Bool.not_eq_true,
    ← Bool.not_eq_true, isNaN_iff, isFinite_iff]
  cases parts x with
  | notANumber => exact iff_of_false (fun h => h.2 rfl) (fun ⟨_, h⟩ => nomatch h)
  | infinity sign => exact iff_of_true ⟨nofun, nofun⟩ ⟨sign, rfl⟩
  | zero | finite => exact iff_of_false (fun h => h.1 rfl) (fun ⟨_, h⟩ => nomatch h)

/-- A positive finite double. -/
theorem exists_parts_of_positive
    (finite : Scalar.isFinite x = true)
    (positive : isPositive x = true) :
    ∃ mantissa exponent pos, parts x = .finite .positive mantissa exponent pos := by
  rw [isPositive, Scalar.less, scalar_order_eq, parts_zero] at positive
  rw [isFinite_iff] at finite
  cases isParts : parts x with
  | notANumber | infinity =>
      rw [isParts] at finite
      cases finite
  | zero sign =>
      rw [isParts] at positive
      cases positive
  | finite sign mantissa exponent pos =>
      rw [isParts] at positive
      cases sign with
      | negative => cases positive
      | positive => exact ⟨mantissa, exponent, pos, rfl⟩

@[simp] theorem isNaN_neg (x : Float) : isNaN (-x) = isNaN x := by
  rw [Bool.eq_iff_iff, isNaN_iff, isNaN_iff, parts_neg, stored_eq_notANumber_iff]
  cases parts x with
  | notANumber => exact Iff.rfl
  | infinity | zero | finite => exact iff_of_false nofun nofun

theorem isNaN_of_isInfinite (infinite : isInfinite x = true) : isNaN x = false := by
  obtain ⟨sign, isParts⟩ := isInfinite_iff.mp infinite
  exact isNaN_eq_false_iff.mpr ⟨sign, by rw [isParts]; rfl⟩

/-- An infinite double is positive when its sign is. -/
theorem isPositive_of_infinity {sign : Sign} (isParts : parts x = .infinity sign) :
    isPositive x = (sign == .positive) := by
  rw [isPositive, Scalar.less, scalar_order_eq, parts_zero, isParts]
  cases sign <;> rfl

/-- A double with a plus sign is positive unless it is zero. -/
theorem isPositive_of_sign?
    (signed : sign? (parts x) = some .positive)
    (nonzero : isZero x = false) :
    isPositive x = true := by
  rw [isPositive, Scalar.less, scalar_order_eq, parts_zero]
  cases isParts : parts x with
  | notANumber =>
      rw [isParts] at signed
      cases signed
  | zero sign =>
      rw [isZero_iff.mpr ⟨sign, isParts⟩] at nonzero
      cases nonzero
  | infinity sign | finite sign =>
      rw [isParts] at signed
      cases signed
      rfl

theorem isFinite_of_isZero (zero : isZero x = true) : Scalar.isFinite x = true := by
  obtain ⟨sign, isParts⟩ := isZero_iff.mp zero
  rw [isFinite_iff, isParts]
  rfl

theorem isInfinite_eq_not (defined : isNaN x = false) : isInfinite x = !Scalar.isFinite x := by
  rw [isInfinite, defined, Bool.not_false, Bool.and_true]

theorem isInfinite_of_isFinite (finite : Scalar.isFinite x = true) : isInfinite x = false := by
  rw [isInfinite_eq_not (isNaN_of_isFinite finite), finite, Bool.not_true]

/-- What is finite in a double was finite before it was stored. -/
theorem isFinite_of_isFinite_stored
    {a : UnpackedFloat}
    (finite : (stored a).isFinite = true) :
    a.isFinite = true := by
  cases a with
  | zero | finite => rfl
  | notANumber =>
      rw [stored_eq_notANumber_iff.mpr rfl] at finite
      cases finite
  | infinity sign =>
      rw [stored_infinity] at finite
      cases finite

/-- Only a finite factor leaves a product finite. -/
theorem isFinite_of_isFinite_mul (finite : Scalar.isFinite (x * y) = true) :
    Scalar.isFinite y = true := by
  rw [isFinite_iff, parts_mul] at finite
  replace finite := isFinite_of_isFinite_stored finite
  rw [isFinite_iff]
  cases isParts : parts y with
  | zero | finite => rfl
  | notANumber =>
      rw [isParts, mul_notANumber] at finite
      cases finite
  | infinity sign =>
      rw [isParts] at finite
      rcases mul_infinity with undefined | ⟨sign', infinite⟩
      · rw [undefined] at finite
        cases finite
      · rw [infinite] at finite
        cases finite

/-- Only finite terms have a finite sum. -/
theorem isFinite_of_isFinite_add (finite : Scalar.isFinite (x + y) = true) :
    Scalar.isFinite x = true ∧ Scalar.isFinite y = true := by
  rw [isFinite_iff, parts_add] at finite
  replace finite := isFinite_of_isFinite_stored finite
  rw [isFinite_iff, isFinite_iff]
  generalize parts x = a at *
  generalize parts y = b at *
  cases a <;> cases b
  case infinity.infinity sign sign' =>
    change (if sign == sign' then infinity sign else .notANumber).isFinite = true at finite
    split at finite <;> cases finite
  all_goals first | exact ⟨rfl, rfl⟩ | cases finite

/-- Factors may change places. -/
theorem mul_swap (x y : Float) : x * y = y * x := by
  have signs (s s' : Sign) : s * s' = s' * s := by cases s <;> cases s' <;> rfl
  have swapped (a b : UnpackedFloat) :
      UnpackedFloat.mul .binary64 a b = UnpackedFloat.mul .binary64 b a := by
    cases a <;> cases b
    case finite.finite s m e _ s' m' e' _ =>
      change roundWithAccuracy .binary64 (s * s') (m * m') (e + e') .exact =
        roundWithAccuracy .binary64 (s' * s) (m' * m) (e' + e) .exact
      rw [signs, Nat.mul_comm, Int.add_comm]
    all_goals first | rfl | exact congrArg _ (signs _ _)
  exact congrArg (fun a => (⟨Float.Model.pack a⟩ : Float)) (swapped (parts x) (parts y))

/-- A product with a positive finite double is defined when the other factor is. -/
theorem isNaN_mul (finite : Scalar.isFinite y = true) (positive : isPositive y = true) :
    isNaN (x * y) = isNaN x := by
  obtain ⟨mantissa, exponent, pos, isParts⟩ := exists_parts_of_positive finite positive
  rw [Bool.eq_iff_iff, isNaN_iff, isNaN_iff, parts_mul, isParts, ← sign?_eq_none_iff, sign?_stored,
    sign?_mul_finite, Option.map_eq_none_iff, sign?_eq_none_iff]

/-- A sum of doubles is undefined only for opposite infinities. -/
theorem isNaN_add_iff :
    isNaN (x + y) = true ↔
      isNaN x = true ∨ isNaN y = true ∨
        (isInfinite x = true ∧ isInfinite y = true ∧ isPositive x ≠ isPositive y) := by
  simp only [isNaN_iff, isInfinite_iff, parts_add, stored_eq_notANumber_iff, add_eq_notANumber_iff]
  refine or_congr_right (or_congr_right ?_)
  constructor
  · rintro ⟨sign, sign', isParts, isParts', apart⟩
    refine ⟨⟨sign, isParts⟩, ⟨sign', isParts'⟩, ?_⟩
    rw [isPositive_of_infinity isParts, isPositive_of_infinity isParts']
    revert apart
    cases sign <;> cases sign' <;> decide
  · rintro ⟨⟨sign, isParts⟩, ⟨sign', isParts'⟩, apart⟩
    refine ⟨sign, sign', isParts, isParts', ?_⟩
    rw [isPositive_of_infinity isParts, isPositive_of_infinity isParts'] at apart
    revert apart
    cases sign <;> cases sign' <;> decide

theorem isNaN_add_of_isFinite (finite : Scalar.isFinite x = true) : isNaN (x + y) = isNaN y := by
  rw [Bool.eq_iff_iff, isNaN_add_iff, isNaN_of_isFinite finite, isInfinite_of_isFinite finite]
  simp

/-- A quotient of doubles is undefined only for infinities and for zeros. -/
theorem isNaN_quotient_iff :
    isNaN (x / y) = true ↔
      isNaN x = true ∨ isNaN y = true ∨ (isInfinite x = true ∧ isInfinite y = true) ∨
        (isZero x = true ∧ isZero y = true) := by
  simp only [isNaN_iff, isInfinite_iff, isZero_iff, parts_div, stored_eq_notANumber_iff,
    div_eq_notANumber_iff, isInf_iff, exists_and_left, exists_and_right]

/-- A quotient of doubles over a divisor that is not zero is undefined only for infinities. -/
theorem isNaN_div_iff (nonzero : isZero y = false) :
    isNaN (x / y) = true ↔
      isNaN x = true ∨ isNaN y = true ∨ (isInfinite x = true ∧ isInfinite y = true) := by
  rw [isNaN_quotient_iff, nonzero]
  simp

/-- A quotient less its divisor is defined when the quotient is. -/
theorem isNaN_div_sub_self
    (nonzero : isZero y = false)
    (defined : isNaN (x / y) = false) :
    isNaN (x / y - y) = false := by
  rw [← Bool.not_eq_true, isNaN_div_iff nonzero, isNaN_iff, isNaN_iff] at defined
  rw [← Bool.not_eq_true, isNaN_iff, parts_sub, stored_eq_notANumber_iff, sub_eq_notANumber_iff]
  rintro (undefined | undefined | ⟨sign, sign', infinite, isParts, -⟩)
  · rw [← isNaN_iff, isNaN_div_iff nonzero, isNaN_iff, isNaN_iff] at undefined
    exact defined undefined
  · exact defined (.inr (.inl undefined))
  · -- What is finite vanishes over an infinity, and nothing else has a quotient over it.
    have divisor : isInfinite y = true := isInfinite_iff.mpr ⟨sign', isParts⟩
    rw [parts_div, isParts] at infinite
    cases isParts : parts x with
    | notANumber => exact defined (.inl isParts)
    | infinity sign => exact defined (.inr (.inr ⟨isInfinite_iff.mpr ⟨sign, isParts⟩, divisor⟩))
    | zero sign | finite sign =>
        rw [isParts] at infinite
        change stored (.zero (sign / sign')) = _ at infinite
        rw [stored_zero] at infinite
        cases infinite

end Doubles

end Double
end Calculator
