import Calculator.Arithmetic.Double

/-!
# Doubles taken apart

A double is a zero, a finite number, an infinity or not a number. The order of
doubles and their comparison with integers are those of these parts.
-/

namespace Calculator

open Float.Model Float.Model.UnpackedFloat

namespace Double

/-- A double as its arithmetic takes it apart. -/
def parts (x : Float) : UnpackedFloat :=
  x.toModel.unpack

@[simp] theorem parts_zero : parts 0.0 = .zero .positive := by
  rfl

theorem parts_abs_of_zero
    {x : Float}
    {sign : Sign}
    (zero : parts x = .zero sign) :
    parts x.abs = .zero .positive := by
  change (Float.Model.pack (parts x).abs).unpack = _
  rw [zero]
  change (Float.Model.pack (.zero .positive)).unpack = _
  rfl

section Unpacking

variable {bits : BitVec 64}

/-- Bits with the greatest exponent are an infinity over an empty mantissa, and else no number. -/
theorem unpack_of_full (full : @unpackExponent .binary64 bits = -1#11) :
    UnpackedFloat.unpack .binary64 bits =
      if @unpackMantissa .binary64 bits = 0#52 then
        .infinity (Sign.ofBitVec (@unpackSign .binary64 bits))
      else .notANumber := by
  delta UnpackedFloat.unpack
  dsimp only
  rw [if_pos full]

/-- Bits with a smaller exponent are a finite number. -/
theorem isFinite_unpack (smaller : @unpackExponent .binary64 bits ≠ -1#11) :
    (UnpackedFloat.unpack .binary64 bits).isFinite = true := by
  delta UnpackedFloat.unpack
  dsimp only
  rw [if_neg smaller]
  by_cases least : @unpackExponent .binary64 bits = 0#11
  · rw [if_pos least]
    by_cases empty : @unpackMantissa .binary64 bits = 0#52
    · rw [dif_pos empty]
      rfl
    · rw [dif_neg empty]
      rfl
  · rw [if_neg least]
    rfl

/-- Bits that are no number have the greatest exponent and a mantissa that is not empty. -/
theorem fields_of_unpack (undefined : UnpackedFloat.unpack .binary64 bits = .notANumber) :
    @unpackExponent .binary64 bits = -1#11 ∧ @unpackMantissa .binary64 bits ≠ 0#52 := by
  by_cases full : @unpackExponent .binary64 bits = -1#11
  · refine ⟨full, fun empty => ?_⟩
    rw [unpack_of_full full, if_pos empty] at undefined
    cases undefined
  · have finite := isFinite_unpack full
    rw [undefined] at finite
    cases finite

end Unpacking

/-- What is packed is a number when the parts are. -/
theorem unpack_pack_ne_notANumber
    {a : UnpackedFloat}
    (number : a ≠ .notANumber) :
    (Float.Model.pack a).unpack ≠ .notANumber := by
  change UnpackedFloat.unpack .binary64 (UnpackedFloat.pack .binary64 a) ≠ .notANumber
  intro undefined
  -- The greatest exponent is packed with no mantissa.
  obtain ⟨exponentFull, mantissaFilled⟩ := fields_of_unpack undefined
  cases a with
  | notANumber => exact number rfl
  | infinity sign => exact mantissaFilled (unpackMantissa_packComponents ..)
  | zero sign => exact mantissaFilled (unpackMantissa_packComponents ..)
  | finite sign mantissa exponent positive =>
      delta UnpackedFloat.pack at exponentFull mantissaFilled
      dsimp only at exponentFull mantissaFilled
      split at exponentFull
      · rename_i large
        rw [if_pos large] at mantissaFilled
        exact mantissaFilled (unpackMantissa_packComponents ..)
      rename_i small
      split at exponentFull
      · rw [unpackExponent_packComponents] at exponentFull
        have equal := congrArg BitVec.toNat exponentFull
        rw [BitVec.toNat_ofNat, show (-1#11).toNat = 2 ^ 11 - 1 from rfl] at equal
        omega
      · rw [unpackExponent_packComponents] at exponentFull
        exact absurd exponentFull (by decide)

/-! ## Order -/

theorem lt_iff {x y : Float} : x < y ↔ (parts x).compare (parts y) = some .lt := by
  change decide (UnpackedFloat.lt (parts x) (parts y) = true) = true ↔ _
  simp [UnpackedFloat.lt]

theorem beq_iff {x y : Float} : (x == y) = true ↔ (parts x).compare (parts y) = some .eq := by
  change ((parts x).compare (parts y) == some .eq) = true ↔ _
  simp

/-- Parts in the other order compare the other way round. -/
theorem map_swap_compare (a b : UnpackedFloat) :
    (a.compare b).map Ordering.swap = b.compare a := by
  have swapExponents (m m' : Nat) (e e' : Int) :
      ((compare e e').then (compare m m')).swap = (compare e' e).then (compare m' m) := by
    rw [Ordering.swap_then, Std.OrientedOrd.eq_swap (a := e'), Std.OrientedOrd.eq_swap (a := m')]
  rcases a with (_ | _) | _ | _ | ⟨_ | _, m, e, _⟩ <;>
    rcases b with (_ | _) | _ | _ | ⟨_ | _, m', e', _⟩
  case finite.negative.finite.negative =>
    exact congrArg (some ·.swap) (swapExponents m m' e e')
  case finite.positive.finite.positive => exact congrArg some (swapExponents m m' e e')
  all_goals rfl

/-- Only what is not a number has no order. -/
theorem compare_eq_none_iff {a b : UnpackedFloat} :
    a.compare b = none ↔ a = .notANumber ∨ b = .notANumber := by
  constructor
  · intro unordered
    rcases a with (_ | _) | _ | _ | ⟨_ | _, m, e, _⟩
    all_goals
      rcases b with (_ | _) | _ | _ | ⟨_ | _, m', e', _⟩
    all_goals first | exact .inl rfl | exact .inr rfl | cases unordered
  · rintro (rfl | rfl)
    · rfl
    · rcases a with (_ | _) | _ | _ | ⟨_ | _, m, e, _⟩ <;> rfl

/-- The order of two doubles is that of their parts. -/
theorem order_eq (x y : Float) : order x y = (parts x).compare (parts y) := by
  have swapped := map_swap_compare (parts x) (parts y)
  simp only [order, lt_iff, beq_iff, ← swapped]
  rcases (parts x).compare (parts y) with _ | _ | _ | _ <;> simp

end Double

namespace Binary

/-- The binary fraction of parts. -/
def ofParts : UnpackedFloat → Binary
  | .notANumber => .undefined
  | .infinity sign => .infinite (sign == .negative)
  | .zero sign => .finite (sign == .negative) 0 (-1074)
  | .finite sign mantissa exponent _ => .finite (sign == .negative) mantissa exponent

theorem toNat_unpackExponent (bits : BitVec 64) :
    (@unpackExponent .binary64 bits).toNat =
      bits.toNat / powerOfTwo 52 % powerOfTwo 11 := by
  rw [unpackExponent]
  simp [BitVec.extractLsb, Nat.shiftRight_eq_div_pow, powerOfTwo]

theorem toNat_unpackMantissa (bits : BitVec 64) :
    (@unpackMantissa .binary64 bits).toNat = bits.toNat % powerOfTwo 52 := by
  rw [unpackMantissa]
  simp [BitVec.extractLsb, powerOfTwo]

theorem toNat_unpackSign (bits : BitVec 64) :
    (@unpackSign .binary64 bits).toNat = bits.toNat / powerOfTwo 63 % 2 := by
  change (bits.extractLsb 63 63).toNat = _
  simp [BitVec.extractLsb, Nat.shiftRight_eq_div_pow, powerOfTwo]

/-- The binary fraction of a double is that of its parts. -/
theorem ofFloat_eq (x : Float) : ofFloat x = ofParts (Double.parts x) := by
  change ofBits x.toBits.toBitVec.toNat = ofParts (unpack .binary64 x.toBits.toBitVec)
  generalize x.toBits.toBitVec = bits
  have negative : (bits.toNat / powerOfTwo 63 % 2 == 1) =
      (Sign.ofBitVec (@unpackSign .binary64 bits) == .negative) := by
    rw [← toNat_unpackSign]
    generalize @unpackSign .binary64 bits = sign
    revert sign
    decide
  have full : (@unpackExponent .binary64 bits).toNat = powerOfTwo 11 - 1 ↔
      @unpackExponent .binary64 bits = -1#11 := by
    rw [BitVec.toNat_eq]
    rfl
  have none : (@unpackExponent .binary64 bits).toNat = 0 ↔
      @unpackExponent .binary64 bits = 0#11 := by
    rw [BitVec.toNat_eq]
    rfl
  have whole : (@unpackMantissa .binary64 bits).toNat = 0 ↔
      @unpackMantissa .binary64 bits = 0#52 := by
    rw [BitVec.toNat_eq]
    rfl
  have leading : (1#1 ++ @unpackMantissa .binary64 bits).toNat =
      (@unpackMantissa .binary64 bits).toNat + powerOfTwo 52 := by
    rw [BitVec.toNat_append,
      ← Nat.shiftLeft_add_eq_or_of_lt (@unpackMantissa .binary64 bits).isLt, Nat.add_comm]
    rfl
  have least (small : @unpackExponent .binary64 bits = 0#11) :
      ((@unpackExponent .binary64 bits).toNat : Int) -
        (Format.binary64.exponentBias + Format.binary64.mantissaBitsWithoutImplicit) + 1 =
          -1074 := by
    rw [small]
    rfl
  conv =>
    lhs
    simp only [ofBits, negative, ← toNat_unpackExponent, ← toNat_unpackMantissa, full, none,
      whole]
  delta UnpackedFloat.unpack
  dsimp only
  by_cases special : @unpackExponent .binary64 bits = -1#11
  · rw [if_pos special, if_pos special]
    by_cases zero : @unpackMantissa .binary64 bits = 0#52
    · rw [if_pos zero, if_pos zero]
      rfl
    · rw [if_neg zero, if_neg zero]
      rfl
  · rw [if_neg special, if_neg special]
    by_cases small : @unpackExponent .binary64 bits = 0#11
    · rw [if_pos small, if_pos small]
      by_cases zero : @unpackMantissa .binary64 bits = 0#52
      · rw [dif_pos zero, zero]
        rfl
      · rw [dif_neg zero]
        exact congrArg (Binary.finite _ _) (least small).symm
    · rw [if_neg small, if_neg small]
      exact congrArg (Binary.finite _ · _) leading.symm

/-! ## Comparison with integers -/

theorem orderInt_finite_ne_none (negative : Bool) (mantissa : Nat) (exponent n : Int) :
    (finite negative mantissa exponent).orderInt n ≠ none := by
  rw [orderInt]
  split <;> exact Option.some_ne_none _

/-- Only what is not a number has no order with an integer. -/
theorem orderInt_eq_none_iff {a : UnpackedFloat} {n : Int} :
    (ofParts a).orderInt n = none ↔ a = .notANumber := by
  cases a with
  | notANumber => exact iff_of_true rfl rfl
  | infinity sign => exact iff_of_false (Option.some_ne_none _) fun same => by cases same
  | zero sign | finite sign =>
      exact iff_of_false (orderInt_finite_ne_none _ _ _ n) fun same => by cases same

/-- A common positive factor does not change the order of integers. -/
theorem compare_mul_right
    {m n unit : Int}
    (positive : 0 < unit) :
    compare (m * unit) (n * unit) = compare m n := by
  rcases Int.lt_trichotomy m n with less | rfl | greater
  · rw [Int.compare_eq_lt.mpr less,
      Int.compare_eq_lt.mpr (Int.mul_lt_mul_of_pos_right less positive)]
  · rw [Int.compare_eq_eq.mpr rfl, Int.compare_eq_eq.mpr rfl]
  · rw [Int.compare_eq_gt.mpr greater,
      Int.compare_eq_gt.mpr (Int.mul_lt_mul_of_pos_right greater positive)]

/-- A zero of either sign compares like the integer zero. -/
theorem orderInt_of_mantissa_zero (negative : Bool) (exponent n : Int) :
    (finite negative 0 exponent).orderInt n = some (compare 0 n) := by
  have zero : signed negative 0 = 0 := by
    cases negative <;> rfl
  rw [orderInt, zero]
  split
  · rw [Int.zero_mul]
  · have unit : (0 : Int) < powerOfTwo (-exponent).toNat :=
      Int.natCast_pos.mpr (powerOfTwo_pos _)
    rw [← compare_mul_right (m := 0) (n := n) unit, Int.zero_mul]

/-- A binary fraction compares with the integer zero like its mantissa under its sign. -/
theorem orderInt_finite_zero (negative : Bool) (mantissa : Nat) (exponent : Int) :
    (finite negative mantissa exponent).orderInt 0 =
      some (compare (signed negative mantissa) 0) := by
  rw [orderInt]
  split
  · have unit : (0 : Int) < powerOfTwo exponent.toNat := Int.natCast_pos.mpr (powerOfTwo_pos _)
    rw [← compare_mul_right (m := signed negative mantissa) unit, Int.zero_mul]
  · rw [Int.zero_mul]

/-- The integer zero compares like the double zero. -/
theorem orderInt_zero (a : UnpackedFloat) :
    (ofParts a).orderInt 0 = a.compare (.zero .positive) := by
  cases a with
  | notANumber => rfl
  | infinity sign => cases sign <;> rfl
  | zero sign => exact orderInt_of_mantissa_zero _ _ 0
  | finite sign mantissa exponent positive =>
      change (finite (sign == .negative) mantissa exponent).orderInt 0 = _
      rw [orderInt_finite_zero]
      cases sign with
      | negative => exact congrArg some (Int.compare_eq_lt.mpr (Int.neg_neg_of_pos (by simpa)))
      | positive => exact congrArg some (Int.compare_eq_gt.mpr (Int.natCast_pos.mpr positive))

end Binary
end Calculator
