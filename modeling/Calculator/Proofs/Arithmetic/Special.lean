import Calculator.Proofs.Arithmetic.Sign

/-!
# Undefined and infinite doubles

There is one undefined double, and there is one infinity of each sign. The first bit of a number is
its sign, and a number over a zero is the infinity of both signs.
-/

namespace Calculator

open Float.Model Float.Model.UnpackedFloat

namespace Double

open Scalar

variable {x y : Float}

/-! ## Fields of bits -/

theorem toBitVec_ofBitVec (bit : BitVec 1) : (Sign.ofBitVec bit).toBitVec = bit := by
  revert bit
  decide

theorem toNat_toBitVec_eq_one_iff {sign : Sign} : sign.toBitVec.toNat = 1 ↔ sign = .negative := by
  cases sign with
  | negative => exact iff_of_true rfl rfl
  | positive => exact iff_of_false (by decide) nofun

/-- Bits are their fields put together again. -/
theorem packComponents_unpack (bits : BitVec 64) :
    packComponents .binary64 (Sign.ofBitVec (@unpackSign .binary64 bits))
      (@unpackExponent .binary64 bits) (@unpackMantissa .binary64 bits) = bits := by
  have upper : bits.extractLsb' 63 1 ++ bits.extractLsb' 52 11 = bits.extractLsb' 52 12 :=
    BitVec.extractLsb'_append_extractLsb'_eq_extractLsb' rfl
  have whole : bits.extractLsb' 52 12 ++ bits.extractLsb' 0 52 = bits.extractLsb' 0 64 :=
    BitVec.extractLsb'_append_extractLsb'_eq_extractLsb' rfl
  rw [packComponents, toBitVec_ofBitVec]
  change bits.extractLsb' 63 1 ++ bits.extractLsb' 52 11 ++ bits.extractLsb' 0 52 = bits
  rw [upper, whole, BitVec.extractLsb'_eq_self]

/-- Bits are an infinity under the greatest exponent over an empty mantissa. -/
theorem packedInfinity_eq_of_unpack
    {bits : BitVec 64}
    {sign : Sign}
    (infinite : UnpackedFloat.unpack .binary64 bits = .infinity sign) :
    packedInfinity .binary64 sign = bits := by
  by_cases full : @unpackExponent .binary64 bits = -1#11
  · have whole := packComponents_unpack bits
    rw [unpack_of_full full] at infinite
    by_cases empty : @unpackMantissa .binary64 bits = 0#52
    · rw [if_pos empty] at infinite
      cases infinite
      rw [full, empty] at whole
      exact whole
    · rw [if_neg empty] at infinite
      cases infinite
  · have finite := isFinite_unpack full
    rw [infinite] at finite
    cases finite

theorem eq_of_toBitVec (same : x.toBits.toBitVec = y.toBits.toBitVec) : x = y := by
  obtain ⟨⟨⟨bits⟩, valid⟩⟩ := x
  obtain ⟨⟨⟨bits'⟩, valid'⟩⟩ := y
  cases (same : bits = bits')
  rfl

/-! ## Special values -/

/-- There is one infinity of each sign. -/
theorem eq_of_parts_infinity
    {sign : Sign}
    (infinite : parts x = .infinity sign)
    (infinite' : parts y = .infinity sign) :
    x = y := by
  have packed := packedInfinity_eq_of_unpack infinite
  have packed' := packedInfinity_eq_of_unpack infinite'
  exact eq_of_toBitVec (packed.symm.trans packed')

/-- What is not a number has the bits that stand for it. -/
theorem toBitVec_of_parts_notANumber (undefined : parts x = .notANumber) :
    x.toBits.toBitVec = packedNaN .binary64 := by
  obtain ⟨full, filled⟩ := fields_of_unpack undefined
  exact x.toModel.valid.eq_packedNaN full filled

/-- There is one undefined double. -/
theorem eq_nan_of_isNaN (undefined : isNaN x = true) : x = nan := by
  have packed := toBitVec_of_parts_notANumber (isNaN_iff.mp undefined)
  have packed' := toBitVec_of_parts_notANumber (x := nan) rfl
  exact eq_of_toBitVec (packed.trans packed'.symm)

/-! ## Signs -/

/-- The first bit of a number is its sign. -/
theorem isSigned_of_sign? {sign : Sign} (signed : sign? (parts x) = some sign) :
    isSigned x = (sign == .negative) := by
  have number : parts x ≠ .notANumber := by
    intro undefined
    rw [undefined] at signed
    cases signed
  have read : sign? (parts x) = some (Sign.ofBitVec (@unpackSign .binary64 x.toBits.toBitVec)) :=
    sign?_unpack number
  have bit : sign.toBitVec = @unpackSign .binary64 x.toBits.toBitVec := by
    rw [← Option.some.inj (read.symm.trans signed), toBitVec_ofBitVec]
  have below : x.toBits.toNat / powerOfTwo 63 < 2 :=
    Nat.div_lt_of_lt_mul x.toBits.toBitVec.isLt
  have first : x.toBits.toNat / powerOfTwo 63 = sign.toBitVec.toNat := by
    rw [bit, Binary.toNat_unpackSign, UInt64.toNat_toBitVec, Nat.mod_eq_of_lt below]
  change (x.toBits.toNat / powerOfTwo 63 == 1) = _
  rw [first, Bool.eq_iff_iff, beq_iff_eq, toNat_toBitVec_eq_one_iff]
  cases sign with
  | negative => exact iff_of_true rfl rfl
  | positive => exact iff_of_false nofun nofun

/-- A number below zero is a signed one that is no zero. -/
theorem isNegative_eq_isSigned
    (nonzero : isZero x = false)
    (defined : isNaN x = false) :
    isNegative x = isSigned x := by
  obtain ⟨sign, signed⟩ := isNaN_eq_false_iff.mp defined
  rw [isSigned_of_sign? signed, isNegative, Scalar.less, scalar_order_eq, parts_zero]
  cases isParts : parts x with
  | notANumber =>
      rw [isParts] at signed
      cases signed
  | zero sign =>
      rw [isZero_iff.mpr ⟨sign, isParts⟩] at nonzero
      cases nonzero
  | infinity sign | finite sign =>
      rw [isParts] at signed
      cases signed
      cases sign <;> rfl

/-- Zeros of both signs are not below zero. -/
theorem isZero_of_isNegative (negative : isNegative x = true) : isZero x = false := by
  rw [isNegative, Scalar.less, beq_iff_eq] at negative
  rw [isZero, same, negative]
  rfl

theorem parts_withSignOf_infinity {sign : Sign} (signed : sign? (parts x) = some sign) :
    parts (withSignOf x infinity) = .infinity sign := by
  rw [withSignOf, isSigned_of_sign? signed]
  cases sign <;> rfl

/-- An infinity is infinity under its own sign. -/
theorem withSignOf_infinity (infinite : isInfinite x = true) :
    withSignOf x infinity = x := by
  obtain ⟨sign, isParts⟩ := isInfinite_iff.mp infinite
  refine eq_of_parts_infinity (parts_withSignOf_infinity ?_) isParts
  rw [isParts]
  rfl

/-! ## Quotients over zero -/

/-- A number over a zero is the infinity of both signs. -/
theorem exists_signs_of_div
    (defined : isNaN x = false)
    (nonzero : isZero x = false)
    (zero : isZero y = true) :
    ∃ sign sign', sign? (parts x) = some sign ∧ sign? (parts y) = some sign' ∧
      parts (x / y) = .infinity (sign / sign') := by
  obtain ⟨sign, signed⟩ := isNaN_eq_false_iff.mp defined
  obtain ⟨sign', isParts⟩ := isZero_iff.mp zero
  refine ⟨sign, sign', signed, by rw [isParts]; rfl, ?_⟩
  rw [parts_div, isParts]
  cases isParts : parts x with
  | notANumber =>
      rw [isParts] at signed
      cases signed
  | zero sign =>
      rw [isZero_iff.mpr ⟨sign, isParts⟩] at nonzero
      cases nonzero
  | infinity sign | finite sign =>
      rw [isParts] at signed
      cases signed
      exact stored_infinity _

/-- The infinity of the dividend under the sign of the zero is the quotient. -/
theorem withSignOf_mul_withSignOf
    (defined : isNaN x = false)
    (nonzero : isZero x = false)
    (zero : isZero y = true) :
    withSignOf x infinity * withSignOf y 1.0 = x / y := by
  obtain ⟨sign, sign', signed, signed', quotient⟩ := exists_signs_of_div defined nonzero zero
  refine eq_of_parts_infinity ?_ quotient
  rw [parts_mul, parts_withSignOf_infinity signed, withSignOf, isSigned_of_sign? signed']
  cases sign <;> cases sign' <;> rfl

/-- A number over a zero is positive infinity when the two have the same sign. -/
theorem div_of_isZero
    (defined : isNaN x = false)
    (nonzero : isZero x = false)
    (zero : isZero y = true) :
    x / y = if isSigned x = isSigned y then Scalar.infinity else -Scalar.infinity := by
  obtain ⟨sign, sign', signed, signed', quotient⟩ := exists_signs_of_div defined nonzero zero
  refine eq_of_parts_infinity quotient ?_
  rw [isSigned_of_sign? signed, isSigned_of_sign? signed']
  cases sign <;> cases sign' <;> rfl

end Double

end Calculator
