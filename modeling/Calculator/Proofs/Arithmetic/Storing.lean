import Calculator.Proofs.Arithmetic.Rounding

/-!
# Storing parts

Parts with the mantissa and the exponent of a double are stored as they are, and parts with a
greater exponent as an infinity. So what is rounded and then stored stands at the place to which
the number is rounded.
-/

namespace Calculator

open Float.Model Float.Model.UnpackedFloat

namespace Binary

/-- A number, or its negative. -/
def mirrored (negative : Bool) (q : ℚ) : ℚ :=
  if negative then -q else q

theorem rational_eq_mirrored (negative : Bool) (mantissa : Nat) (exponent : Int) :
    rational negative mantissa exponent = mirrored negative (mantissa * 2 ^ exponent) := by
  cases negative with
  | false => exact rational_positive mantissa exponent
  | true => exact rational_negative mantissa exponent

theorem nearest_mirrored (negative : Bool) (q : ℚ) :
    nearest (mirrored negative q) = mirrored negative (nearest q) := by
  cases negative with
  | false => rfl
  | true => exact nearest_neg q

end Binary

namespace Double

open Binary

/-! ## Storing -/

theorem ofBitVec_toBitVec (sign : Sign) : Sign.ofBitVec sign.toBitVec = sign := by
  cases sign <;> rfl

section Unpacking

variable
  {bits : BitVec 64}
  {sign : Sign}
  {mantissa : Nat}
  {exponent : Int}
  (positive : 0 < mantissa)

/-- Bits with neither the greatest nor the least exponent have a leading digit that is not
stored. -/
theorem unpack_of_normal
    (notFull : @unpackExponent .binary64 bits ≠ -1#11)
    (notLeast : @unpackExponent .binary64 bits ≠ 0#11)
    (isSign : Sign.ofBitVec (@unpackSign .binary64 bits) = sign)
    (isMantissa : (1#1 ++ @unpackMantissa .binary64 bits).toNat = mantissa)
    (isExponent : ((@unpackExponent .binary64 bits).toNat : Int) - 1075 = exponent) :
    UnpackedFloat.unpack .binary64 bits = .finite sign mantissa exponent positive := by
  subst isSign isMantissa isExponent
  delta UnpackedFloat.unpack
  dsimp only
  rw [if_neg notFull, if_neg notLeast]
  rfl

/-- Bits with the least exponent have none. -/
theorem unpack_of_least
    (least : @unpackExponent .binary64 bits = 0#11)
    (isSign : Sign.ofBitVec (@unpackSign .binary64 bits) = sign)
    (isMantissa : (@unpackMantissa .binary64 bits).toNat = mantissa) :
    UnpackedFloat.unpack .binary64 bits = .finite sign mantissa (-1074) positive := by
  subst isSign isMantissa
  have filled : @unpackMantissa .binary64 bits ≠ 0#52 := by
    intro empty
    rw [empty] at positive
    exact positive.false
  have notFull : @unpackExponent .binary64 bits ≠ -1#11 := by
    rw [least]
    decide
  have lowest : ((@unpackExponent .binary64 bits).toNat : Int) -
      (Format.binary64.exponentBias + Format.binary64.mantissaBitsWithoutImplicit) + 1 =
        -1074 := by
    rw [least]
    rfl
  delta UnpackedFloat.unpack
  dsimp only
  rw [if_neg notFull, if_pos least, dif_neg filled]
  exact congrArg (fun exponent => UnpackedFloat.finite _ _ exponent _) lowest

end Unpacking

/-- Doubles have no greater exponent than this. -/
theorem exponent_le
    {x : Float}
    {sign : Sign}
    {mantissa : Nat}
    {exponent : Int}
    {positive : 0 < mantissa}
    (isParts : parts x = .finite sign mantissa exponent positive) :
    exponent ≤ 971 := by
  have read : Binary.ofBits x.toBits.toNat = .finite (sign == .negative) mantissa exponent := by
    rw [← ofFloat.eq_def, ofFloat_eq, isParts]
    rfl
  have biased : x.toBits.toNat / powerOfTwo 52 % powerOfTwo 11 < powerOfTwo 11 :=
    Nat.mod_lt _ (powerOfTwo_pos 11)
  have most : powerOfTwo 11 = 2048 := rfl
  rw [Binary.ofBits] at read
  split at read
  · split at read <;> cases read
  · split at read
    · have least := (Binary.finite.inj read).2.2
      omega
    · have unbiased := (Binary.finite.inj read).2.2
      rw [Int.ofNat_eq_natCast] at unbiased
      omega

section Stored

variable {sign : Sign} {mantissa : Nat} {exponent : Int} {positive : 0 < mantissa}

theorem pack_finite (sign : Sign) (mantissa : Nat) (exponent : Int) (positive : 0 < mantissa) :
    UnpackedFloat.pack .binary64 (.finite sign mantissa exponent positive) =
      if 971 < exponent then packedInfinity .binary64 sign
      else if mantissa.log2 = 52 then
        packComponents .binary64 sign (BitVec.ofNat 11 (exponent + 1075).toNat)
          (BitVec.ofNat 52 mantissa)
      else packComponents .binary64 sign 0#11 (BitVec.ofNat 52 mantissa) := by
  have large : (2 ^ 11 ≤ (exponent + 1023 + 52).toNat + 1) = (971 < exponent) := by
    rw [eq_iff_iff]
    omega
  have digits : (mantissa.log2 + 1 = 53) = (mantissa.log2 = 52) := by simp
  have biased : exponent + 1023 + 52 = exponent + 1075 := by omega
  change (if 2 ^ 11 ≤ (exponent + 1023 + 52).toNat + 1 then packedInfinity .binary64 sign
    else if mantissa.log2 + 1 = 53 then
      packComponents .binary64 sign (BitVec.ofNat 11 (exponent + 1023 + 52).toNat)
        (BitVec.ofNat 52 mantissa)
    else packComponents .binary64 sign 0#11 (BitVec.ofNat 52 mantissa)) = _
  rw [biased] at large ⊢
  simp only [large, digits]

/-- Parts with a greater exponent than doubles have are stored as an infinity. -/
theorem stored_finite_of_large (large : 971 < exponent) :
    stored (.finite sign mantissa exponent positive) = .infinity sign := by
  change UnpackedFloat.unpack .binary64 (UnpackedFloat.pack .binary64 _) = _
  rw [pack_finite, if_pos large]
  exact stored_infinity sign

/-- Parts that a double can have are stored as they are. -/
theorem stored_finite
    (canonical : (Binary.finite false mantissa exponent).IsCanonical)
    (small : exponent ≤ 971) :
    stored (.finite sign mantissa exponent positive) =
      .finite sign mantissa exponent positive := by
  obtain ⟨short, least, full⟩ := canonical
  change UnpackedFloat.unpack .binary64 (UnpackedFloat.pack .binary64 _) = _
  rw [pack_finite, if_neg small.not_gt]
  by_cases digits : mantissa.log2 = 52
  · rw [if_pos digits]
    have leading : 2 ^ 52 ≤ mantissa := digits ▸ Nat.log2_self_le positive.ne'
    have biased : (BitVec.ofNat 11 (exponent + 1075).toNat).toNat =
        (exponent + 1075).toNat := by
      rw [BitVec.toNat_ofNat]
      omega
    have unbiased : ((exponent + 1075).toNat : Int) - 1075 = exponent := by omega
    have whole : (1#1 ++ BitVec.ofNat 52 mantissa).toNat = mantissa := by
      rw [BitVec.toNat_append, ← Nat.shiftLeft_add_eq_or_of_lt (BitVec.ofNat 52 mantissa).isLt,
        BitVec.toNat_ofNat]
      change 2 ^ 52 + mantissa % 2 ^ 52 = mantissa
      omega
    have notAt (n : Nat) (apart : (exponent + 1075).toNat ≠ n % 2 ^ 11) :
        BitVec.ofNat 11 (exponent + 1075).toNat ≠ BitVec.ofNat 11 n := by
      rwa [ne_eq, ← BitVec.toNat_inj, biased, BitVec.toNat_ofNat]
    apply unpack_of_normal
    · rw [unpackExponent_packComponents]
      exact notAt 2047 (by omega)
    · rw [unpackExponent_packComponents]
      exact notAt 0 (by omega)
    · rw [unpackSign_packComponents, ofBitVec_toBitVec]
    · rw [unpackMantissa_packComponents, whole]
    · rw [unpackExponent_packComponents, biased, unbiased]
  · rw [if_neg digits]
    have few : mantissa < 2 ^ 52 := by
      by_contra! many
      exact digits ((Nat.log2_eq_iff positive.ne').mpr ⟨many, short⟩)
    obtain rfl : exponent = -1074 := full.resolve_right few.not_ge
    apply unpack_of_least
    · exact unpackExponent_packComponents
    · rw [unpackSign_packComponents, ofBitVec_toBitVec]
    · rw [unpackMantissa_packComponents, BitVec.toNat_ofNat, Nat.mod_eq_of_lt few]

/-- Parts that a double can have lie within the limit. -/
theorem abs_mirrored_lt_limit
    (canonical : (Binary.finite false mantissa exponent).IsCanonical)
    (small : exponent ≤ 971)
    (negative : Bool) :
    |mirrored negative (mantissa * 2 ^ exponent)| < Line.limit := by
  have inside : |(mantissa : ℚ) * 2 ^ exponent| < Line.limit := by
    rw [abs_of_nonneg (by positivity)]
    calc (mantissa : ℚ) * 2 ^ exponent < 2 ^ (53 : ℤ) * 2 ^ exponent := by
          gcongr
          exact_mod_cast canonical.1
      _ = 2 ^ (53 + exponent) := (zpow_add₀ two_ne_zero _ _).symm
      _ ≤ Line.limit := zpow_le_zpow_right₀ one_le_two (by omega)
  cases negative with
  | false => exact inside
  | true => exact (abs_neg _).trans_lt inside

/-- What is stored stands at the place of the number, or at the infinity beyond the limit. -/
theorem place?_stored_finite
    (canonical : (Binary.finite false mantissa exponent).IsCanonical) :
    (ofParts (stored (.finite sign mantissa exponent positive))).place? =
      some (Line.clipped (mirrored (sign == .negative) (mantissa * 2 ^ exponent))) := by
  rcases le_or_gt exponent 971 with small | large
  · rw [stored_finite canonical small,
      Line.clipped_of_abs_lt (abs_mirrored_lt_limit canonical small _), ← rational_eq_mirrored]
    rfl
  · have leading : 2 ^ 52 ≤ mantissa := canonical.2.2.resolve_left (by omega)
    have beyond : Line.limit ≤ mantissa * 2 ^ exponent := by
      calc Line.limit ≤ 2 ^ (52 + exponent) := zpow_le_zpow_right₀ one_le_two (by omega)
        _ = 2 ^ (52 : ℤ) * 2 ^ exponent := zpow_add₀ two_ne_zero _ _
        _ ≤ mantissa * 2 ^ exponent := by
            gcongr
            exact_mod_cast leading
    rw [stored_finite_of_large large]
    cases sign with
    | positive => exact congrArg some (if_pos beyond).symm
    | negative =>
        have notAbove : ¬Line.limit ≤ -(mantissa * 2 ^ exponent) := by
          have limit_pos := Line.limit_pos
          linarith
        refine congrArg some (Eq.symm ?_)
        change Line.clipped (-(mantissa * 2 ^ exponent)) = ⊥
        rw [Line.clipped, if_neg notAbove, if_pos (neg_le_neg beyond)]

theorem place?_stored_zero (sign : Sign) :
    (ofParts (stored (.zero sign))).place? = some (.ofRat 0) := by
  rw [stored_zero]
  exact congrArg (some <| Line.ofRat ·) (rational_zero _ _)

/-- What is rounded and stored stands at the place to which the number is rounded. -/
theorem place?_roundWithAccuracy
    {accuracy : Accuracy}
    {q : ℚ}
    (stands : StandsFor (.ofMantissaAndAccuracy mantissa accuracy) q)
    (positive : 0 < q)
    (long : IsLong mantissa exponent)
    (sign : Sign) :
    (ofParts (stored (roundWithAccuracy .binary64 sign mantissa exponent accuracy))).place? =
      some (Line.rounded (mirrored (sign == .negative) (q * 2 ^ exponent))) := by
  rw [Line.rounded, nearest_mirrored]
  rcases exists_roundWithAccuracy stands positive long sign with
    ⟨vanishes, isZero⟩ | ⟨mantissa', exponent', positive', isFinite, canonical, same⟩
  · rw [vanishes, isZero, place?_stored_zero, mirrored, neg_zero, ite_self, Line.clipped_zero]
  · rw [isFinite, place?_stored_finite canonical, same]

end Stored

end Double
end Calculator
