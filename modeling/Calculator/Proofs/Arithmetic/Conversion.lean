import Calculator.Proofs.Arithmetic.CorrectRounding

/-!
# Doubles from whole numbers

A decimal becomes the double at the place to which it is rounded, and so do an integer and the
quotient of two whole numbers.
-/

namespace Calculator

open Float.Model Float.Model.UnpackedFloat

namespace Double

open Binary

/-- A whole number that fifty-three digits hold stays as it is. -/
theorem rounded_natCast {n : Nat} (short : n < 2 ^ 53) : Line.rounded n = .ofRat n := by
  have kept : Binary.nearest ((n : ℤ) * 2 ^ (0 : ℤ)) = (n : ℤ) * 2 ^ (0 : ℤ) :=
    Binary.nearest_mul_zpow (by norm_num) (by rw [Nat.abs_cast]; exact_mod_cast short)
  rw [zpow_zero, mul_one, Int.cast_natCast] at kept
  rw [Line.rounded, kept, Line.clipped_of_abs_lt]
  rw [Nat.abs_cast]
  calc (n : ℚ) < 2 ^ 53 := by exact_mod_cast short
    _ = 2 ^ (53 : ℤ) := (zpow_natCast _ _).symm
    _ ≤ Line.limit := zpow_le_zpow_right₀ one_le_two (by norm_num)

/-! ## Decimals -/

/-- A power of ten that is not computed for being too large is beyond all doubles. -/
theorem limit_le_mul_zpow {m : Nat} {e : ℤ} (positive : 0 < m) (large : 2 ^ 11 < e) :
    Line.limit ≤ m * 10 ^ e := by
  calc Line.limit ≤ 2 ^ e := zpow_le_zpow_right₀ one_le_two (by omega)
    _ ≤ 10 ^ e := zpow_le_zpow_left₀ (by omega) (by norm_num) (by norm_num)
    _ ≤ m * 10 ^ e := le_mul_of_one_le_left (by positivity) (by exact_mod_cast positive)

/-- One that is not computed for being too small leaves at most half of the least unit. -/
theorem mul_zpow_le_half_least {m : Nat} {e : ℤ} (small : e < -(2 ^ 11 + m.log2)) :
    (m : ℚ) * 10 ^ e ≤ 2 ^ (-1075 : ℤ) := by
  have short : (m : ℚ) ≤ 2 ^ (m.log2 + 1 : ℤ) := by
    exact_mod_cast (Nat.lt_log2_self (n := m)).le
  calc (m : ℚ) * 10 ^ e ≤ 2 ^ (m.log2 + 1 : ℤ) * 2 ^ e := by
        gcongr
        obtain ⟨power, rfl⟩ : ∃ power : ℕ, e = -power := ⟨(-e).toNat, by omega⟩
        rw [zpow_neg, zpow_neg, zpow_natCast, zpow_natCast]
        gcongr
        norm_num
    _ = 2 ^ (m.log2 + 1 + e) := (zpow_add₀ two_ne_zero _ _).symm
    _ ≤ 2 ^ (-1075 : ℤ) := zpow_le_zpow_right₀ one_le_two (by omega)

theorem place?_ofScientific_parts (m : Nat) (e : ℤ) :
    (ofParts (stored (UnpackedFloat.ofScientific .binary64 m e))).place? =
      some (Line.rounded (m * 10 ^ e)) := by
  rw [UnpackedFloat.ofScientific]
  rcases Nat.eq_zero_or_pos m with rfl | positive
  · exact place?_zero_eq_rounded _ (by rw [Nat.cast_zero, zero_mul])
  rw [dif_neg positive.ne']
  by_cases large : 2 ^ Format.binary64.exponentBits < e
  · rw [if_pos large]
    have beyond := Line.rounded_mono (limit_le_mul_zpow positive large)
    rw [Line.rounded_limit, top_le_iff] at beyond
    rw [stored_infinity, beyond]
    rfl
  rw [if_neg large]
  by_cases small : e < -(2 ^ Format.binary64.exponentBits + m.log2)
  · rw [if_pos small]
    refine (place?_stored_zero _).trans (congrArg some (le_antisymm ?_ ?_))
    · rw [← Line.rounded_zero]
      exact Line.rounded_mono (by positivity)
    · rw [← Line.rounded_half_least]
      exact Line.rounded_mono (mul_zpow_le_half_least small)
  rw [if_neg small]
  rcases le_or_gt 0 e with nonneg | negative
  · rw [if_pos nonneg]
    obtain ⟨power, rfl⟩ := Int.eq_ofNat_of_zero_le nonneg
    rw [place?_mul_finite (isLong_of_le ?_ _)]
    · refine congrArg (some <| Line.rounded ·) ?_
      change ((m <<< 53 : Nat) : ℚ) * 2 ^ (-53 : ℤ) * ((10 ^ power : Nat) * 2 ^ (0 : ℤ)) = _
      rw [Nat.shiftLeft_eq, zpow_natCast, zpow_zero]
      push_cast
      field_simp
      norm_num
    · change 2 ^ 52 ≤ m <<< 53 * 10 ^ power
      rw [Nat.shiftLeft_eq]
      calc 2 ^ 52 ≤ 2 ^ 53 := by norm_num
        _ ≤ m * 2 ^ 53 := Nat.le_mul_of_pos_left _ positive
        _ ≤ m * 2 ^ 53 * 10 ^ power := Nat.le_mul_of_pos_right _ (by positivity)
  · rw [if_neg negative.not_ge]
    obtain ⟨power, rfl⟩ : ∃ power : ℕ, e = -power := ⟨(-e).toNat, by omega⟩
    rw [place?_div_finite]
    refine congrArg (some <| Line.rounded ·) ?_
    change (m : ℚ) * 2 ^ (0 : ℤ) / ((10 ^ (- -(power : ℤ)).toNat : Nat) * 2 ^ (0 : ℤ)) = _
    rw [neg_neg, Int.toNat_natCast, zpow_zero, mul_one, mul_one, zpow_neg, zpow_natCast,
      div_eq_mul_inv, Nat.cast_pow, Nat.cast_ofNat]

/-- A double stands at an integer when it compares as equal to it. -/
theorem standsAt_intCast_iff {x : Float} {n : Int} :
    StandsAt x n ↔ Scalar.orderInt x n = some .eq := by
  constructor
  · intro standsAt
    have ordered := Number.order_eq_cmp standsAt (b := .int n) rfl
    rw [cmp_self_eq_eq] at ordered
    exact ordered
  · intro same
    obtain ⟨p, q, placed, placed', equal⟩ :=
      Number.exists_places_of_order (a := .real x) (b := .int n) same
    rw [StandsAt, placed, (cmp_eq_eq_iff p q).mp equal]
    exact placed'.symm

theorem standsAt_natCast {n : Nat} (short : n < 2 ^ 53) : StandsAt n.toUInt64.toFloat n := by
  have kept : n.toUInt64.toNat = n := Nat.mod_eq_of_lt (short.trans (by norm_num))
  have placed := place?_normalize n.toUInt64.toNat 0 .positive
  rw [kept, zpow_zero, mul_one, Int.cast_natCast, rounded_natCast short] at placed
  rw [StandsAt, place?_real]
  change (ofParts (stored (normalize .binary64 n.toUInt64.toNat 0 .positive))).place? = _
  rw [kept, placed]

/-- The powers of ten that are looked up are exact. -/
theorem orderInt_exactlyRepresentablePowersOfTen (power : Fin 23) :
    Scalar.orderInt Float.exactlyRepresentablePowersOfTen[power] (10 ^ power.val) = some .eq := by
  revert power
  decide +kernel

/-- A decimal becomes the double at the place to which it is rounded. -/
theorem isRounded_ofScientific (m : Nat) (negative : Bool) (e : Nat) :
    IsRounded (Float.ofScientific m negative e) (m * 10 ^ (if negative then -e else e : ℤ)) := by
  rw [IsRounded, Float.ofScientific]
  split
  · next quick =>
    have power := standsAt_intCast_iff.mpr
      (orderInt_exactlyRepresentablePowersOfTen ⟨e, Nat.lt_succ_of_le quick.2⟩)
    have whole := standsAt_natCast quick.1
    cases negative with
    | true =>
        refine (whole.div power (by positivity)).trans (congrArg (some <| Line.rounded ·) ?_)
        rw [if_pos rfl, zpow_neg, zpow_natCast, div_eq_mul_inv, Int.cast_pow, Int.cast_ofNat]
    | false =>
        refine (whole.mul power).trans (congrArg (some <| Line.rounded ·) ?_)
        rw [if_neg Bool.false_ne_true, zpow_natCast, Int.cast_pow, Int.cast_ofNat]
  · rw [place?_real]
    cases negative with
    | true =>
        have power : Int.negOfNat e = -e := Int.negOfNat_eq
        rw [if_pos rfl, ← power]
        exact place?_ofScientific_parts m (Int.negOfNat e)
    | false => exact place?_ofScientific_parts m e

/-! ## Integers -/

/-- The negative of a double stands where the negative of a number is rounded to. -/
theorem IsRounded.neg {x : Float} {q : ℚ} (placed : IsRounded x q) : IsRounded (-x) (-q) := by
  rw [IsRounded, Line.rounded, nearest_neg]
  rw [IsRounded, Line.rounded] at placed
  generalize nearest q = r at *
  have canonical := isCanonical_parts x
  rw [place?_real] at placed ⊢
  rw [parts_neg]
  cases isParts : parts x with
  | notANumber =>
      rw [isParts] at placed
      cases placed
  | infinity sign =>
      rw [isParts] at placed
      change (ofParts (stored (.infinity (-sign)))).place? = _
      rw [stored_infinity]
      refine congrArg some (Eq.symm ?_)
      cases sign with
      | negative =>
          have below := Line.clipped_eq_bot_iff.mp (Option.some.inj placed).symm
          exact Line.clipped_eq_top_iff.mpr (le_neg.mp below)
      | positive =>
          have above := Line.clipped_eq_top_iff.mp (Option.some.inj placed).symm
          exact Line.clipped_eq_bot_iff.mpr (neg_le_neg above)
  | zero sign =>
      rw [isParts] at placed
      have zero := (Line.clipped_eq_ofRat_iff.mp (Option.some.inj placed).symm).1
      rw [rational_zero] at zero
      rw [zero, neg_zero, Line.clipped_zero]
      exact place?_stored_zero (-sign)
  | finite sign m e positive =>
      rw [isParts] at placed canonical
      have same := (Line.clipped_eq_ofRat_iff.mp (Option.some.inj placed).symm).1
      rw [rational_eq_mirrored] at same
      change (ofParts (stored (.finite (-sign) m e positive))).place? = _
      rw [place?_stored_finite canonical, same]
      cases sign with
      | negative => exact congrArg (some <| Line.clipped ·) (neg_neg _).symm
      | positive => rfl

theorem isRounded_ofNat (n : Nat) : IsRounded (Float.ofNat n) n := by
  have placed := isRounded_ofScientific n false 0
  rwa [if_neg Bool.false_ne_true, Nat.cast_zero, zpow_zero, mul_one] at placed

/-- An integer becomes the double at the place to which it is rounded. -/
theorem isRounded_ofInt (n : Int) : IsRounded (Scalar.ofInt n) n := by
  cases n with
  | ofNat n => exact isRounded_ofNat n
  | negSucc n =>
      rw [Int.cast_negSucc]
      exact (isRounded_ofNat (n + 1)).neg

/-- The quotient of two whole numbers becomes the double at the place to which it is rounded. -/
theorem isRounded_quotient (n d : Nat) (positive : 0 < d) :
    IsRounded (Scalar.quotient n d) (n / d) := by
  change (Number.real (quotient n d)).place? = _
  rw [quotient, dif_pos (by rwa [Int.natAbs_natCast])]
  rcases Nat.eq_zero_or_pos n with rfl | positive'
  · rw [dif_neg (by omega), Nat.cast_zero, zero_div, Line.rounded_zero, place?_real]
    exact (hasValue_zero .positive).placed
  · rw [dif_pos (by rwa [Int.natAbs_natCast])]
    have signs : ((n : ℤ) < 0) = ((d : ℤ) < 0) := propext (iff_of_false (by omega) (by omega))
    dsimp only
    rw [if_pos signs, place?_real]
    refine place?_div_finite.trans (congrArg (some <| Line.rounded ·) ?_)
    change ((n : ℤ).natAbs : ℚ) * 2 ^ (0 : ℤ) / ((d : ℤ).natAbs * 2 ^ (0 : ℤ)) = _
    rw [zpow_zero, mul_one, mul_one, Int.natAbs_natCast, Int.natAbs_natCast]

end Double
end Calculator
