import Calculator.Proofs.Arithmetic.Storing

/-!
# Correctly rounded operations

A sum, a difference, a product and a quotient of finite doubles stand at the place to which the
exact result is rounded.
-/

namespace Calculator

open Float.Model Float.Model.UnpackedFloat

namespace Double

open Binary

/-! ## Parts -/

theorem place?_zero_eq_rounded (sign : Sign) {q : ℚ} (zero : q = 0) :
    (ofParts (stored (.zero sign))).place? = some (Line.rounded q) := by
  rw [place?_stored_zero, zero, Line.rounded_zero]

/-- What a double can have is stored where it is rounded to. -/
theorem place?_stored_eq_rounded
    {sign : Sign}
    {mantissa : Nat}
    {exponent : Int}
    {positive : 0 < mantissa}
    (canonical : (Binary.finite false mantissa exponent).IsCanonical) :
    (ofParts (stored (.finite sign mantissa exponent positive))).place? =
      some (Line.rounded (mirrored (sign == .negative) (mantissa * 2 ^ exponent))) := by
  have kept := nearest_rational canonical
  rw [rational_positive] at kept
  rw [place?_stored_finite canonical, Line.rounded, nearest_mirrored, kept]

theorem isLong_of_le {mantissa : Nat} (leading : 2 ^ 52 ≤ mantissa) (exponent : Int) :
    IsLong mantissa exponent :=
  .inl ((Nat.le_log2 (by omega)).mpr leading)

/-- A longer mantissa of a smaller unit is the same number. -/
theorem cast_shiftLeft_mul (m : Nat) (e : Int) (shift : Nat) :
    ((m <<< shift : Nat) : ℚ) * 2 ^ (e - shift) = m * 2 ^ e := by
  rw [Nat.shiftLeft_eq, zpow_sub₀ two_ne_zero, zpow_natCast]
  push_cast
  field_simp

section Finite

variable {s s' : Sign} {m m' : Nat} {e e' : Int} {positive : 0 < m} {positive' : 0 < m'}

theorem place?_mul_finite (long : IsLong (m * m') (e + e')) :
    (ofParts (stored (UnpackedFloat.mul .binary64 (.finite s m e positive)
      (.finite s' m' e' positive')))).place? =
      some (Line.rounded (mirrored (s == .negative) (m * 2 ^ e) *
        mirrored (s' == .negative) (m' * 2 ^ e'))) := by
  have magnitudes : ((m * m' : Nat) : ℚ) * 2 ^ (e + e') = m * 2 ^ e * (m' * 2 ^ e') := by
    rw [zpow_add₀ two_ne_zero, Nat.cast_mul]
    ring
  have product :
      mirrored (s * s' == .negative) ((m * m' : Nat) * 2 ^ (e + e')) =
        mirrored (s == .negative) (m * 2 ^ e) * mirrored (s' == .negative) (m' * 2 ^ e') := by
    rw [magnitudes]
    cases s <;> cases s'
    · exact (neg_mul_neg _ _).symm
    · exact (neg_mul _ _).symm
    · exact (mul_neg _ _).symm
    · rfl
  rw [← product]
  exact place?_roundWithAccuracy (standsFor_exact (m * m')) (by positivity) long _

/-- A division yields enough digits to round the quotient. -/
theorem isLong_divCore (positive : 0 < m) (positive' : 0 < m') :
    IsLong (divCore .binary64 m e m' e').1 (divCore .binary64 m e m' e').2.1 := by
  have target : Format.binary64.targetExponent (totalExponent m e - totalExponent m' e') =
      max (m.log2 + e - (m'.log2 + e') - 53) (-1074) := by
    change max ((m.log2 : Int) + 1 + e - (m'.log2 + 1 + e') - 53) (3 - 2 ^ 10 - 53) = _
    omega
  rw [divCore]
  dsimp only
  rw [target]
  rcases le_or_gt (min (e - e') (max (m.log2 + e - (m'.log2 + e') - 53) (-1074))) (-1074) with
    small | large
  · exact .inr small
  · refine isLong_of_le ?_ _
    generalize isShift : (e - e' - min (e - e')
      (max (m.log2 + e - (m'.log2 + e') - 53) (-1074))).toNat = shift
    have enough : m'.log2 + 53 ≤ m.log2 + shift := by omega
    rw [Nat.le_div_iff_mul_le positive', Nat.shiftLeft_eq]
    calc 2 ^ 52 * m' ≤ 2 ^ 52 * 2 ^ (m'.log2 + 1) := by
          gcongr
          exact Nat.lt_log2_self.le
      _ = 2 ^ (m'.log2 + 53) := by
          rw [← pow_add]
          congr 1
          omega
      _ ≤ 2 ^ (m.log2 + shift) := Nat.pow_le_pow_right two_pos enough
      _ = 2 ^ m.log2 * 2 ^ shift := pow_add _ _ _
      _ ≤ m * 2 ^ shift := by
          gcongr
          exact Nat.log2_self_le positive.ne'

theorem place?_div_finite :
    (ofParts (stored (UnpackedFloat.div .binary64 (.finite s m e positive)
      (.finite s' m' e' positive')))).place? =
      some (Line.rounded (mirrored (s == .negative) (m * 2 ^ e) /
        mirrored (s' == .negative) (m' * 2 ^ e'))) := by
  have divisor : (0 : ℚ) < m' := by exact_mod_cast positive'
  have long : IsLong (divCore .binary64 m e m' e').1 (divCore .binary64 m e m' e').2.1 :=
    isLong_divCore positive positive'
  change (ofParts (stored (roundWithAccuracy .binary64 (s / s') (divCore .binary64 m e m' e').1
    (divCore .binary64 m e m' e').2.1 (divCore .binary64 m e m' e').2.2))).place? = _
  rw [divCore] at long ⊢
  dsimp only at long ⊢
  generalize isTarget : min (e - e')
    (Format.binary64.targetExponent (totalExponent m e - totalExponent m' e')) = target at *
  obtain ⟨shift, rfl⟩ : ∃ shift : Nat, target = e - e' - shift :=
    ⟨(e - e' - target).toNat, by omega⟩
  rw [sub_sub_cancel, Int.toNat_natCast] at long ⊢
  have magnitudes : ((m <<< shift : Nat) : ℚ) / m' * 2 ^ (e - e' - shift) =
      m * 2 ^ e / (m' * 2 ^ e') := by
    rw [sub_right_comm, zpow_sub₀ two_ne_zero, div_mul_div_comm, cast_shiftLeft_mul]
  have quotient :
      mirrored (s / s' == .negative) ((m <<< shift : Nat) / m' * 2 ^ (e - e' - shift)) =
        mirrored (s == .negative) (m * 2 ^ e) / mirrored (s' == .negative) (m' * 2 ^ e') := by
    rw [magnitudes]
    cases s <;> cases s'
    · exact (neg_div_neg_eq _ _).symm
    · exact (neg_div _ _).symm
    · exact (div_neg _).symm
    · rfl
  rw [← quotient]
  refine place?_roundWithAccuracy (standsFor_quotient positive') ?_ long _
  rw [Nat.shiftLeft_eq]
  positivity

/-- A mantissa without bits behind it is lengthened before it is rounded. -/
theorem place?_round (sign : Sign) (positive : 0 < m) (e : Int) :
    (ofParts (stored (UnpackedFloat.round .binary64 sign m e))).place? =
      some (Line.rounded (mirrored (sign == .negative) (m * 2 ^ e))) := by
  rw [UnpackedFloat.round, decreaseExponent, targetExponent_eq]
  dsimp only
  generalize isShift : (e - max (m.log2 + e - 52) (-1074)).toNat = shift
  have lengthened : (m <<< shift).log2 = m.log2 + shift := by
    rw [Nat.log2_eq_iff (by rw [Nat.shiftLeft_eq]; positivity), Nat.shiftLeft_eq, add_right_comm,
      pow_add, pow_add]
    exact ⟨Nat.mul_le_mul_right _ (Nat.log2_self_le positive.ne'),
      Nat.mul_lt_mul_of_pos_right Nat.lt_log2_self (by positivity)⟩
  have long : IsLong (m <<< shift) (e - shift) := by
    rw [IsLong, lengthened]
    omega
  rw [← cast_shiftLeft_mul m e shift]
  refine place?_roundWithAccuracy (standsFor_exact _) ?_ long sign
  rw [Nat.shiftLeft_eq]
  positivity

theorem place?_normalize (mantissa e : Int) (zeroSign : Sign) :
    (ofParts (stored (UnpackedFloat.normalize .binary64 mantissa e zeroSign))).place? =
      some (Line.rounded (mantissa * 2 ^ e)) := by
  rw [UnpackedFloat.normalize]
  rcases lt_trichotomy mantissa 0 with negative | rfl | positive
  · obtain ⟨m, rfl⟩ := Int.eq_negSucc_of_lt_zero negative
    rw [Int.compare_eq_lt.mpr negative]
    dsimp only
    rw [place?_round .negative (by omega)]
    refine congrArg (some <| Line.rounded ·) ?_
    change -(((m + 1 : Nat) : ℚ) * 2 ^ e) = _
    rw [Int.cast_negSucc, neg_mul]
  · rw [Int.compare_eq_eq.mpr rfl]
    exact place?_zero_eq_rounded zeroSign (by simp)
  · obtain ⟨m, rfl⟩ := Int.eq_ofNat_of_zero_le positive.le
    rw [Int.compare_eq_gt.mpr positive]
    exact place?_round .positive (by exact_mod_cast positive) e

theorem cast_apply_mul (s : Sign) (m : Nat) (e : Int) (shift : Nat) :
    ((s.apply ((m <<< shift : Nat) : Int) : Int) : ℚ) * 2 ^ (e - shift) =
      mirrored (s == .negative) (m * 2 ^ e) := by
  rw [← cast_shiftLeft_mul m e shift]
  cases s with
  | negative =>
      rw [Sign.apply, Int.cast_neg, neg_mul, Int.cast_natCast]
      rfl
  | positive => rfl

theorem place?_add_finite :
    (ofParts (stored (UnpackedFloat.add .binary64 (.finite s m e positive)
      (.finite s' m' e' positive')))).place? =
      some (Line.rounded (mirrored (s == .negative) (m * 2 ^ e) +
        mirrored (s' == .negative) (m' * 2 ^ e'))) := by
  change (ofParts (stored (normalize .binary64 (s.apply (m <<< (e - min e e').toNat : Nat) +
    s'.apply (m' <<< (e' - min e e').toNat : Nat)) (min e e') .positive))).place? = _
  have left := cast_apply_mul s m e (e - min e e').toNat
  have right := cast_apply_mul s' m' e' (e' - min e e').toNat
  rw [show e - (e - min e e').toNat = min e e' by omega] at left
  rw [show e' - (e' - min e e').toNat = min e e' by omega] at right
  rw [place?_normalize, Int.cast_add, add_mul, left, right]

end Finite

/-! ## Values of parts -/

/-- Parts as a double has them stand at a rational number. -/
structure HasValue (a : UnpackedFloat) (q : ℚ) : Prop where
  canonical : (ofParts a).IsCanonical
  placed : (ofParts a).place? = some (.ofRat q)

/-- Only zeros and finite parts have a value. -/
theorem HasValue.parts_cases
    {a : UnpackedFloat}
    {q : ℚ}
    (hasValue : HasValue a q) :
    (q = 0 ∧ ∃ sign, a = .zero sign) ∨
      ∃ sign mantissa exponent positive, a = .finite sign mantissa exponent positive ∧
        (Binary.finite false mantissa exponent).IsCanonical ∧
        q = mirrored (sign == .negative) (mantissa * 2 ^ exponent) := by
  obtain ⟨canonical, placed⟩ := hasValue
  cases a with
  | notANumber => cases placed
  | infinity sign =>
      have apart := Option.some.inj placed
      cases sign with
      | negative => exact absurd apart (Line.bot_lt_ofRat q).ne
      | positive => exact absurd apart (Line.ofRat_lt_top q).ne'
  | zero sign =>
      have same := Line.ofRat_strictMono.injective (Option.some.inj placed)
      rw [rational_zero] at same
      exact .inl ⟨same.symm, sign, rfl⟩
  | finite sign mantissa exponent positive =>
      have same := Line.ofRat_strictMono.injective (Option.some.inj placed)
      rw [rational_eq_mirrored] at same
      exact .inr ⟨sign, mantissa, exponent, positive, rfl, canonical, same.symm⟩

theorem hasValue_finite
    (sign : Sign)
    {mantissa : Nat}
    {exponent : Int}
    {positive : 0 < mantissa}
    (canonical : (Binary.finite false mantissa exponent).IsCanonical) :
    HasValue (.finite sign mantissa exponent positive)
      (mirrored (sign == .negative) (mantissa * 2 ^ exponent)) :=
  ⟨canonical, by rw [← rational_eq_mirrored]; rfl⟩

theorem hasValue_zero (sign : Sign) : HasValue (.zero sign) 0 :=
  ⟨⟨by norm_num, le_rfl, .inl rfl⟩, congrArg (some <| Line.ofRat ·) (rational_zero _ _)⟩

theorem HasValue.neg {a : UnpackedFloat} {q : ℚ} (hasValue : HasValue a q) :
    HasValue a.neg (-q) := by
  rcases hasValue.parts_cases with ⟨rfl, sign, rfl⟩ | ⟨s, m, e, positive, rfl, canonical, rfl⟩
  · rw [neg_zero]
    exact hasValue_zero _
  · cases s with
    | negative =>
        change HasValue _ (- -_)
        rw [neg_neg]
        exact hasValue_finite .positive canonical
    | positive => exact hasValue_finite .negative canonical

section Operations

variable {a b : UnpackedFloat} {p q : ℚ} (left : HasValue a p) (right : HasValue b q)

include left right

theorem HasValue.place?_mul :
    (ofParts (stored (UnpackedFloat.mul .binary64 a b))).place? =
      some (Line.rounded (p * q)) := by
  rcases left.parts_cases with ⟨rfl, sign, rfl⟩ | ⟨s, m, e, pos, rfl, canonical, rfl⟩
  · rcases right.parts_cases with ⟨rfl, sign', rfl⟩ | ⟨s', m', e', pos', rfl, -, rfl⟩
    · exact place?_zero_eq_rounded _ (zero_mul _)
    · exact place?_zero_eq_rounded _ (zero_mul _)
  · rcases right.parts_cases with ⟨rfl, sign', rfl⟩ | ⟨s', m', e', pos', rfl, canonical', rfl⟩
    · exact place?_zero_eq_rounded _ (mul_zero _)
    · refine place?_mul_finite ?_
      -- Two mantissas that are both short have the least unit.
      rcases canonical.2.2 with least | leading
      · rcases canonical'.2.2 with least' | leading'
        · exact .inr (by omega)
        · exact isLong_of_le (leading'.trans (Nat.le_mul_of_pos_left _ pos)) _
      · exact isLong_of_le (leading.trans (Nat.le_mul_of_pos_right _ pos')) _

theorem HasValue.place?_div (nonzero : q ≠ 0) :
    (ofParts (stored (UnpackedFloat.div .binary64 a b))).place? =
      some (Line.rounded (p / q)) := by
  obtain ⟨s', m', e', pos', rfl, -, rfl⟩ :=
    right.parts_cases.resolve_left fun zero => nonzero zero.1
  rcases left.parts_cases with ⟨rfl, sign, rfl⟩ | ⟨s, m, e, pos, rfl, -, rfl⟩
  · exact place?_zero_eq_rounded _ (zero_div _)
  · exact place?_div_finite

theorem HasValue.place?_add :
    (ofParts (stored (UnpackedFloat.add .binary64 a b))).place? =
      some (Line.rounded (p + q)) := by
  rcases left.parts_cases with ⟨rfl, sign, rfl⟩ | ⟨s, m, e, pos, rfl, canonical, rfl⟩
  · rcases right.parts_cases with ⟨rfl, sign', rfl⟩ | ⟨s', m', e', pos', rfl, canonical', rfl⟩
    · cases sign <;> cases sign' <;> exact place?_zero_eq_rounded _ (zero_add _)
    · rw [zero_add]
      exact place?_stored_eq_rounded canonical'
  · rcases right.parts_cases with ⟨rfl, sign', rfl⟩ | ⟨s', m', e', pos', rfl, -, rfl⟩
    · rw [add_zero]
      exact place?_stored_eq_rounded canonical
    · exact place?_add_finite

end Operations

/-- A difference is the sum with the negated parts. -/
theorem sub_eq_add_neg_parts (spec : Format) (a b : UnpackedFloat) :
    UnpackedFloat.sub spec a b = UnpackedFloat.add spec a b.neg := by
  cases a with
  | notANumber => rfl
  | infinity sign | zero sign => cases b <;> rfl
  | finite sign mantissa exponent positive =>
      cases b with
      | finite sign' mantissa' exponent' positive' =>
          refine congrArg (normalize spec · (min exponent exponent') .positive) ?_
          cases sign' with
          | negative => exact sub_neg_eq_add _ _
          | positive => exact sub_eq_add_neg _ _
      | _ => rfl

/-! ## Doubles -/

/-- A double stands at a rational number on the line. -/
def StandsAt (x : Float) (q : ℚ) : Prop :=
  (Number.real x).place? = some (.ofRat q)

/-- A double stands where a rational number is rounded to. -/
def IsRounded (x : Float) (q : ℚ) : Prop :=
  (Number.real x).place? = some (Line.rounded q)

theorem place?_real (x : Float) : (Number.real x).place? = (ofParts (parts x)).place? :=
  congrArg Binary.place? (ofFloat_eq x)

theorem StandsAt.hasValue {x : Float} {q : ℚ} (standsAt : StandsAt x q) : HasValue (parts x) q :=
  ⟨isCanonical_parts x, (place?_real x).symm.trans standsAt⟩

theorem isFinite_iff_standsAt {x : Float} : Scalar.isFinite x = true ↔ ∃ q, StandsAt x q := by
  rw [isFinite_iff]
  simp only [StandsAt, place?_real]
  constructor
  · intro finite
    cases isParts : parts x with
    | notANumber | infinity =>
        rw [isParts] at finite
        cases finite
    | zero sign | finite sign => exact ⟨_, rfl⟩
  · rintro ⟨q, placed⟩
    rcases HasValue.parts_cases ⟨isCanonical_parts x, placed⟩ with
      ⟨-, sign, isParts⟩ | ⟨s, m, e, positive, isParts, -⟩
    · rw [isParts]
      rfl
    · rw [isParts]
      rfl

section Doubles

variable {x y : Float} {p q : ℚ}

/-- A double keeps its place when it is rounded. -/
theorem StandsAt.isRounded (standsAt : StandsAt x q) : IsRounded x q := by
  rw [IsRounded, standsAt]
  refine congrArg some (Eq.symm ?_)
  rcases standsAt.hasValue.parts_cases with ⟨rfl, -⟩ | ⟨s, m, e, positive, isParts, canonical, rfl⟩
  · exact Line.rounded_zero
  · have kept := nearest_rational canonical
    rw [rational_positive] at kept
    rw [Line.rounded, nearest_mirrored, kept,
      Line.clipped_of_abs_lt (abs_mirrored_lt_limit canonical (exponent_le isParts) _)]

/-- A finite double that a number is rounded to stands at the nearest place. -/
theorem IsRounded.standsAt
    (isRounded : IsRounded x q)
    (finite : Scalar.isFinite x = true) :
    StandsAt x (nearest q) := by
  obtain ⟨r, standsAt⟩ := isFinite_iff_standsAt.mp finite
  have same := Option.some.inj (isRounded.symm.trans standsAt)
  rw [(Line.clipped_eq_ofRat_iff.mp same).1]
  exact standsAt

/-- A smaller number is not rounded beyond the doubles. -/
theorem IsRounded.isFinite_of_le
    (isRounded : IsRounded x p)
    (isRounded' : IsRounded y q)
    (nonneg : 0 ≤ p)
    (ordered : p ≤ q)
    (finite : Scalar.isFinite y = true) :
    Scalar.isFinite x = true := by
  refine isFinite_iff_standsAt.mpr ⟨nearest p, ?_⟩
  have within := Line.clipped_eq_ofRat_iff.mp
    (Option.some.inj (isRounded'.symm.trans (isRounded'.standsAt finite)))
  rw [StandsAt, isRounded, Line.rounded, Line.clipped_of_abs_lt]
  have below := nearest_mono ordered
  rw [abs_of_nonneg (nearest_nonneg nonneg)]
  exact below.trans_lt ((le_abs_self _).trans_lt within.2)

variable (left : StandsAt x p) (right : StandsAt y q)

include left right

theorem StandsAt.add : IsRounded (x + y) (p + q) := by
  rw [IsRounded, place?_real, parts_add]
  exact left.hasValue.place?_add right.hasValue

theorem StandsAt.sub : IsRounded (x - y) (p - q) := by
  rw [IsRounded, place?_real, parts_sub, sub_eq_add_neg_parts, sub_eq_add_neg]
  exact left.hasValue.place?_add right.hasValue.neg

theorem StandsAt.mul : IsRounded (x * y) (p * q) := by
  rw [IsRounded, place?_real, parts_mul]
  exact left.hasValue.place?_mul right.hasValue

theorem StandsAt.div (nonzero : q ≠ 0) : IsRounded (x / y) (p / q) := by
  rw [IsRounded, place?_real, parts_div]
  exact left.hasValue.place?_div right.hasValue nonzero

end Doubles

end Double
end Calculator
