import Calculator.Decimal.Shortest
import Calculator.Proofs.Arithmetic.Nearest

/-!
# Shortest decimals round back

The shortest decimal of a double lies no further from it than half way to its neighbours, and so it
is rounded to the double. With seventeen digits there is always such a decimal.
-/

namespace Calculator
namespace Decimal

open Binary

/-! ## Half way to the neighbours -/

/-- The distance half way to the next smaller double, in units of the mantissa. Below a power of two
the doubles lie twice as close. -/
def halfGap (mantissa : Nat) (exponent : Int) : ℚ :=
  if mantissa = 2 ^ 52 ∧ -1074 < exponent then 1 / 4 else 1 / 2

/-- A number, in units of the mantissa, lies no further from it than half way to its neighbours, and
not half way where the mantissa is odd. -/
structure IsInside (mantissa : Nat) (exponent : Int) (p : ℚ) : Prop where
  above : mantissa - halfGap mantissa exponent ≤ p
  below : p ≤ mantissa + 1 / 2
  strictly : mantissa % 2 = 1 → mantissa - halfGap mantissa exponent < p ∧ p < mantissa + 1 / 2

theorem IsInside.ofStrict
    {mantissa : Nat}
    {exponent : Int}
    {p : ℚ}
    (above : mantissa - halfGap mantissa exponent < p)
    (below : p < mantissa + 1 / 2) :
    IsInside mantissa exponent p :=
  ⟨above.le, below.le, fun _ => ⟨above, below⟩⟩

theorem halfGap_le (mantissa : Nat) (exponent : Int) : halfGap mantissa exponent ≤ 1 / 2 := by
  rw [halfGap]
  split <;> norm_num

variable {mantissa : Nat} {exponent : Int}

section Inside

variable {p : ℚ} (inside : IsInside mantissa exponent p)

include inside

theorem IsInside.isEvenRounding : IsEvenRounding p mantissa := by
  obtain ⟨above, below, strictly⟩ := inside
  have gap := halfGap_le mantissa exponent
  refine ⟨?_, fun atHalf => ?_⟩
  · rw [Int.cast_natCast, abs_le]
    constructor <;> linarith
  · rw [Int.even_coe_nat, Nat.even_iff]
    by_contra odd
    obtain ⟨above, below⟩ := strictly (by omega)
    have inner : |p - (mantissa : ℤ)| < 1 / 2 := by
      rw [Int.cast_natCast, abs_lt]
      constructor <;> linarith
    exact inner.ne atHalf

variable (positive : 0 < mantissa) (canonical : (Binary.finite false mantissa exponent).IsCanonical)

include positive

theorem IsInside.pos : 0 < p := by
  have gap := halfGap_le mantissa exponent
  have above := inside.above
  have one_le : (1 : ℚ) ≤ mantissa := by exact_mod_cast positive
  linarith

include canonical

theorem IsInside.unitExponent_le : unitExponent (p * 2 ^ exponent) ≤ exponent := by
  have p_pos := inside.pos positive
  have below := inside.below
  have short : (mantissa : ℚ) + 1 ≤ 2 ^ 53 := by exact_mod_cast canonical.1
  have few : p < 2 ^ 53 := by linarith
  refine (unitExponent_le_iff (by positivity)).mpr ⟨canonical.2.1, ?_⟩
  rw [add_comm, zpow_add₀ two_ne_zero]
  gcongr
  exact_mod_cast few

/-- Only below a power of two the unit is a smaller one. -/
theorem IsInside.below_power_of_unitExponent_lt
    (smaller : unitExponent (p * 2 ^ exponent) < exponent) :
    mantissa = 2 ^ 52 ∧ -1074 < exponent ∧ p < 2 ^ 52 := by
  have p_pos := inside.pos positive
  have gap := halfGap_le mantissa exponent
  have above := inside.above
  have notReached := mt (le_unitExponent_iff (by positivity)).mpr smaller.not_ge
  rw [not_or, not_le, not_le, add_comm, zpow_add₀ two_ne_zero,
    mul_lt_mul_iff_left₀ (by positivity)] at notReached
  obtain ⟨normal, under⟩ := notReached
  have under : p < 2 ^ 52 := by exact_mod_cast under
  have less : (mantissa : ℚ) < 2 ^ 52 + 1 := by linarith
  exact ⟨le_antisymm (Nat.le_of_lt_succ (by exact_mod_cast less))
    (canonical.2.2.resolve_left normal.ne'), normal, under⟩

/-- What lies inside is rounded to the binary fraction. -/
theorem IsInside.nearest_eq : Binary.nearest (p * 2 ^ exponent) = mantissa * 2 ^ exponent := by
  have p_pos := inside.pos positive
  rcases (inside.unitExponent_le positive canonical).eq_or_lt with same | smaller
  · rw [nearest_of_unitExponent same inside.isEvenRounding, Int.cast_natCast]
  · obtain ⟨isPower, normal, under⟩ :=
      inside.below_power_of_unitExponent_lt positive canonical smaller
    have above := inside.above
    have isGap : halfGap mantissa exponent = 1 / 4 := if_pos ⟨isPower, normal⟩
    have isMantissa : (mantissa : ℚ) = 2 ^ 52 := by exact_mod_cast isPower
    rw [isGap, isMantissa] at above
    -- Just below the power the unit is half as large, and the number is twice as many of it.
    have halved : p * 2 ^ exponent = 2 * p * 2 ^ (exponent - 1) := by
      rw [zpow_sub_one₀ two_ne_zero]
      ring
    rw [halved] at smaller ⊢
    have isUnit : unitExponent (2 * p * 2 ^ (exponent - 1)) = exponent - 1 := by
      refine le_antisymm (by omega) ((le_unitExponent_iff (by positivity)).mpr (.inr ?_))
      rw [add_comm, zpow_add₀ two_ne_zero]
      gcongr
      norm_num
      linarith
    have isRounding : IsEvenRounding (2 * p) (2 ^ 53) := by
      refine ⟨?_, fun _ => ⟨2 ^ 52, by norm_num⟩⟩
      push_cast
      rw [abs_le]
      constructor <;> linarith
    rw [nearest_of_unitExponent isUnit isRounding, isMantissa, zpow_sub_one₀ two_ne_zero]
    push_cast
    ring

end Inside

/-! ## Units -/

theorem pow_toNat {base : ℚ} (nonzero : base ≠ 0) (n : ℤ) :
    base ^ n.toNat = base ^ n * base ^ (-n).toNat := by
  have difference := Int.toNat_sub_toNat_neg n
  rw [← zpow_natCast, ← zpow_natCast, ← zpow_add₀ nonzero]
  congr 1
  omega

theorem quarterUnit_pos (exponent scale : Int) :
    0 < (quarterUnit exponent scale).1 ∧ 0 < (quarterUnit exponent scale).2 := by
  constructor
  · exact Nat.mul_pos (powerOfTwo_pos _) (Nat.pow_pos (by norm_num))
  · exact Nat.mul_pos (Nat.pow_pos (by norm_num)) (powerOfTwo_pos _)

/-- A unit over the mantissa's is four times as many quarters. -/
theorem quarterUnit_eq (exponent scale : Int) :
    ((quarterUnit exponent scale).2 : ℚ) =
      4 * (10 ^ scale / 2 ^ exponent) * (quarterUnit exponent scale).1 := by
  have ten := pow_toNat (show (10 : ℚ) ≠ 0 by norm_num) scale
  have two := pow_toNat (two_ne_zero (α := ℚ)) (exponent - 2)
  rw [neg_sub, zpow_sub₀ two_ne_zero] at two
  change (((10 ^ scale.toNat * 2 ^ (2 - exponent).toNat : Nat)) : ℚ) =
    4 * (10 ^ scale / 2 ^ exponent) *
      (2 ^ (exponent - 2).toNat * 10 ^ (-scale).toNat : Nat)
  push_cast
  rw [ten, two]
  field_simp
  norm_num

theorem roundedQuotient_cases (numerator denominator : Nat) :
    roundedQuotient numerator denominator = numerator / denominator ∨
      roundedQuotient numerator denominator = numerator / denominator + 1 := by
  rw [roundedQuotient]
  split
  · exact .inl rfl
  split
  · exact .inr rfl
  · omega

/-! ## Reading back -/

/-- The lowest and the highest number of quarters that a decimal may have to read back. -/
def bounds (mantissa : Nat) (exponent scale : Int) : Nat × Nat :=
  let quarter := (quarterUnit exponent scale).1
  let value := 4 * mantissa * quarter
  (if mantissa = powerOfTwo 52 && exponent > -1074 then value - quarter else value - 2 * quarter,
    value + 2 * quarter)

/-- Whether a coefficient reads back. -/
def readsBack (mantissa : Nat) (exponent scale : Int) (coefficient : Nat) : Bool :=
  let (low, high) := bounds mantissa exponent scale
  let point := coefficient * (quarterUnit exponent scale).2
  if mantissa % 2 = 0 then low ≤ point && point ≤ high else low < point && point < high

theorem readingBack?_eq (mantissa : Nat) (exponent scale : Int) :
    readingBack? mantissa exponent scale =
      let (quarter, unit) := quarterUnit exponent scale
      let value := 4 * mantissa * quarter
      match readsBack mantissa exponent scale (value / unit),
        readsBack mantissa exponent scale (value / unit + 1) with
      | true, true => some (roundedQuotient value unit)
      | true, false => some (value / unit)
      | false, true => some (value / unit + 1)
      | false, false => none := rfl

theorem cast_bounds (positive : 0 < mantissa) (exponent scale : Int) :
    ((bounds mantissa exponent scale).1 : ℚ) =
        4 * (mantissa - halfGap mantissa exponent) * (quarterUnit exponent scale).1 ∧
      ((bounds mantissa exponent scale).2 : ℚ) =
        4 * (mantissa + 1 / 2) * (quarterUnit exponent scale).1 := by
  rw [bounds, halfGap]
  generalize (quarterUnit exponent scale).1 = quarter
  have enough : 4 * quarter ≤ 4 * mantissa * quarter :=
    Nat.mul_le_mul_right quarter (by omega)
  have test : (mantissa = powerOfTwo 52 && exponent > -1074) = true ↔
      mantissa = 2 ^ 52 ∧ -1074 < exponent := by
    rw [Bool.and_eq_true, decide_eq_true_eq, decide_eq_true_eq]
    rfl
  constructor
  · by_cases narrow : mantissa = 2 ^ 52 ∧ -1074 < exponent
    · dsimp only
      rw [if_pos narrow, if_pos (test.mpr narrow), Nat.cast_sub (by omega)]
      push_cast
      ring
    · dsimp only
      rw [if_neg narrow, if_neg (mt test.mp narrow), Nat.cast_sub (by omega)]
      push_cast
      ring
  · push_cast
    ring

/-- A coefficient reads back when its decimal lies inside. -/
theorem readsBack_iff (positive : 0 < mantissa) (scale : Int) (coefficient : Nat) :
    readsBack mantissa exponent scale coefficient = true ↔
      IsInside mantissa exponent (coefficient * (10 ^ scale / 2 ^ exponent)) := by
  obtain ⟨isLow, isHigh⟩ := cast_bounds positive exponent scale
  have isUnit := quarterUnit_eq exponent scale
  have quarter_pos : (0 : ℚ) < (quarterUnit exponent scale).1 := by
    exact_mod_cast (quarterUnit_pos exponent scale).1
  have isPoint : ((coefficient * (quarterUnit exponent scale).2 : Nat) : ℚ) =
      4 * (coefficient * (10 ^ scale / 2 ^ exponent)) * (quarterUnit exponent scale).1 := by
    push_cast
    rw [isUnit]
    ring
  rw [readsBack]
  generalize (quarterUnit exponent scale).1 = quarter at *
  generalize coefficient * (quarterUnit exponent scale).2 = point at *
  generalize (bounds mantissa exponent scale) = limits at *
  generalize (coefficient : ℚ) * (10 ^ scale / 2 ^ exponent) = p at *
  have ordered {a b : ℚ} : 4 * a * quarter ≤ 4 * b * quarter ↔ a ≤ b := by
    rw [mul_le_mul_iff_left₀ quarter_pos, mul_le_mul_iff_right₀ four_pos]
  have above : limits.1 ≤ point ↔ mantissa - halfGap mantissa exponent ≤ p := by
    rw [← Nat.cast_le (α := ℚ), isLow, isPoint, ordered]
  have below : point ≤ limits.2 ↔ p ≤ mantissa + 1 / 2 := by
    rw [← Nat.cast_le (α := ℚ), isHigh, isPoint, ordered]
  have strictlyAbove : limits.1 < point ↔ mantissa - halfGap mantissa exponent < p := by
    rw [← not_le, ← Nat.cast_le (α := ℚ), isLow, isPoint, ordered, not_le]
  have strictlyBelow : point < limits.2 ↔ p < mantissa + 1 / 2 := by
    rw [← not_le, ← Nat.cast_le (α := ℚ), isHigh, isPoint, ordered, not_le]
  dsimp only
  split
  · next even =>
    rw [Bool.and_eq_true, decide_eq_true_eq, decide_eq_true_eq, above, below]
    exact ⟨fun ⟨above, below⟩ => ⟨above, below, by omega⟩, fun inside => ⟨inside.above, inside.below⟩⟩
  · next odd =>
    rw [Bool.and_eq_true, decide_eq_true_eq, decide_eq_true_eq, strictlyAbove, strictlyBelow]
    exact ⟨fun strictly => ⟨strictly.1.le, strictly.2.le, fun _ => strictly⟩,
      fun inside => inside.strictly (by omega)⟩

/-- What is found reads back. -/
theorem readsBack_of_readingBack?
    {scale : Int}
    {coefficient : Nat}
    (found : readingBack? mantissa exponent scale = some coefficient) :
    readsBack mantissa exponent scale coefficient = true := by
  rw [readingBack?_eq] at found
  dsimp only at found
  split at found
  · next floorInside nextInside =>
    rw [← Option.some.inj found]
    rcases roundedQuotient_cases (4 * mantissa * (quarterUnit exponent scale).1)
      (quarterUnit exponent scale).2 with isFloor | isNext
    · rwa [isFloor]
    · rwa [isNext]
  · next floorInside _ => rwa [← Option.some.inj found]
  · next _ nextInside => rwa [← Option.some.inj found]
  · cases found

/-- The fraction lies between the two decimals around it. -/
theorem floor_bounds (mantissa : Nat) (exponent scale : Int) :
    let floor := 4 * mantissa * (quarterUnit exponent scale).1 / (quarterUnit exponent scale).2
    (floor : ℚ) * (10 ^ scale / 2 ^ exponent) ≤ mantissa ∧
      (mantissa : ℚ) < (floor + 1 : Nat) * (10 ^ scale / 2 ^ exponent) := by
  intro floor
  obtain ⟨quarter_pos, unit_pos⟩ := quarterUnit_pos exponent scale
  have isUnit := quarterUnit_eq exponent scale
  have below := Nat.div_mul_le_self (4 * mantissa * (quarterUnit exponent scale).1)
    (quarterUnit exponent scale).2
  have above := Nat.lt_mul_div_succ (4 * mantissa * (quarterUnit exponent scale).1) unit_pos
  change floor * _ ≤ _ at below
  change _ < _ * (floor + 1) at above
  rw [← Nat.cast_le (α := ℚ), Nat.cast_mul, isUnit] at below
  rw [← Nat.cast_lt (α := ℚ), Nat.cast_mul _ (floor + 1), isUnit] at above
  have positive : (0 : ℚ) < 4 * (quarterUnit exponent scale).1 := by exact_mod_cast (by omega)
  push_cast at below above
  constructor
  · refine le_of_mul_le_mul_right ?_ positive
    linarith
  · refine lt_of_mul_lt_mul_right ?_ positive.le
    push_cast
    linarith

/-- Where units are not too large one of the two around the fraction is found. -/
theorem readingBack?_ne_none
    {scale : Int}
    (positive : 0 < mantissa)
    (fine : (10 : ℚ) ^ scale / 2 ^ exponent < halfGap mantissa exponent + 1 / 2) :
    readingBack? mantissa exponent scale ≠ none := by
  obtain ⟨below, above⟩ := floor_bounds mantissa exponent scale
  have gap_pos : 0 < halfGap mantissa exponent := by
    rw [halfGap]
    split <;> norm_num
  have unit_pos : (0 : ℚ) < 10 ^ scale / 2 ^ exponent := by positivity
  rw [readingBack?_eq]
  dsimp only
  generalize 4 * mantissa * (quarterUnit exponent scale).1 / (quarterUnit exponent scale).2 =
    floor at *
  split
  · exact Option.some_ne_none _
  · exact Option.some_ne_none _
  · exact Option.some_ne_none _
  · next floorOutside nextOutside =>
    exfalso
    rw [← Bool.not_eq_true, readsBack_iff positive] at floorOutside nextOutside
    push_cast at above nextOutside
    have low : (floor : ℚ) * (10 ^ scale / 2 ^ exponent) ≤ mantissa - halfGap mantissa exponent := by
      by_contra! inside
      exact floorOutside (.ofStrict inside (by linarith))
    have high : mantissa + 1 / 2 ≤ ((floor : ℚ) + 1) * (10 ^ scale / 2 ^ exponent) := by
      by_contra! inside
      exact nextOutside (.ofStrict (by linarith) inside)
    linarith

/-! ## The leading digit -/

theorem reachesPower_iff (mantissa : Nat) (exponent power : Int) :
    reachesPower mantissa exponent power = true ↔ (10 : ℚ) ^ power ≤ mantissa * 2 ^ exponent := by
  have isUnit := quarterUnit_eq exponent power
  have quarter_pos : (0 : ℚ) < (quarterUnit exponent power).1 := by
    exact_mod_cast (quarterUnit_pos exponent power).1
  change decide ((quarterUnit exponent power).2 ≤ 4 * mantissa * (quarterUnit exponent power).1) =
    true ↔ _
  rw [decide_eq_true_eq, ← Nat.cast_le (α := ℚ), isUnit, Nat.cast_mul, Nat.cast_mul, Nat.cast_ofNat,
    mul_le_mul_iff_left₀ quarter_pos, mul_le_mul_iff_right₀ four_pos,
    div_le_iff₀ (zpow_pos two_pos exponent)]

/-- A fraction that bounds the logarithm of two on the side of the power bounds powers of ten by
powers of two. -/
theorem ten_zpow_le_two_zpow
    {scale power : ℤ}
    {numerator denominator : ℕ}
    (nonzero : denominator ≠ 0)
    (bound : ((10 : ℚ) ^ numerator) ^ power ≤ (2 ^ denominator) ^ power)
    (ordered : scale * denominator ≤ numerator * power) :
    (10 : ℚ) ^ scale ≤ 2 ^ power := by
  rw [← pow_le_pow_iff_left₀ (by positivity) (by positivity) nonzero]
  calc ((10 : ℚ) ^ scale) ^ denominator = 10 ^ (scale * denominator) := by
        rw [zpow_mul, zpow_natCast]
    _ ≤ 10 ^ (numerator * power) := zpow_le_zpow_right₀ (by norm_num) ordered
    _ = (10 ^ numerator) ^ power := by rw [zpow_mul, zpow_natCast]
    _ ≤ (2 ^ denominator) ^ power := bound
    _ = (2 ^ power) ^ denominator := by
        rw [← zpow_natCast, ← zpow_natCast, ← zpow_mul, ← zpow_mul, mul_comm]

/-- The estimate of the logarithm of a power of two is off by less than one over the range of
doubles. -/
theorem ten_zpow_estimate_le {power : Int} (least : -1074 ≤ power) (most : power ≤ 1023) :
    (10 : ℚ) ^ ((power * 30103).fdiv 100000 - 1) ≤ 2 ^ power := by
  rw [Int.fdiv_eq_ediv_of_nonneg _ (by norm_num)]
  rcases le_or_gt 0 power with nonneg | negative
  · have below : ((10 : ℚ) ^ 59) ^ power ≤ (2 ^ 196) ^ power :=
      zpow_le_zpow_left₀ nonneg (by norm_num) (by norm_num)
    exact ten_zpow_le_two_zpow (by norm_num) below (by omega)
  · have above : ((10 : ℚ) ^ 28) ^ power ≤ (2 ^ 93) ^ power := by
      obtain ⟨count, rfl⟩ : ∃ count : ℕ, power = -count := ⟨(-power).toNat, by omega⟩
      rw [zpow_neg, zpow_neg, zpow_natCast, zpow_natCast]
      gcongr
      norm_num
    exact ten_zpow_le_two_zpow (by norm_num) above (by omega)

section Double

variable
  (positive : 0 < mantissa)
  (canonical : (Binary.finite false mantissa exponent).IsCanonical)
  (small : exponent ≤ 971)

include positive canonical small

/-- A double reaches the power of ten of its leading digit. -/
theorem ten_zpow_leadingExponent_le :
    (10 : ℚ) ^ leadingExponent mantissa exponent ≤ mantissa * 2 ^ exponent := by
  have short : mantissa.log2 < 53 := (Nat.log2_lt positive.ne').mpr canonical.1
  have least := canonical.2.1
  rw [leadingExponent]
  split
  · next reaches => exact (reachesPower_iff _ _ _).mp reaches
  split
  · next reaches => exact (reachesPower_iff _ _ _).mp reaches
  · calc (10 : ℚ) ^ (((mantissa.log2 + exponent) * 30103).fdiv 100000 - 1)
        ≤ 2 ^ (mantissa.log2 + exponent) := ten_zpow_estimate_le (by omega) (by omega)
      _ = 2 ^ mantissa.log2 * 2 ^ exponent := by rw [zpow_add₀ two_ne_zero, zpow_natCast]
      _ ≤ mantissa * 2 ^ exponent := by
          gcongr
          exact_mod_cast Nat.log2_self_le positive.ne'

/-- Seventeen digits are enough for one to be found. -/
theorem readingBack?_of_seventeen :
    readingBack? mantissa exponent (leadingExponent mantissa exponent - 16) ≠ none := by
  have reached := ten_zpow_leadingExponent_le positive canonical small
  have short : (mantissa : ℚ) < 2 ^ 53 := by exact_mod_cast canonical.1
  refine readingBack?_ne_none positive ?_
  have fine : (10 : ℚ) ^ (leadingExponent mantissa exponent - 16) / 2 ^ exponent ≤
      mantissa / 10 ^ 16 := by
    rw [zpow_sub₀ (by norm_num), div_div, mul_comm, ← div_div]
    gcongr
    · rwa [div_le_iff₀ (by positivity)]
    · exact le_rfl
  refine fine.trans_lt ?_
  rw [halfGap]
  split
  · next narrow =>
    rw [narrow.1]
    norm_num
  · linarith

end Double

/-- Rounding up to a power of ten does not change the value. -/
theorem carried_value (digits : Nat) (d : Decimal) :
    ((carried (digits + 1) d).coefficient : ℚ) * 10 ^ (carried (digits + 1) d).scale =
      d.coefficient * 10 ^ d.scale := by
  rw [carried]
  split
  · next isPower =>
    rw [isPower, powerOfTen, powerOfTen, Nat.add_sub_cancel, zpow_add_one₀ (by norm_num),
      Nat.pow_eq, Nat.pow_eq]
    push_cast
    ring
  · rfl

/-- The shortest decimal of a double is rounded to it. -/
theorem nearest_shortest
    (positive : 0 < mantissa)
    (canonical : (Binary.finite false mantissa exponent).IsCanonical)
    (small : exponent ≤ 971) :
    Binary.nearest ((shortest mantissa exponent).coefficient *
        10 ^ (shortest mantissa exponent).scale) =
      mantissa * 2 ^ exponent := by
  rw [shortest]
  dsimp only
  generalize isFound : (List.range sufficientDigits).findSome? _ = found
  cases found with
  | none =>
      have last := List.findSome?_eq_none_iff.mp isFound 16 (by decide)
      exact absurd (Option.map_eq_none_iff.mp last)
        (readingBack?_of_seventeen positive canonical small)
  | some d =>
      obtain ⟨extra, -, isDecimal⟩ := List.exists_of_findSome?_eq_some isFound
      obtain ⟨coefficient, isCoefficient, rfl⟩ := Option.map_eq_some_iff.mp isDecimal
      rw [Option.getD_some, carried_value]
      have inside := (readsBack_iff positive _ _).mp (readsBack_of_readingBack? isCoefficient)
      have isNearest := inside.nearest_eq positive canonical
      rwa [mul_assoc, div_mul_cancel₀ _ (by positivity)] at isNearest

end Decimal
end Calculator
