import Calculator.Proofs.Arithmetic.NumberLine
import Calculator.Proofs.Arithmetic.Whole
import Mathlib.Data.Int.Log
import Mathlib.Data.Rat.Floor
import Mathlib.Tactic.Linarith

/-!
# The nearest double

Every rational number is rounded to an integer, to a multiple of the unit that doubles of its
size have, and in the end to a place on the line that a double can have. A number half way goes
to the even multiple, and a number beyond all doubles to an infinity. Rounding keeps the order,
and it keeps the numbers of doubles as they are.
-/

namespace Calculator

/-! ## Integers -/

/-- An integer is nearest to a rational number, and even where another one is as near. -/
structure IsEvenRounding (q : ℚ) (n : ℤ) : Prop where
  near : |q - n| ≤ 1 / 2
  even : |q - n| = 1 / 2 → Even n

/-- The integer nearest to a rational number, the even one of two that are equally near. -/
def evenRounded (q : ℚ) : ℤ :=
  match compare (2 * (q - ⌊q⌋)) 1 with
  | .lt => ⌊q⌋
  | .eq => ⌊q⌋ + ⌊q⌋ % 2
  | .gt => ⌊q⌋ + 1

theorem isEvenRounding_evenRounded (q : ℚ) : IsEvenRounding q (evenRounded q) := by
  have below := Int.floor_le q
  have above := Int.lt_floor_add_one q
  rw [evenRounded]
  generalize ⌊q⌋ = floor at *
  have fromFloor : |q - floor| = q - floor := abs_of_nonneg (sub_nonneg.mpr below)
  have toNext : |q - (floor + 1 : ℤ)| = floor + 1 - q := by
    rw [abs_sub_comm, Int.cast_add, Int.cast_one]
    exact abs_of_pos (sub_pos.mpr above)
  rcases lt_trichotomy (2 * (q - floor)) 1 with less | half | greater
  · rw [compare_lt_iff_lt.mpr less]
    refine ⟨by linarith, fun atHalf => ?_⟩
    linarith
  · rw [compare_eq_iff_eq.mpr half]
    rcases Int.emod_two_eq_zero_or_one floor with even | odd
    · rw [even, add_zero]
      exact ⟨by linarith, fun _ => Int.even_iff.mpr even⟩
    · rw [odd]
      exact ⟨by linarith, fun _ => (Int.odd_iff.mpr odd).add_one⟩
  · rw [compare_gt_iff_gt.mpr greater]
    refine ⟨by linarith, fun atHalf => ?_⟩
    linarith

/-- Of two numbers in order the nearest integers are in order. -/
theorem IsEvenRounding.le
    {q r : ℚ}
    {n m : ℤ}
    (rounding : IsEvenRounding q n)
    (rounding' : IsEvenRounding r m)
    (ordered : q ≤ r) :
    n ≤ m := by
  by_contra! less
  have step : (m : ℚ) + 1 ≤ n := by exact_mod_cast less
  have near := abs_le.mp rounding.near
  have near' := abs_le.mp rounding'.near
  -- The two numbers are the same one half way between the integers, and both of these even.
  have half : q - n = -(1 / 2) := by linarith
  have half' : r - m = 1 / 2 := by linarith
  have next : n = m + 1 := by
    have : (n : ℚ) = m + 1 := by linarith
    exact_mod_cast this
  have even := rounding.even (by rw [half]; norm_num)
  have even' := rounding'.even (by rw [half']; norm_num)
  rw [next, Int.even_add_one] at even
  exact even even'

theorem IsEvenRounding.eq_evenRounded
    {q : ℚ}
    {n : ℤ}
    (rounding : IsEvenRounding q n) :
    n = evenRounded q :=
  le_antisymm (rounding.le (isEvenRounding_evenRounded q) le_rfl)
    ((isEvenRounding_evenRounded q).le rounding le_rfl)

theorem evenRounded_le {q r : ℚ} (ordered : q ≤ r) : evenRounded q ≤ evenRounded r :=
  (isEvenRounding_evenRounded q).le (isEvenRounding_evenRounded r) ordered

@[simp] theorem evenRounded_intCast (n : ℤ) : evenRounded n = n := by
  refine (IsEvenRounding.eq_evenRounded ⟨?_, ?_⟩).symm
  · norm_num
  · norm_num

theorem evenRounded_neg (q : ℚ) : evenRounded (-q) = -evenRounded q := by
  have distance : |-q - (-evenRounded q : ℤ)| = |q - evenRounded q| := by
    rw [Int.cast_neg, ← abs_neg]
    congr 1
    ring
  obtain ⟨near, even⟩ := isEvenRounding_evenRounded q
  refine (IsEvenRounding.eq_evenRounded ⟨?_, fun atHalf => ?_⟩).symm
  · rwa [distance]
  · rw [distance] at atHalf
    exact (even atHalf).neg

/-! ## Multiples of a unit -/

namespace Binary

/-- The exponent of the unit that a double near to a rational number has. -/
def unitExponent (q : ℚ) : ℤ :=
  max (Int.log 2 |q| - 52) (-1074)

/-- The multiple of its unit that is nearest to a rational number. -/
def nearest (q : ℚ) : ℚ :=
  evenRounded (q / 2 ^ unitExponent q) * 2 ^ unitExponent q

section Unit

variable {q : ℚ} (positive : 0 < q)

include positive

/-- Below a power of two the unit is small enough for fifty-three digits. -/
theorem unitExponent_le_iff {exponent : Int} :
    unitExponent q ≤ exponent ↔ -1074 ≤ exponent ∧ q < 2 ^ (exponent + 53) := by
  have isLog := Int.lt_zpow_iff_log_lt one_lt_two (x := exponent + 53) positive
  rw [Nat.cast_ofNat] at isLog
  rw [unitExponent, abs_of_pos positive, isLog]
  omega

/-- From a power of two on it is large enough for them, unless it is the least one. -/
theorem le_unitExponent_iff {exponent : Int} :
    exponent ≤ unitExponent q ↔ exponent ≤ -1074 ∨ 2 ^ (exponent + 52) ≤ q := by
  have isLog := Int.zpow_le_iff_le_log one_lt_two (x := exponent + 52) positive
  rw [Nat.cast_ofNat] at isLog
  rw [unitExponent, abs_of_pos positive, isLog]
  omega

end Unit

theorem least_le_unitExponent (q : ℚ) : -1074 ≤ unitExponent q :=
  le_max_right _ _

theorem nearest_neg (q : ℚ) : nearest (-q) = -nearest q := by
  have same : unitExponent (-q) = unitExponent q := by rw [unitExponent, abs_neg, unitExponent]
  rw [nearest, same, neg_div, evenRounded_neg, Int.cast_neg, neg_mul, nearest]

@[simp] theorem nearest_zero : nearest 0 = 0 := by
  have rounded : evenRounded 0 = 0 := evenRounded_intCast 0
  rw [nearest, zero_div, rounded, Int.cast_zero, zero_mul]

/-- Rounding does not cross a multiple of the unit. -/
theorem nearest_le_mul {q : ℚ} {n : ℤ} (ordered : q ≤ n * 2 ^ unitExponent q) :
    nearest q ≤ n * 2 ^ unitExponent q := by
  have rounded := evenRounded_le ((div_le_iff₀ (by positivity)).mpr ordered)
  rw [evenRounded_intCast] at rounded
  rw [nearest]
  gcongr

theorem mul_le_nearest {q : ℚ} {n : ℤ} (ordered : n * 2 ^ unitExponent q ≤ q) :
    n * 2 ^ unitExponent q ≤ nearest q := by
  have rounded := evenRounded_le ((le_div_iff₀ (by positivity)).mpr ordered)
  rw [evenRounded_intCast] at rounded
  rw [nearest]
  gcongr

theorem nearest_nonneg {q : ℚ} (nonneg : 0 ≤ q) : 0 ≤ nearest q := by
  have zero : ((0 : ℤ) : ℚ) * 2 ^ unitExponent q = 0 := by rw [Int.cast_zero, zero_mul]
  rw [← zero]
  exact mul_le_nearest (by rwa [zero])

/-- What a number is rounded to has at most fifty-three digits. -/
theorem nearest_le {q : ℚ} (positive : 0 < q) :
    nearest q ≤ (2 ^ 53 : ℤ) * 2 ^ unitExponent q := by
  have above := ((unitExponent_le_iff positive).mp le_rfl).2
  rw [add_comm, zpow_add₀ two_ne_zero] at above
  exact nearest_le_mul (by exact_mod_cast above.le)

/-- It has as many as that unless its unit is the least one. -/
theorem le_nearest {q : ℚ} (positive : 0 < q) (normal : -1074 < unitExponent q) :
    (2 ^ 52 : ℤ) * 2 ^ unitExponent q ≤ nearest q := by
  have below := ((le_unitExponent_iff positive).mp le_rfl).resolve_left normal.not_ge
  rw [add_comm, zpow_add₀ two_ne_zero] at below
  exact mul_le_nearest (by exact_mod_cast below)

theorem nearest_le_of_pos_of_le {q r : ℚ} (positive : 0 < q) (ordered : q ≤ r) :
    nearest q ≤ nearest r := by
  have positive' := positive.trans_le ordered
  have units : unitExponent q ≤ unitExponent r := by
    refine (unitExponent_le_iff positive).mpr ⟨least_le_unitExponent r, ordered.trans_lt ?_⟩
    exact ((unitExponent_le_iff positive').mp le_rfl).2
  rcases units.lt_or_eq with smaller | same
  · -- Between the two there is a power of two, which is a multiple of both units.
    calc nearest q ≤ (2 ^ 53 : ℤ) * 2 ^ unitExponent q := nearest_le positive
      _ = (2 ^ 52 : ℤ) * 2 ^ (unitExponent q + 1) := by
          rw [zpow_add_one₀ two_ne_zero]
          push_cast
          ring
      _ ≤ (2 ^ 52 : ℤ) * 2 ^ unitExponent r := by
          gcongr
          · norm_num
          · omega
      _ ≤ nearest r := le_nearest positive' ((least_le_unitExponent q).trans_lt smaller)
  · rw [nearest, nearest, same]
    gcongr
    exact evenRounded_le (by gcongr)

/-- Rounding keeps the order. -/
theorem nearest_mono : Monotone nearest := by
  intro q r ordered
  rcases lt_or_ge 0 q with positive | nonpos
  · exact nearest_le_of_pos_of_le positive ordered
  · rcases lt_or_ge r 0 with negative | nonneg
    · have mirrored := nearest_le_of_pos_of_le (neg_pos.mpr negative) (neg_le_neg ordered)
      rw [nearest_neg, nearest_neg] at mirrored
      exact neg_le_neg_iff.mp mirrored
    · have mirrored := nearest_nonneg (neg_nonneg.mpr nonpos)
      rw [nearest_neg, neg_nonneg] at mirrored
      exact mirrored.trans (nearest_nonneg nonneg)

/-- In its own unit a number is rounded to the nearest integer. -/
theorem nearest_of_unitExponent
    {q : ℚ}
    {n unit : ℤ}
    (isUnit : unitExponent (q * 2 ^ unit) = unit)
    (rounding : IsEvenRounding q n) :
    nearest (q * 2 ^ unit) = n * 2 ^ unit := by
  rw [nearest, isUnit, mul_div_cancel_right₀ _ (by positivity), ← rounding.eq_evenRounded]

/-- A multiple of a unit stays as it is when fifty-three digits hold it. -/
theorem nearest_mul_zpow {n exponent : ℤ} (least : -1074 ≤ exponent) (short : |n| < 2 ^ 53) :
    nearest (n * 2 ^ exponent) = n * 2 ^ exponent := by
  wlog positive : 0 < n generalizing n
  · rcases eq_or_ne n 0 with rfl | nonzero
    · simp
    · have mirrored := this (n := -n) (by rwa [abs_neg]) (by omega)
      rw [Int.cast_neg, neg_mul, nearest_neg] at mirrored
      exact neg_injective mirrored
  rw [abs_of_pos positive] at short
  have magnitude : (0 : ℚ) < n * 2 ^ exponent := by positivity
  have units : unitExponent (n * 2 ^ exponent) ≤ exponent := by
    refine (unitExponent_le_iff magnitude).mpr ⟨least, ?_⟩
    rw [add_comm, zpow_add₀ two_ne_zero]
    gcongr
    exact_mod_cast short
  rw [nearest]
  generalize unitExponent (n * 2 ^ exponent) = unit at *
  obtain ⟨shift, rfl⟩ : ∃ shift : ℕ, exponent = unit + shift := ⟨(exponent - unit).toNat, by omega⟩
  have whole : (n : ℚ) * 2 ^ (unit + shift) = (n * 2 ^ shift : ℤ) * 2 ^ unit := by
    rw [zpow_add₀ two_ne_zero, zpow_natCast]
    push_cast
    ring
  rw [whole, mul_div_cancel_right₀ _ (by positivity), evenRounded_intCast]

theorem one_le_nearest {q : ℚ} (ordered : 1 ≤ q) : 1 ≤ nearest q := by
  have kept : nearest ((1 : ℤ) * 2 ^ (0 : ℤ)) = (1 : ℤ) * 2 ^ (0 : ℤ) :=
    nearest_mul_zpow (by norm_num) (by norm_num)
  rw [Int.cast_one, zpow_zero, mul_one] at kept
  exact kept.ge.trans (nearest_mono ordered)

/-- A canonical fraction stays as it is. -/
theorem nearest_rational
    {mantissa : Nat}
    {exponent : Int}
    {negative : Bool}
    (canonical : (finite negative mantissa exponent).IsCanonical) :
    nearest (rational negative mantissa exponent) = rational negative mantissa exponent := by
  obtain ⟨short, least, -⟩ := canonical
  refine nearest_mul_zpow least ?_
  rw [Int.abs_eq_natAbs, natAbs_signed]
  exact_mod_cast short

end Binary

/-! ## Places -/

namespace Line

/-- All finite doubles lie below this power of two. -/
def limit : ℚ :=
  2 ^ (1024 : ℤ)

theorem limit_pos : 0 < limit :=
  zpow_pos two_pos 1024

/-- The place of a rational number, or the infinity beyond the limit. -/
def clipped (q : ℚ) : Line :=
  if limit ≤ q then ⊤ else if q ≤ -limit then ⊥ else ofRat q

/-- The place of the double that is nearest to a rational number. -/
def rounded (q : ℚ) : Line :=
  clipped (Binary.nearest q)

theorem clipped_of_abs_lt {q : ℚ} (inside : |q| < limit) : clipped q = ofRat q := by
  obtain ⟨above, below⟩ := abs_lt.mp inside
  rw [clipped, if_neg below.not_ge, if_neg above.not_ge]

theorem clipped_zero : clipped 0 = ofRat 0 :=
  clipped_of_abs_lt (abs_zero.trans_lt limit_pos)

theorem clipped_eq_ofRat_iff {q r : ℚ} : clipped q = ofRat r ↔ q = r ∧ |q| < limit := by
  constructor
  · intro inside
    rw [clipped] at inside
    split at inside
    · exact absurd inside.symm (ofRat_lt_top r).ne
    · split at inside
      · exact absurd inside (bot_lt_ofRat r).ne
      · rename_i below above
        exact ⟨ofRat_strictMono.injective inside,
          abs_lt.mpr ⟨lt_of_not_ge above, lt_of_not_ge below⟩⟩
  · rintro ⟨rfl, inside⟩
    exact clipped_of_abs_lt inside

theorem clipped_eq_top_iff {q : ℚ} : clipped q = ⊤ ↔ limit ≤ q := by
  rw [clipped]
  split
  · next beyond => exact iff_of_true rfl beyond
  · next inside =>
    refine iff_of_false ?_ inside
    split
    · exact nofun
    · exact (ofRat_lt_top q).ne

theorem clipped_eq_bot_iff {q : ℚ} : clipped q = ⊥ ↔ q ≤ -limit := by
  have limit_pos := limit_pos
  rw [clipped]
  split
  · next beyond => exact iff_of_false nofun (by linarith)
  · split
    · next below => exact iff_of_true rfl below
    · next inside => exact iff_of_false (bot_lt_ofRat q).ne' inside

theorem clipped_mono : Monotone clipped := by
  intro q r ordered
  rw [clipped, clipped]
  split
  · rename_i beyond
    rw [if_pos (beyond.trans ordered)]
  · split
    · exact bot_le
    · rename_i above
      split
      · exact le_top
      · rw [if_neg fun below => above (ordered.trans below)]
        exact ofRat_strictMono.monotone ordered

/-- Rounding keeps the order of places. -/
theorem rounded_mono : Monotone rounded :=
  clipped_mono.comp Binary.nearest_mono

theorem rounded_zero : rounded 0 = ofRat 0 := by
  rw [rounded, Binary.nearest_zero, clipped_zero]

theorem nearest_limit : Binary.nearest limit = limit := by
  have kept : Binary.nearest ((1 : ℤ) * 2 ^ (1024 : ℤ)) = (1 : ℤ) * 2 ^ (1024 : ℤ) :=
    Binary.nearest_mul_zpow (by norm_num) (by norm_num)
  rwa [Int.cast_one, one_mul] at kept

theorem rounded_limit : rounded limit = ⊤ := by
  rw [rounded, nearest_limit]
  exact if_pos le_rfl

/-- Half of the least unit is rounded to zero. -/
theorem rounded_half_least : rounded (2 ^ (-1075 : ℤ)) = ofRat 0 := by
  have unit : Binary.unitExponent (2 ^ (-1075 : ℤ)) = -1074 := by
    refine le_antisymm ((Binary.unitExponent_le_iff (by positivity)).mpr ⟨le_rfl, ?_⟩)
      (Binary.least_le_unitExponent _)
    exact zpow_lt_zpow_right₀ one_lt_two (by norm_num)
  have half : (2 : ℚ) ^ (-1075 : ℤ) / 2 ^ (-1074 : ℤ) = 1 / 2 := by
    rw [← zpow_sub₀ two_ne_zero]
    norm_num
  have vanishes : evenRounded (1 / 2) = 0 :=
    (IsEvenRounding.eq_evenRounded ⟨by norm_num, fun _ => Even.zero⟩).symm
  rw [← rounded_zero, rounded, rounded, Binary.nearest_zero, Binary.nearest, unit, half, vanishes,
    Int.cast_zero, zero_mul]

end Line

end Calculator
