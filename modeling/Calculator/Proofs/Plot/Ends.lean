import Calculator.Proofs.Arithmetic.RoundingError
import Calculator.Proofs.Plot.LeftToRight

/-!
# The ends of a plot

The first point of a plot without gaps stands at the left bound. The last one stands where the width
leads from there, with every step on the way rounded: the width, its product with the number of
columns, the quotient of that and the sum. It stands next to the right bound, and at the right bound
itself when all of the steps are exact.
-/

namespace Calculator

open Scalar

namespace Window

open Binary Double

/-! ## The last border -/

/-- The share of a width that the last border of some columns is moved by. The width, its product
with the number of columns and the quotient are rounded. -/
def wholeShare (width : ℚ) (columns : ℕ) : ℚ :=
  nearest (nearest (nearest width * nearest columns) / nearest columns)

/-- Where the last border stands between two bounds, unless that is beyond all doubles. -/
def lastBorder (left right : ℚ) (columns : ℕ) : ℚ :=
  nearest (left + wholeShare (right - left) columns)

theorem wholeShare_nonneg {width : ℚ} (nonneg : 0 ≤ width) (columns : ℕ) :
    0 ≤ wholeShare width columns := by
  have count := nearest_nonneg (Nat.cast_nonneg (α := ℚ) columns)
  have product := mul_nonneg (nearest_nonneg nonneg) count
  exact nearest_nonneg (div_nonneg (nearest_nonneg product) count)

/-- The last border does not lie to the left of the left bound. -/
theorem le_lastBorder
    {left right : ℚ}
    (kept : nearest left = left)
    (ordered : left ≤ right)
    (columns : ℕ) :
    left ≤ lastBorder left right columns := by
  have step := nearest_mono (le_add_of_nonneg_right
    (wholeShare_nonneg (sub_nonneg.mpr ordered) columns) : left ≤ left + _)
  rwa [kept] at step

/-- Bounds and widths that are whole in one unit, and small in it, are not rounded. -/
theorem lastBorder_of_whole
    {m n exponent : ℤ}
    {columns : ℕ}
    (ordered : m < n)
    (positive : 0 < columns)
    (least : -1074 ≤ exponent)
    (short : |n| < 2 ^ 53)
    (narrow : (n - m) * columns < 2 ^ 53) :
    lastBorder (m * 2 ^ exponent) (n * 2 ^ exponent) columns = n * 2 ^ exponent := by
  have widthPos : 0 < n - m := sub_pos.mpr ordered
  have one_le : (1 : ℤ) ≤ columns := by exact_mod_cast positive
  have widthShort : n - m < 2 ^ 53 := (le_mul_of_one_le_right widthPos.le one_le).trans_lt narrow
  have countShort : (columns : ℤ) < 2 ^ 53 :=
    (le_mul_of_one_le_left (by omega) widthPos).trans_lt narrow
  have width : (n : ℚ) * 2 ^ exponent - m * 2 ^ exponent = (n - m : ℤ) * 2 ^ exponent := by
    rw [Int.cast_sub, sub_mul]
  have product : ((n - m : ℤ) : ℚ) * 2 ^ exponent * columns =
      ((n - m) * columns : ℤ) * 2 ^ exponent := by
    rw [Int.cast_mul, Int.cast_natCast]
    ring
  have widthKept : nearest ((n - m : ℤ) * 2 ^ exponent) = (n - m : ℤ) * 2 ^ exponent :=
    nearest_mul_zpow least ((abs_of_pos widthPos).trans_lt widthShort)
  have productKept : nearest (((n - m) * columns : ℤ) * 2 ^ exponent) =
      ((n - m) * columns : ℤ) * 2 ^ exponent :=
    nearest_mul_zpow least ((abs_of_pos (mul_pos widthPos (by omega))).trans_lt narrow)
  have countKept : nearest columns = columns := nearest_natCast (by exact_mod_cast countShort)
  have share : wholeShare ((n - m : ℤ) * 2 ^ exponent) columns = (n - m : ℤ) * 2 ^ exponent := by
    rw [wholeShare, widthKept, countKept, product, productKept, ← product,
      mul_div_cancel_right₀ _ (by positivity), widthKept]
  rw [lastBorder, width, share, ← width, add_sub_cancel]
  exact nearest_mul_zpow least short

/-- The share that the last border is moved by is near to the rounded width. -/
theorem abs_wholeShare_sub_le
    {width : ℚ}
    (nonneg : 0 ≤ width)
    {columns : ℕ}
    (positive : 0 < columns) :
    |wholeShare width columns - nearest width| ≤ 3 * 2 ^ (-53 : ℤ) * nearest width := by
  have one_le : 1 ≤ nearest columns := one_le_nearest (by exact_mod_cast positive)
  obtain ⟨count, isCount⟩ := exists_nearest_intCast columns
  rw [Int.cast_natCast] at isCount
  have roundedNonneg := nearest_nonneg nonneg
  have multiple : IsMultiple (nearest width * nearest columns) := by
    rw [isCount]
    exact (isMultiple_nearest width).mul_intCast count
  refine abs_nearest_sub_le_of_near (isMultiple_nearest width) roundedNonneg ?_
  have error := abs_nearest_sub_le_of_isMultiple multiple
  generalize nearest (nearest width * nearest columns) = product at *
  have countPos : 0 < nearest columns := one_pos.trans_le one_le
  rw [abs_of_nonneg (mul_nonneg roundedNonneg countPos.le)] at error
  have scaled : product / nearest columns - nearest width =
      (product - nearest width * nearest columns) / nearest columns := by
    rw [sub_div, mul_div_cancel_right₀ _ countPos.ne']
  rw [scaled, abs_div, abs_of_pos countPos, div_le_iff₀ countPos]
  exact error.trans_eq (mul_assoc _ _ _).symm

/-- The share that the last border is moved by is near to the width itself. -/
theorem abs_wholeShare_sub_width_le
    {width : ℚ}
    (multiple : IsMultiple width)
    (nonneg : 0 ≤ width)
    {columns : ℕ}
    (positive : 0 < columns) :
    |wholeShare width columns - width| ≤ 5 * (2 ^ (-53 : ℤ) * width) := by
  have widthError := abs_nearest_sub_le_of_isMultiple multiple
  have shareError := abs_wholeShare_sub_le nonneg positive
  have small : (2 : ℚ) ^ (-53 : ℤ) ≤ 1 / 3 := by norm_num
  have unitPos : (0 : ℚ) < 2 ^ (-53 : ℤ) := by positivity
  rw [abs_of_nonneg nonneg] at widthError
  generalize wholeShare width columns = share at *
  generalize nearest width = rounded at *
  generalize (2 : ℚ) ^ (-53 : ℤ) = u at *
  have rounded_le : rounded ≤ width + u * width := by
    linarith [le_abs_self (rounded - width)]
  calc |share - width| ≤ |share - rounded| + |rounded - width| := abs_sub_le _ _ _
    _ ≤ 3 * u * rounded + u * width := add_le_add shareError widthError
    _ ≤ 3 * u * (width + u * width) + u * width := by gcongr
    _ = (4 + 3 * u) * (u * width) := by ring
    _ ≤ 5 * (u * width) := by
        gcongr
        linarith

/-- The last border stands near to the right bound, in proportion to the bounds. -/
theorem abs_lastBorder_sub_le
    {left right : ℚ}
    (leftMultiple : IsMultiple left)
    (rightMultiple : IsMultiple right)
    (ordered : left ≤ right)
    {columns : ℕ}
    (positive : 0 < columns) :
    |lastBorder left right columns - right| ≤ 2 ^ (-50 : ℤ) * (|left| + |right|) := by
  have nonneg : 0 ≤ right - left := sub_nonneg.mpr ordered
  have shareError := abs_wholeShare_sub_width_le (rightMultiple.sub leftMultiple) nonneg positive
  have shareMultiple : IsMultiple (wholeShare (right - left) columns) := isMultiple_nearest _
  have sumError := abs_nearest_sub_le_of_isMultiple (leftMultiple.add shareMultiple)
  have width_le : right - left ≤ |left| + |right| := by
    linarith [le_abs_self right, neg_abs_le left]
  have unit : (2 : ℚ) ^ (-50 : ℤ) = 8 * 2 ^ (-53 : ℤ) := by norm_num
  have small : (2 : ℚ) ^ (-53 : ℤ) ≤ 1 / 5 := by norm_num
  have unitPos : (0 : ℚ) < 2 ^ (-53 : ℤ) := by positivity
  rw [lastBorder, unit]
  generalize wholeShare (right - left) columns = share at *
  generalize (2 : ℚ) ^ (-53 : ℤ) = u at *
  have away : left + share - right = share - (right - left) := by ring
  generalize right - left = width at *
  have sum_le : |left + share| ≤ |right| + 5 * (u * width) := by
    have path := abs_add_le right (left + share - right)
    rw [add_sub_cancel, away] at path
    linarith
  calc |nearest (left + share) - right|
      ≤ |nearest (left + share) - (left + share)| + |left + share - right| := abs_sub_le _ _ _
    _ ≤ u * (|right| + 5 * (u * width)) + 5 * (u * width) := by
        rw [away]
        exact add_le_add (sumError.trans (by gcongr)) shareError
    _ = u * |right| + (5 + 5 * u) * (u * width) := by ring
    _ ≤ u * (|left| + |right|) + 6 * (u * (|left| + |right|)) := by
        gcongr
        · exact le_add_of_nonneg_left (abs_nonneg left)
        · linarith
    _ ≤ 8 * u * (|left| + |right|) := by
        have positive : 0 ≤ u * (|left| + |right|) := by positivity
        linarith

/-- A share that exceeds the width by half of the largest unit exceeds the rounded width by as much,
since the difference of the two is a double. -/
theorem nearest_le_wholeShare_sub
    {width : ℚ}
    (positive : 0 < width)
    {columns : ℕ}
    (small : unitExponent (nearest (nearest width * nearest columns) / nearest columns) ≤ 970)
    (excess : width ≤ wholeShare width columns - 2 ^ (970 : ℤ)) :
    nearest width ≤ wholeShare width columns - 2 ^ (970 : ℤ) := by
  obtain ⟨n, short, isShare⟩ :=
    exists_nearest_eq_mul (nearest (nearest width * nearest columns) / nearest columns)
  have least := least_le_unitExponent
    (nearest (nearest width * nearest columns) / nearest columns)
  rw [wholeShare] at excess ⊢
  rw [isShare] at excess ⊢
  generalize unitExponent (nearest (nearest width * nearest columns) / nearest columns) = unit at *
  obtain ⟨power, isPower⟩ : ∃ power : ℕ, (970 : ℤ) = unit + power := ⟨(970 - unit).toNat, by omega⟩
  have difference : (n : ℚ) * 2 ^ unit - 2 ^ (970 : ℤ) = (n - 2 ^ power : ℤ) * 2 ^ unit := by
    rw [isPower, zpow_add₀ two_ne_zero, zpow_natCast, Int.cast_sub, Int.cast_pow, Int.cast_ofNat]
    ring
  rw [difference] at excess ⊢
  have unitPos : (0 : ℚ) < 2 ^ unit := by positivity
  have numeratorPos : 0 < n - 2 ^ power := by
    have product : (0 : ℚ) < (n - 2 ^ power : ℤ) * 2 ^ unit := positive.trans_le excess
    exact_mod_cast (mul_pos_iff_of_pos_right unitPos).mp product
  have powerPos : (0 : ℤ) < 2 ^ power := by positivity
  have shorter : |n - 2 ^ power| ≤ 2 ^ 53 := by
    rw [abs_of_pos numeratorPos]
    linarith [le_abs_self n]
  rw [← nearest_mul_zpow_of_le least shorter]
  exact nearest_mono excess

/-- Two columns double the rounded width and halve it again. -/
theorem wholeShare_two (width : ℚ) : wholeShare width 2 = nearest width := by
  have count : nearest ((2 : ℕ) : ℚ) = 2 := nearest_natCast (by norm_num)
  rw [wholeShare, count, nearest_nearest_mul_two, mul_div_cancel_right₀ _ two_ne_zero,
    nearest_nearest]

/-- Three columns or more divide the error of the product by three, and that of the quotient is a
quarter of the largest unit. -/
theorem wholeShare_sub_lt
    {width : ℚ}
    {columns : ℕ}
    (several : 3 ≤ nearest columns)
    (productPos : 0 < nearest width * nearest columns)
    (bounded : nearest (nearest width * nearest columns) < Line.limit)
    (small : unitExponent (nearest (nearest width * nearest columns) / nearest columns) ≤ 970) :
    wholeShare width columns - 2 ^ (970 : ℤ) < nearest width := by
  have productError := nearest_sub_le_of_lt_limit productPos (lt_limit_of_nearest_lt bounded)
  have unit_le : (2 : ℚ) ^ unitExponent (nearest (nearest width * nearest columns) /
      nearest columns) ≤ 2 ^ (970 : ℤ) := zpow_le_zpow_right₀ one_le_two small
  have quotientError := (le_abs_self _).trans (abs_nearest_sub_le
    (nearest (nearest width * nearest columns) / nearest columns))
  have half : (0 : ℚ) < 2 ^ (970 : ℤ) := by positivity
  rw [wholeShare]
  generalize nearest (nearest (nearest width * nearest columns) / nearest columns) = share at *
  generalize nearest (nearest width * nearest columns) = product at *
  generalize nearest width = rounded at *
  generalize nearest columns = count at *
  generalize (2 : ℚ) ^ (970 : ℤ) = step at *
  have countPos : 0 < count := three_pos.trans_le several
  have quotient_le : product / count ≤ rounded + step / 3 :=
    calc product / count ≤ (rounded * count + step) / count := by
          gcongr
          linarith
      _ = rounded + step / count := by rw [add_div, mul_div_cancel_right₀ _ countPos.ne']
      _ ≤ rounded + step / 3 := by gcongr
  linarith

/-- A quotient by two or more lies in the lower half of the doubles. -/
theorem unitExponent_quotient_le
    {product count : ℚ}
    (positive : 0 < product / count)
    (several : 2 ≤ count)
    (bounded : product < Line.limit) :
    unitExponent (product / count) ≤ 970 := by
  have countPos : 0 < count := two_pos.trans_le several
  refine (unitExponent_le_iff positive).mpr ⟨by norm_num, (div_lt_iff₀ countPos).mpr ?_⟩
  calc product < Line.limit := bounded
    _ = 2 ^ (970 + 53 : ℤ) * 2 := zpow_add_one₀ two_ne_zero 1023
    _ ≤ 2 ^ (970 + 53 : ℤ) * count := by gcongr

/-- The last border of two columns or more stands before the limit. -/
theorem lastBorder_lt_limit
    {left right : ℚ}
    (ordered : left < right)
    (kept : nearest right = right)
    (inside : right < Line.limit)
    {columns : ℕ}
    (several : 1 < columns)
    (bounded : nearest (nearest (right - left) * nearest columns) < Line.limit) :
    lastBorder left right columns < Line.limit := by
  by_contra! beyond
  have positive : 0 < right - left := sub_pos.mpr ordered
  have right_le : right ≤ Line.limit - 2 ^ (971 : ℤ) := by
    rw [← kept] at inside ⊢
    exact nearest_le_sub_of_lt_limit inside
  have reached := sub_le_of_limit_le_nearest beyond
  have excess : right - left ≤ wholeShare (right - left) columns - 2 ^ (970 : ℤ) := by
    rw [unit_eq_two_mul] at right_le
    linarith
  have half : (0 : ℚ) < 2 ^ (970 : ℤ) := by positivity
  have sharePos : 0 < wholeShare (right - left) columns :=
    positive.trans_le (excess.trans (sub_le_self _ half.le))
  have quotientPos := pos_of_nearest_pos sharePos
  have two_le : 2 ≤ nearest columns :=
    natCast_le_nearest (n := 2) (by norm_num) (by exact_mod_cast several)
  have small := unitExponent_quotient_le quotientPos two_le bounded
  have rounded_le := nearest_le_wholeShare_sub positive small excess
  rcases (Nat.succ_le_of_lt several).eq_or_lt with rfl | more
  · rw [wholeShare_two] at rounded_le
    exact rounded_le.not_gt (sub_lt_self _ half)
  · have three_le : 3 ≤ nearest columns :=
      natCast_le_nearest (n := 3) (by norm_num) (by exact_mod_cast more)
    have productPos := pos_of_nearest_pos
      ((div_pos_iff_of_pos_right (two_pos.trans_le two_le)).mp quotientPos)
    exact rounded_le.not_gt (wholeShare_sub_lt three_le productPos bounded small)

end Window

/-! ## Doubles and their places -/

namespace Double

open Binary

variable {x y : Float} {p q : ℚ}

/-- A double stands at a number that rounding keeps, before the limit. -/
theorem StandsAt.kept_and_lt_limit (standsAt : StandsAt x q) :
    nearest q = q ∧ |q| < Line.limit := by
  have same := Option.some.inj (standsAt.isRounded.symm.trans standsAt)
  obtain ⟨kept, inside⟩ := Line.clipped_eq_ofRat_iff.mp same
  exact ⟨kept, kept ▸ inside⟩

theorem StandsAt.isMultiple (standsAt : StandsAt x q) : IsMultiple q :=
  standsAt.kept_and_lt_limit.1 ▸ isMultiple_nearest q

/-- Two doubles are the same number when they stand at the same place. -/
theorem StandsAt.same_iff (left : StandsAt x p) (right : StandsAt y q) :
    same x y = true ↔ p = q := by
  have ordered := Number.order_eq_cmp left right
  change Scalar.order x y = some _ at ordered
  rw [same, ordered, beq_iff_eq, Option.some.injEq, cmp_eq_eq_iff]
  exact Line.ofRat_strictMono.injective.eq_iff

/-- A double that a number is rounded to stands there when the number is rounded to less than the
limit. -/
theorem IsRounded.standsAt_of_lt
    (isRounded : IsRounded x q)
    (inside : |nearest q| < Line.limit) :
    StandsAt x (nearest q) := by
  rw [StandsAt, isRounded, Line.rounded, Line.clipped_of_abs_lt inside]

end Double

namespace Window

open Binary Double

variable {xMin xMax : Float} {columnCount : Value} {window : Window Float}

/-! ## The window -/

/-- The first border is where the left bound stands. -/
theorem standsAt_abscissa_zero
    (accepted : make (.real xMin) (.real xMax) columnCount = .ok window)
    {left : ℚ}
    (minStands : StandsAt xMin left) :
    StandsAt (window.abscissa 0) left := by
  obtain ⟨start, share, standsAt, zero, -, isRounded⟩ := exists_borders accepted
  have first := isRounded 0 (Nat.zero_le _)
  rw [zero, add_zero] at first
  exact first.trans (standsAt.isRounded.symm.trans minStands)

/-- The last border is where the left bound, moved by the share of the width, is rounded to. The
number of columns makes a product with the rounded width that is finite. -/
theorem isRounded_abscissa_columns
    (accepted : make (.real xMin) (.real xMax) columnCount = .ok window)
    {left right : ℚ}
    (minStands : StandsAt xMin left)
    (maxStands : StandsAt xMax right)
    (ordered : left ≤ right) :
    IsRounded (window.abscissa window.columns)
        (left + wholeShare (right - left) window.columns) ∧
      nearest (nearest (right - left) * nearest window.columns) < Line.limit := by
  obtain ⟨⟨isMin, isMax, -⟩, -, -, spanFinite⟩ := checks_of_make accepted
  have isWidth : window.width = .real (xMax - xMin) := by
    rw [Window.width, isMin, isMax]
    rfl
  obtain ⟨countFinite, widthFinite, finite⟩ := finite_of_spanFinite? isWidth spanFinite
  have widthStands := (maxStands.sub minStands).standsAt widthFinite
  have isCount := isRounded_ofInt window.columns
  rw [Int.cast_natCast] at isCount
  have productStands := (widthStands.mul (isCount.standsAt countFinite)).standsAt finite
  have shareStands := standsAt_portion_real widthStands
    (nearest_nonneg (sub_nonneg.mpr ordered)) window.columns_pos countFinite finite le_rfl
  constructor
  · rw [abscissa, isMin, isWidth]
    exact minStands.add shareStands
  · exact (le_abs_self _).trans_lt productStands.kept_and_lt_limit.2

/-- Between two doubles the last border is a double, unless there is a single column and it lies
beyond all doubles. -/
theorem exists_last_border (accepted : make (.real xMin) (.real xMax) columnCount = .ok window) :
    ∃ left right : ℚ, StandsAt xMin left ∧ StandsAt xMax right ∧ left < right ∧
      (StandsAt (window.abscissa window.columns) (lastBorder left right window.columns) ∨
        Line.limit ≤ lastBorder left right window.columns ∧ window.columns = 1 ∧
          isFinite (window.abscissa window.columns) = false) := by
  obtain ⟨left, right, minStands, maxStands, -, -⟩ := exists_bounds accepted
  have ordered : left < right := by
    by_contra! reversed
    have reached : Number.atMost (.real xMax) (.real xMin) = true := Number.atMost_iff_place.mpr
      ⟨_, _, maxStands, minStands, Line.ofRat_strictMono.monotone reversed⟩
    rw [(checks_of_make accepted).2.2.1] at reached
    cases reached
  obtain ⟨isRounded, bounded⟩ :=
    isRounded_abscissa_columns accepted minStands maxStands ordered.le
  obtain ⟨leftKept, leftInside⟩ := minStands.kept_and_lt_limit
  obtain ⟨rightKept, rightInside⟩ := maxStands.kept_and_lt_limit
  refine ⟨left, right, minStands, maxStands, ordered, ?_⟩
  rcases lt_or_ge (lastBorder left right window.columns) Line.limit with inside | beyond
  · have above := le_lastBorder leftKept ordered.le window.columns
    exact .inl (isRounded.standsAt_of_lt
      (abs_lt.mpr ⟨(abs_lt.mp leftInside).1.trans_le above, inside⟩))
  · refine .inr ⟨beyond, ?_, ?_⟩
    · by_contra several
      have positive := window.columns_pos
      have right_lt := (le_abs_self right).trans_lt rightInside
      exact beyond.not_gt (lastBorder_lt_limit ordered rightKept right_lt (by omega) bounded)
    · rw [← Bool.not_eq_true]
      intro finite
      have inside := (isRounded.standsAt finite).kept_and_lt_limit.2
      exact beyond.not_gt ((le_abs_self _).trans_lt inside)

/-! ## The points -/

/-- The first point over the borders comes first when it is finite, and the last one last. When the
last of two is not finite, the first one is the last. -/
theorem ends_of_points
    (point : ℕ → Point Float)
    (columns : ℕ)
    (first : (point 0).isFinite = true) :
    let kept := ((List.range (columns + 1)).map point).filter Point.isFinite
    kept.head? = some (point 0) ∧
      ((point columns).isFinite = true → kept.getLast? = some (point columns)) ∧
      ((point columns).isFinite = false → columns = 1 → kept.getLast? = some (point 0)) := by
  refine ⟨?_, ?_, ?_⟩
  · rw [List.range_succ_eq_map, List.map_cons, List.filter_cons_of_pos first, List.head?_cons]
  · intro last
    rw [List.range_succ, List.map_append, List.filter_append, List.map_singleton,
      List.filter_cons_of_pos last, List.filter_nil, List.getLast?_concat]
  · rintro missing rfl
    simp [List.range_succ, first, missing]

/-- The segments of a compiled expression hold the finite points of a function over the borders. -/
theorem exists_points
    {source : String}
    {declared : Value}
    {expression : Expression Float}
    (compiled : Expression.compile source declared = .ok expression)
    (window : Window Float)
    (limit : Option (Number Float)) :
    ∃ (value : Float → Float) (segments : List (Segment Float)),
      (∀ x, expression.at? x = .ok (value x)) ∧
        window.sample expression.at? limit = .ok segments ∧
        segments.flatten = ((List.range (window.columns + 1)).map fun index =>
          ⟨window.abscissa index, value (window.abscissa index)⟩).filter Point.isFinite := by
  obtain ⟨value, isValue⟩ := Expression.exists_function compiled
  have found : window.points expression.at? = .ok ((List.range (window.columns + 1)).map
      fun index => ⟨window.abscissa index, value (window.abscissa index)⟩) := by
    refine Outcome.mapM_eq_ok fun index => ?_
    dsimp only
    rw [isValue]
    rfl
  refine ⟨value, _, isValue, congrArg (Except.map (segments limit)) found, ?_⟩
  rw [segments, Sweep.flatten_segments_across]

/-- Where a function is finite over all borders, its points are finite just when the borders are. -/
theorem isFinite_border_point
    {expression : Expression Float}
    {value : Float → Float}
    (isValue : ∀ x, expression.at? x = .ok (value x))
    (finite : ∀ index ≤ window.columns, ∃ y, expression.at? (window.abscissa index) = .ok y ∧
      isFinite y = true)
    {index : ℕ}
    (within : index ≤ window.columns) :
    Point.isFinite ⟨window.abscissa index, value (window.abscissa index)⟩ =
      isFinite (window.abscissa index) := by
  obtain ⟨y, found, isFinite⟩ := finite index within
  rw [isValue] at found
  cases found
  rw [Point.isFinite, isFinite, Bool.and_true]

/-- The plot of an expression that is finite over all borders begins with a point at the left bound
and ends with one at the last border. The last border is the right bound just when the rounding of
the steps that lead to it comes out there, as it does when the bounds are whole in some unit and the
width is not too large in it, and it is never far from there. Over a single column it may lie
beyond all doubles, and then the first point is the last. -/
theorem sample_ends
    {source : String}
    {declared : Value}
    {expression : Expression Float}
    (compiled : Expression.compile source declared = .ok expression)
    (accepted : make (.real xMin) (.real xMax) columnCount = .ok window)
    (finite : ∀ index ≤ window.columns, ∃ y, expression.at? (window.abscissa index) = .ok y ∧
      isFinite y = true)
    (limit : Option (Number Float)) :
    ∃ (left right : ℚ) (segments : List (Segment Float)) (first last : Point Float),
      StandsAt xMin left ∧ StandsAt xMax right ∧
        window.sample expression.at? limit = .ok segments ∧
        segments.flatten.head? = some first ∧ segments.flatten.getLast? = some last ∧
        same first.x xMin = true ∧
        (same last.x xMax = true ↔ lastBorder left right window.columns = right) ∧
        (∀ m n exponent : ℤ, left = m * 2 ^ exponent → right = n * 2 ^ exponent →
          -1074 ≤ exponent → |n| < 2 ^ 53 → (n - m) * window.columns < 2 ^ 53 →
          lastBorder left right window.columns = right) ∧
        |lastBorder left right window.columns - right| ≤ 2 ^ (-50 : ℤ) * (|left| + |right|) ∧
        (StandsAt last.x (lastBorder left right window.columns) ∨
          Line.limit ≤ lastBorder left right window.columns ∧ window.columns = 1 ∧
            last = first) := by
  obtain ⟨left, right, minStands, maxStands, ordered, lastCases⟩ := exists_last_border accepted
  obtain ⟨value, segments, isValue, sampled, isFlatten⟩ := exists_points compiled window limit
  let point (index : ℕ) : Point Float :=
    ⟨window.abscissa index, value (window.abscissa index)⟩
  have isFinite_point (index : ℕ) (within : index ≤ window.columns) :
      (point index).isFinite = isFinite (window.abscissa index) :=
    isFinite_border_point isValue finite within
  have firstStands := standsAt_abscissa_zero accepted minStands
  have firstFinite := isFinite_point 0 (Nat.zero_le _)
  rw [isFinite_iff_standsAt.mpr ⟨_, firstStands⟩] at firstFinite
  obtain ⟨head, lastOf, lastOfOne⟩ := ends_of_points point window.columns firstFinite
  rw [isFinite_point window.columns le_rfl, ← isFlatten] at lastOf lastOfOne
  rw [← isFlatten] at head
  have whole (m n exponent : ℤ) (isLeft : left = m * 2 ^ exponent)
      (isRight : right = n * 2 ^ exponent) (least : -1074 ≤ exponent) (short : |n| < 2 ^ 53)
      (narrow : (n - m) * window.columns < 2 ^ 53) :
      lastBorder left right window.columns = right := by
    have less : (m : ℚ) < n := by
      rw [isLeft, isRight] at ordered
      exact lt_of_mul_lt_mul_right ordered (by positivity)
    rw [isLeft, isRight]
    exact lastBorder_of_whole (by exact_mod_cast less) window.columns_pos least short narrow
  have near := abs_lastBorder_sub_le minStands.isMultiple maxStands.isMultiple ordered.le
    window.columns_pos
  rcases lastCases with lastStands | ⟨beyond, single, missing⟩
  · have last := lastOf (isFinite_iff_standsAt.mpr ⟨_, lastStands⟩)
    exact ⟨left, right, segments, point 0, point window.columns, minStands, maxStands, sampled,
      head, last, (firstStands.same_iff minStands).mpr rfl, lastStands.same_iff maxStands, whole,
      near, .inl lastStands⟩
  · have right_lt := (le_abs_self right).trans_lt maxStands.kept_and_lt_limit.2
    refine ⟨left, right, segments, point 0, point 0, minStands, maxStands, sampled, head,
      lastOfOne missing single, (firstStands.same_iff minStands).mpr rfl, ?_, whole, near,
      .inr ⟨beyond, single, rfl⟩⟩
    exact (firstStands.same_iff maxStands).trans
      (iff_of_false ordered.ne (right_lt.trans_le beyond).ne')

/-- Between two integers the variable alone is plotted from the one to the other. -/
theorem sample_ends_of_integers :
    ∃ (expression : Expression Float) (window : Window Float),
      Expression.compile "x" (.text "x") = .ok expression ∧
        make (.real (-1.0)) (.real 2.0) (.int 7) = .ok window ∧
        (∀ index ≤ window.columns, ∃ y, expression.at? (window.abscissa index) = .ok y ∧
          isFinite y = true) ∧
        ∃ (segments : List (Segment Float)) (first last : Point Float),
          window.sample expression.at? none = .ok segments ∧
            segments.flatten.head? = some first ∧ segments.flatten.getLast? = some last ∧
            same first.x (-1.0) = true ∧ same last.x 2.0 = true := by
  obtain ⟨expression, compiled, identity⟩ := Expression.exists_identity
  let window : Window Float := ⟨.real (-1.0), .real 2.0, 7, by decide⟩
  have accepted : make (.real (-1.0)) (.real 2.0) (.int 7) = .ok window := by rfl
  have borders : ∀ index ≤ 7, isFinite (window.abscissa index) = true := by decide +kernel
  have finite : ∀ index ≤ window.columns, ∃ y,
      expression.at? (window.abscissa index) = .ok y ∧ isFinite y = true :=
    fun index within => ⟨_, identity _, borders index within⟩
  obtain ⟨left, right, segments, first, last, minStands, maxStands, sampled, head, tail, isFirst,
    isLast, whole, -, -⟩ := sample_ends compiled accepted finite none
  have leftStands : StandsAt (-1.0) (-1 : ℤ) := standsAt_intCast_iff.mpr (by rfl)
  have rightStands : StandsAt 2.0 (2 : ℤ) := standsAt_intCast_iff.mpr (by rfl)
  have isLeft := (minStands.same_iff leftStands).mp (by rfl)
  have isRight := (maxStands.same_iff rightStands).mp (by rfl)
  refine ⟨expression, window, compiled, accepted, finite, segments, first, last, sampled, head,
    tail, isFirst, isLast.mpr (whole (-1) 2 0 ?_ ?_ (by norm_num) (by norm_num) ?_)⟩
  · rw [isLeft, zpow_zero, mul_one]
  · rw [isRight, zpow_zero, mul_one]
  · change ((2 : ℤ) - -1) * (7 : ℕ) < 2 ^ 53
    norm_num

/-- Up to the greatest double, a width that is rounded upwards leads beyond all doubles. -/
example : isFinite ((⟨.real (Float.ofBits 0x7CA8000000000000),
    .real (Float.ofBits 0x7FEFFFFFFFFFFFFF), 1, by decide⟩ : Window Float).abscissa 1) = false := by
  decide +kernel

/-- Three columns of a tenth lead beyond the right bound. -/
theorem not_sampled_at_right_bound :
    ¬∀ (xMin xMax : Float) (columnCount : Value) (expression : Expression Float)
        (window : Window Float) (segments : List (Segment Float)) (last : Point Float),
      Expression.compile "x" (.text "x") = .ok expression →
      make (.real xMin) (.real xMax) columnCount = .ok window →
      (∀ index ≤ window.columns, ∃ y, expression.at? (window.abscissa index) = .ok y ∧
        isFinite y = true) →
      window.sample expression.at? none = .ok segments →
      segments.flatten.getLast? = some last → same last.x xMax = true := by
  intro always
  obtain ⟨expression, compiled, identity⟩ := Expression.exists_identity
  let window : Window Float := ⟨.real 0.0, .real 0.1, 3, by decide⟩
  have accepted : make (.real 0.0) (.real 0.1) (.int 3) = .ok window := by rfl
  have borders : ∀ index ≤ 3, isFinite (window.abscissa index) = true := by decide +kernel
  have finite : ∀ index ≤ window.columns, ∃ y,
      expression.at? (window.abscissa index) = .ok y ∧ isFinite y = true :=
    fun index within => ⟨_, identity _, borders index within⟩
  obtain ⟨value, segments, isValue, sampled, isFlatten⟩ := exists_points compiled window none
  let point (index : ℕ) : Point Float :=
    ⟨window.abscissa index, value (window.abscissa index)⟩
  have isFinite_point (index : ℕ) (within : index ≤ 3) : (point index).isFinite = true :=
    (isFinite_border_point isValue finite within).trans (borders index within)
  obtain ⟨-, lastOf, -⟩ := ends_of_points point 3 (isFinite_point 0 (by decide))
  have last := lastOf (isFinite_point 3 le_rfl)
  rw [← isFlatten] at last
  have reached := always 0.0 0.1 (.int 3) expression window segments (point 3) compiled accepted
    finite sampled last
  have beyond : same (window.abscissa 3) 0.1 = false := by decide +kernel
  exact Bool.noConfusion (beyond.symm.trans reached)

end Window
end Calculator
