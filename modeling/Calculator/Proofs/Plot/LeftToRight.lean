import Calculator.Proofs.Arithmetic.Conversion
import Calculator.Proofs.Plot.Sample

/-!
# Plots run from left to right

The column borders of an accepted window stand where the left bound, moved by a share of the width,
is rounded to. The shares do not decrease from one border to the next, and rounding keeps their
order. The segments hold the points over the borders without those that are not finite, so that
their horizontal positions do not decrease either, neither within a segment nor from one to the
next.
-/

namespace Calculator

open Scalar

/-! ## What a sweep keeps -/

namespace Sweep

variable {β : Type} {keeps : β → Bool} {jumps : β → β → Bool}

/-- One step takes the point that it keeps. -/
theorem taken_take (sweep : Sweep β) (point : β) :
    (sweep.take keeps jumps point).taken = sweep.taken ++ [point].filter keeps := by
  rw [take]
  cases kept : keeps point with
  | false => simp [kept]
  | true => cases sweep.breaks jumps point <;> simp [kept]

/-- The segments hold the points that are kept, in their order. -/
theorem flatten_segments_across (points : List β) :
    (across keeps jumps points).segments.flatten = points.filter keeps := by
  have resumed (sweep : Sweep β) :
      (points.foldl (take keeps jumps) sweep).taken = sweep.taken ++ points.filter keeps := by
    induction points generalizing sweep with
    | nil => simp
    | cons point rest restHypothesis =>
        rw [List.foldl_cons, restHypothesis, taken_take, List.append_assoc, ← List.filter_append,
          List.singleton_append]
  have closed := taken_close (across keeps jumps points)
  rw [taken, current_close, List.reverse_nil, List.append_nil] at closed
  rw [segments, closed, across, resumed]
  rfl

end Sweep

namespace Number

open Binary Double

/-- A finite number stands at a rational number, and so does the double that it becomes. -/
theorem exists_place_of_isFinite? {a : Number Float} (finite : a.isFinite? = .ok true) :
    ∃ q, a.place? = some (.ofRat q) ∧ StandsAt a.toScalar (nearest q) := by
  obtain ⟨x, inRange, isFinite⟩ := exists_toScalar?_of_isFinite? finite
  rw [toScalar_of_toScalar? inRange]
  cases a with
  | int n =>
      rw [← (ofInt?_eq_ok_iff.mp inRange).2] at isFinite ⊢
      exact ⟨n, rfl, (isRounded_ofInt n).standsAt isFinite⟩
  | real y =>
      cases inRange
      obtain ⟨q, standsAt⟩ := isFinite_iff_standsAt.mp isFinite
      exact ⟨q, standsAt, standsAt.isRounded.standsAt isFinite⟩

end Number

namespace Window

open Binary Double

/-! ## Shares of the width -/

/-- A share of an integer is rounded once. -/
theorem standsAt_portion_int
    {m columns index : Nat}
    (positive : 0 < columns)
    (finite : isFinite (ofInt (m * columns) : Float) = true)
    (within : index ≤ columns) :
    StandsAt ((Number.int m).portion index columns) (nearest (m * index / columns)) := by
  have one_le : (1 : ℚ) ≤ columns := by exact_mod_cast positive
  have inside : (index : ℚ) ≤ columns := by exact_mod_cast within
  have isRounded := isRounded_quotient (m * index) columns positive
  have isRounded' := isRounded_ofInt (m * columns)
  push_cast at isRounded isRounded'
  refine isRounded.standsAt (isRounded.isFinite_of_le isRounded' (by positivity) ?_ finite)
  calc (m * index : ℚ) / columns ≤ m * index := div_le_self (by positivity) one_le
    _ ≤ m * columns := by gcongr

/-- A share of a double is rounded as the index is, as the product is and as the quotient is. -/
theorem standsAt_portion_real
    {w : Float}
    {width : ℚ}
    {columns index : Nat}
    (standsAt : StandsAt w width)
    (nonneg : 0 ≤ width)
    (positive : 0 < columns)
    (countFinite : isFinite (ofInt columns : Float) = true)
    (finite : isFinite (w * ofInt columns) = true)
    (within : index ≤ columns) :
    StandsAt ((Number.real w).portion index columns)
      (nearest (nearest (width * nearest index) / nearest columns)) := by
  have inside : (index : ℚ) ≤ columns := by exact_mod_cast within
  have one_le : 1 ≤ nearest columns := one_le_nearest (by exact_mod_cast positive)
  have isCount := isRounded_ofInt columns
  have isIndex := isRounded_ofInt index
  rw [Int.cast_natCast] at isCount isIndex
  -- What is computed at an index is at most what is computed at the last one, which is finite.
  have countAt := isCount.standsAt countFinite
  have indexAt := isIndex.standsAt (isIndex.isFinite_of_le isCount (by positivity) inside countFinite)
  have indexNonneg := nearest_nonneg (Nat.cast_nonneg (α := ℚ) index)
  have product := standsAt.mul indexAt
  have productAt := product.standsAt (product.isFinite_of_le (standsAt.mul countAt)
    (by positivity) (by gcongr; exact nearest_mono inside) finite)
  have productNonneg : 0 ≤ nearest (width * nearest index) := nearest_nonneg (by positivity)
  have quotient := productAt.div countAt (by positivity)
  exact quotient.standsAt (quotient.isFinite_of_le productAt.isRounded (by positivity)
    (div_le_self productNonneg one_le) (isFinite_iff_standsAt.mpr ⟨_, productAt⟩))

/-! ## Column borders -/

variable {xMin xMax : Number Float} {columnCount : Value} {window : Window Float}

/-- The bounds of an accepted window are in order, and so are the doubles that they become. -/
theorem exists_bounds (accepted : make xMin xMax columnCount = .ok window) :
    ∃ left right : ℚ, StandsAt xMin.toScalar left ∧ StandsAt xMax.toScalar right ∧ left ≤ right ∧
      ∀ m n, xMin = .int m → xMax = .int n → m < n := by
  obtain ⟨-, boundsFinite, ordered, -⟩ := checks_of_make accepted
  obtain ⟨minFinite, isMinFinite, boundsFinite⟩ := Outcome.bind_eq_ok_iff.mp boundsFinite
  cases minFinite with
  | false => cases boundsFinite
  | true =>
      obtain ⟨p, minPlace, minStands⟩ := Number.exists_place_of_isFinite? isMinFinite
      obtain ⟨q, maxPlace, maxStands⟩ := Number.exists_place_of_isFinite? boundsFinite
      have less : p < q := by
        by_contra! reversed
        have reached := Number.atMost_iff_place.mpr
          ⟨_, _, maxPlace, minPlace, Line.ofRat_strictMono.monotone reversed⟩
        rw [ordered] at reached
        cases reached
      refine ⟨_, _, minStands, maxStands, nearest_mono less.le, ?_⟩
      rintro m n rfl rfl
      have leftEq := Line.ofRat_strictMono.injective (Option.some.inj minPlace)
      have rightEq := Line.ofRat_strictMono.injective (Option.some.inj maxPlace)
      rw [← leftEq, ← rightEq] at less
      exact_mod_cast less

/-- The width of an accepted window is a natural number between integers, and else the double that
stands where the difference of the bounds is rounded to. -/
theorem width_cases (accepted : make xMin xMax columnCount = .ok window) :
    (∃ m : Nat, window.width = .int m) ∨
      ∃ (w : Float) (width : ℚ), window.width = .real w ∧ IsRounded w width ∧ 0 ≤ width := by
  obtain ⟨left, right, minStands, maxStands, ordered, less⟩ := exists_bounds accepted
  obtain ⟨⟨rfl, rfl, -⟩, -⟩ := checks_of_make accepted
  have isRounded := maxStands.sub minStands
  have nonneg : 0 ≤ right - left := sub_nonneg.mpr ordered
  rw [Window.width]
  cases isMin : window.xMin with
  | int m =>
      cases isMax : window.xMax with
      | int n =>
          have positive := less m n isMin isMax
          refine .inl ⟨(n - m).toNat, ?_⟩
          rw [Int.toNat_of_nonneg (by omega)]
          rfl
      | real y =>
          rw [isMin, isMax] at isRounded
          exact .inr ⟨_, _, rfl, isRounded, nonneg⟩
  | real x =>
      rw [isMin] at isRounded
      exact .inr ⟨_, _, by cases window.xMax <;> rfl, isRounded, nonneg⟩

/-- The check of the span leaves a width that is a double, the number of columns and their product
finite. -/
theorem finite_of_spanFinite?
    {w : Float}
    (isWidth : window.width = .real w)
    (spanFinite : window.spanFinite? = .ok true) :
    isFinite (ofInt window.columns : Float) = true ∧ isFinite w = true ∧
      isFinite (w * ofInt window.columns) = true := by
  rw [spanFinite?, isWidth] at spanFinite
  obtain ⟨product, isProduct, finite⟩ := Outcome.bind_eq_ok_iff.mp spanFinite
  obtain ⟨count, inRange, rfl⟩ := Outcome.map_eq_ok_iff.mp isProduct
  obtain ⟨countFinite, rfl⟩ := Number.ofInt?_eq_ok_iff.mp inRange
  have finite : isFinite (w * ofInt window.columns) = true := Except.ok.inj finite
  have widthFinite := finite
  rw [mul_swap] at widthFinite
  exact ⟨countFinite, isFinite_of_isFinite_mul widthFinite, finite⟩

/-- The shares of the width stand at places that do not decrease, the first one at zero. -/
theorem exists_shares (accepted : make xMin xMax columnCount = .ok window) :
    ∃ share : Nat → ℚ, share 0 = 0 ∧ Monotone share ∧
      ∀ index ≤ window.columns, StandsAt (window.width.portion index window.columns)
        (share index) := by
  obtain ⟨-, -, -, spanFinite⟩ := checks_of_make accepted
  -- A width that is an integer is rounded with its share, and any other one before.
  rcases width_cases accepted with ⟨m, isWidth⟩ | ⟨w, width, isWidth, isRounded, nonneg⟩
  · rw [spanFinite?, isWidth] at spanFinite
    obtain ⟨x, inRange, -⟩ := Outcome.map_eq_ok_iff.mp spanFinite
    obtain ⟨finite, rfl⟩ := Number.ofInt?_eq_ok_iff.mp inRange
    rw [isWidth]
    refine ⟨fun index => nearest (m * index / window.columns), by simp, ?_,
      fun index within => standsAt_portion_int window.columns_pos finite within⟩
    intro first last ordered
    refine nearest_mono ?_
    gcongr
  · obtain ⟨countFinite, widthFinite, finite⟩ := finite_of_spanFinite? isWidth spanFinite
    have standsAt := isRounded.standsAt widthFinite
    have positive : 0 < nearest (window.columns : ℚ) :=
      one_pos.trans_le (one_le_nearest (by exact_mod_cast window.columns_pos))
    have nonneg := nearest_nonneg nonneg
    rw [isWidth]
    refine ⟨fun index => nearest (nearest (nearest width * nearest index) /
        nearest window.columns), by simp, ?_,
      fun index within => standsAt_portion_real standsAt nonneg window.columns_pos countFinite
        finite within⟩
    intro first last ordered
    refine nearest_mono ?_
    gcongr
    refine nearest_mono ?_
    gcongr
    exact nearest_mono (by exact_mod_cast ordered)

/-- The column borders stand where the left bound, moved by the shares, is rounded to. -/
theorem exists_borders (accepted : make xMin xMax columnCount = .ok window) :
    ∃ (left : ℚ) (share : Nat → ℚ), StandsAt xMin.toScalar left ∧ share 0 = 0 ∧ Monotone share ∧
      ∀ index ≤ window.columns, IsRounded (window.abscissa index) (left + share index) := by
  obtain ⟨share, first, increasing, shareStands⟩ := exists_shares accepted
  obtain ⟨left, -, leftStands, -⟩ := exists_bounds accepted
  obtain ⟨⟨rfl, -, -⟩, -⟩ := checks_of_make accepted
  exact ⟨left, share, leftStands, first, increasing,
    fun index within => leftStands.add (shareStands index within)⟩

end Window
end Calculator
