import Calculator.Analysis.Simpson
import Calculator.Outcome
import Calculator.Proofs.Arithmetic.Exact
import Mathlib.Algebra.Polynomial.Eval.Degree
import Mathlib.Analysis.SpecialFunctions.Integrals.Basic
import Mathlib.Topology.Algebra.Polynomial
import Mathlib.Tactic.NormNum.OfScientific

/-!
# Simpson's rule panel by panel

The weighted sum over the nodes of a mesh is a sum over panels, which are pairs of neighbouring
parts. In exact arithmetic the three values on a panel give the integral of a cubic over it, and
so the whole sum gives the integral over the interval.
-/

namespace Calculator
namespace Mesh

open Scalar Polynomial

section Integrate

variable {α ε : Type} [Scalar α]

/-- The integral of a function over an interval that is cut into at least the given number of
parts. -/
def integrate
    (wrap : MeshError α → ε)
    (f : α → Except ε α)
    (lower upper : α)
    (parts : Int) :
    Except ε α := do
  let mesh ← (cut lower upper parts).mapError wrap
  mesh.integral f

/-- An odd number of parts is as good as the even one behind it. -/
theorem integrate_succ_of_odd
    (wrap : MeshError α → ε)
    (f : α → Except ε α)
    (lower upper : α)
    {parts : Int}
    (enough : 2 ≤ parts)
    (odd : parts % 2 = 1) :
    integrate wrap f lower upper (parts + 1) = integrate wrap f lower upper parts := by
  have same : evenAbove (parts + 1).toNat = evenAbove parts.toNat := by
    simp only [evenAbove]
    omega
  have few : ¬parts < 2 := by omega
  have fewer : ¬parts + 1 < 2 := by omega
  simp only [integrate, cut, few, fewer, dif_neg, not_false_iff, same]

/-- The values of a total function are added from left to right. -/
theorem integral_ok (mesh : Mesh α) (f : α → α) :
    mesh.integral (fun x => .ok (f x) : α → Except ε α) =
      .ok (mesh.width / 3.0 *
        mesh.innerIndices.foldl (fun sum index => sum + weight index * f (mesh.node index))
          (f mesh.lower + f mesh.upper)) := by
  have summed (start : α) :
      mesh.innerIndices.foldlM
          (fun sum index => (.ok (sum + weight index * f (mesh.node index)) : Except ε α)) start =
        .ok (mesh.innerIndices.foldl
          (fun sum index => sum + weight index * f (mesh.node index)) start) :=
    List.foldlM_pure
  simp only [integral, Outcome.ok_bind, Outcome.pure_eq_ok, summed]

end Integrate

/-! ## Panels -/

section Panels

variable {K : Type} [Field K]

/-- The width of one of the equal parts of an interval. -/
def partWidth (lower upper : K) (parts : ℕ) : K :=
  (upper - lower) / parts

/-- The points that divide an interval into equal parts, counted from the lower end. -/
def border (lower upper : K) (parts index : ℕ) : K :=
  lower + index * partWidth lower upper parts

/-- The three-point value of a function over a panel: the middle weighs four times as much as
either end. -/
def threePoint (f : K → K) (left right : K) : K :=
  (right - left) / 6 * (f left + 4 * f ((left + right) / 2) + f right)

/-- The three-point values over equal panels next to each other. -/
def panelSum (f : K → K) (lower upper : K) (panels : ℕ) : K :=
  ∑ panel ∈ Finset.range panels,
    threePoint f (border lower upper panels panel) (border lower upper panels (panel + 1))

/-- Terms that are added from left to right come to their sum. -/
theorem foldl_add_range (term : ℕ → K) (start : K) (count : ℕ) :
    (List.range count).foldl (fun sum index => sum + term index) start =
      start + ∑ index ∈ Finset.range count, term index := by
  induction count with
  | zero => simp
  | succ count countHypothesis =>
      rw [List.range_succ, List.foldl_append, countHypothesis, Finset.sum_range_succ,
        ← add_assoc]
      rfl

/-- The weights at the nodes come from the panels: an inner border belongs to two panels and
every middle to one. -/
theorem sum_nodes_eq_sum_panels
    (value weight : ℕ → K)
    (middle : ∀ panel, weight (2 * panel + 1) = 4)
    (between : ∀ panel, weight (2 * panel + 2) = 2)
    (panels : ℕ) :
    value 0 + value (2 * panels + 2) +
        ∑ index ∈ Finset.range (2 * panels + 1), weight (index + 1) * value (index + 1) =
      ∑ panel ∈ Finset.range (panels + 1),
        (value (2 * panel) + 4 * value (2 * panel + 1) + value (2 * panel + 2)) := by
  induction panels with
  | zero =>
      have first := middle 0
      simp only [Nat.mul_zero, Nat.zero_add] at first
      simp [first]
      ring
  | succ panels panelsHypothesis =>
      -- Another panel turns the upper end into an inner border, with a middle behind it.
      have next : weight (2 * panels + 3) = 4 := middle (panels + 1)
      have extended :
          ∑ index ∈ Finset.range (2 * panels + 3), weight (index + 1) * value (index + 1) =
            ∑ index ∈ Finset.range (2 * panels + 1), weight (index + 1) * value (index + 1) +
              2 * value (2 * panels + 2) + 4 * value (2 * panels + 3) := by
        rw [Finset.sum_range_succ, Finset.sum_range_succ, between panels, next]
      calc
        value 0 + value (2 * panels + 4) +
            ∑ index ∈ Finset.range (2 * panels + 3), weight (index + 1) * value (index + 1) =
          value 0 + value (2 * panels + 2) +
              ∑ index ∈ Finset.range (2 * panels + 1), weight (index + 1) * value (index + 1) +
            (value (2 * panels + 2) + 4 * value (2 * panels + 3) + value (2 * panels + 4)) := by
          rw [extended]
          ring
        _ = ∑ panel ∈ Finset.range (panels + 1 + 1),
              (value (2 * panel) + 4 * value (2 * panel + 1) + value (2 * panel + 2)) := by
          rw [panelsHypothesis, Finset.sum_range_succ _ (panels + 1)]
          rfl

section Borders

variable [CharZero K] (f : K → K) (lower upper : K)

theorem border_zero (parts : ℕ) : border lower upper parts 0 = lower := by
  simp [border]

theorem border_last {parts : ℕ} (some : parts ≠ 0) : border lower upper parts parts = upper := by
  rw [border, partWidth]
  field_simp
  ring

/-- Half of the parts of a mesh have the borders between panels at their ends. -/
theorem border_even (panels panel : ℕ) :
    border lower upper (2 * panels) (2 * panel) = border lower upper panels panel := by
  simp only [border, partWidth, Nat.cast_mul, Nat.cast_ofNat]
  field_simp

/-- The nodes between them are in the middle of the panels. -/
theorem border_odd (panels panel : ℕ) :
    border lower upper (2 * panels) (2 * panel + 1) =
      (border lower upper panels panel + border lower upper panels (panel + 1)) / 2 := by
  simp only [border, partWidth, Nat.cast_mul, Nat.cast_add, Nat.cast_ofNat, Nat.cast_one]
  field_simp
  ring

theorem threePoint_border (panels panel : ℕ) :
    threePoint f (border lower upper panels panel) (border lower upper panels (panel + 1)) =
      partWidth lower upper (2 * panels) / 3 *
        (f (border lower upper (2 * panels) (2 * panel)) +
          4 * f (border lower upper (2 * panels) (2 * panel + 1)) +
          f (border lower upper (2 * panels) (2 * panel + 2))) := by
  have width :
      (border lower upper panels (panel + 1) - border lower upper panels panel) / 6 =
        partWidth lower upper (2 * panels) / 3 := by
    simp only [border, partWidth, Nat.cast_mul, Nat.cast_add, Nat.cast_ofNat, Nat.cast_one]
    field_simp
    ring
  have right : border lower upper (2 * panels) (2 * panel + 2) =
      border lower upper panels (panel + 1) :=
    border_even lower upper panels (panel + 1)
  rw [threePoint, width, border_even, border_odd, right]

/-- The weighted sum over the nodes is the sum over the panels. -/
theorem sum_nodes_eq_panelSum
    {weight : ℕ → K}
    (middle : ∀ panel, weight (2 * panel + 1) = 4)
    (between : ∀ panel, weight (2 * panel + 2) = 2)
    {panels : ℕ}
    (some : panels ≠ 0) :
    partWidth lower upper (2 * panels) / 3 *
        (f lower + f upper +
          ∑ index ∈ Finset.range (2 * panels - 1),
            weight (index + 1) * f (border lower upper (2 * panels) (index + 1))) =
      panelSum f lower upper panels := by
  obtain ⟨before, rfl⟩ := Nat.exists_eq_succ_of_ne_zero some
  have first := border_zero lower upper (2 * before + 2)
  have last := border_last lower upper (show 2 * before + 2 ≠ 0 by omega)
  have regrouped := sum_nodes_eq_sum_panels
    (fun index => f (border lower upper (2 * before + 2) index)) weight middle between before
  simp only [first, last] at regrouped
  change partWidth lower upper (2 * before + 2) / 3 *
    (f lower + f upper +
      ∑ index ∈ Finset.range (2 * before + 1),
        weight (index + 1) * f (border lower upper (2 * before + 2) (index + 1))) = _
  rw [regrouped, Finset.mul_sum]
  exact Finset.sum_congr rfl fun panel _ =>
    (threePoint_border f lower upper (before + 1) panel).symm

end Borders

/-- A map of fields takes the sum over the panels for a polynomial to the one for its image. -/
theorem map_panelSum
    {L : Type}
    [Field L]
    (embedding : K →+* L)
    (p : K[X])
    (lower upper : K)
    (panels : ℕ) :
    embedding (panelSum (fun x => p.eval x) lower upper panels) =
      panelSum (fun x => (p.map embedding).eval x) (embedding lower) (embedding upper) panels := by
  have mapped (x : K) : embedding (p.eval x) = (p.map embedding).eval (embedding x) :=
    (Polynomial.eval_map_apply embedding x).symm
  simp only [panelSum, threePoint, border, partWidth, map_sum, map_mul, map_add, map_sub, map_div₀, mapped,
    map_natCast, map_ofNat]

end Panels

/-! ## Integrals of cubics -/

/-- The three-point value is exact for a polynomial of degree at most three. -/
theorem integral_eq_threePoint
    {p : ℝ[X]}
    (cubic : p.natDegree ≤ 3)
    (left right : ℝ) :
    ∫ x in left..right, p.eval x = threePoint (fun x => p.eval x) left right := by
  have expanded (x : ℝ) : p.eval x = ∑ degree ∈ Finset.range 4, p.coeff degree * x ^ degree :=
    Polynomial.eval_eq_sum_range' (Nat.lt_succ_of_le cubic) x
  have integrable (degree : ℕ) :
      IntervalIntegrable (fun x => p.coeff degree * x ^ degree) MeasureTheory.volume left right :=
    (continuous_const.mul (continuous_id.pow degree)).intervalIntegrable left right
  simp only [expanded]
  rw [intervalIntegral.integral_finsetSum fun degree _ => integrable degree]
  simp only [intervalIntegral.integral_const_mul, integral_pow, threePoint,
    Finset.sum_range_succ, Finset.sum_range_zero]
  norm_num
  ring

/-- So is the sum over the panels. -/
theorem integral_eq_panelSum
    {p : ℝ[X]}
    (cubic : p.natDegree ≤ 3)
    (lower upper : ℝ)
    {panels : ℕ}
    (some : panels ≠ 0) :
    ∫ x in lower..upper, p.eval x = panelSum (fun x => p.eval x) lower upper panels := by
  have adjacent := intervalIntegral.sum_integral_adjacent_intervals
    (f := fun x => p.eval x) (μ := MeasureTheory.volume)
    (a := border lower upper panels) (n := panels)
    fun panel _ => p.continuous.intervalIntegrable _ _
  rw [border_zero, border_last lower upper some] at adjacent
  rw [← adjacent]
  exact Finset.sum_congr rfl fun panel _ => integral_eq_threePoint cubic _ _

/-! ## Exact arithmetic -/

open Exact

variable {K ε : Type} [Field K] [LinearOrder K]

theorem width_eq (mesh : Mesh K) :
    mesh.width = partWidth mesh.lower mesh.upper mesh.parts := by
  rw [width, ofInt_natCast]
  rfl

theorem node_eq (mesh : Mesh K) (index : ℕ) :
    mesh.node index = border mesh.lower mesh.upper mesh.parts index := by
  rw [node, ofInt_natCast, width_eq]
  rfl

/-- An interval whose bounds are in order is cut. -/
theorem exists_cut
    {lower upper : K}
    (ordered : lower < upper)
    {parts : Int}
    (enough : 2 ≤ parts) :
    ∃ mesh, cut lower upper parts = .ok mesh ∧
      mesh.lower = lower ∧ mesh.upper = upper ∧ mesh.parts = evenAbove parts.toNat := by
  have apart : ¬Scalar.atMost upper lower = true := by simpa using ordered
  have few : ¬parts < 2 := by omega
  simp [cut, apart, few]

variable [IsStrictOrderedRing K]

theorem weight_middle (panel : ℕ) : (weight (2 * panel + 1) : K) = 4 := by
  have odd : (2 * panel + 1) % 2 = 1 := by omega
  rw [weight, if_pos odd, ofScientific_eq]
  norm_num

theorem weight_between (panel : ℕ) : (weight (2 * panel + 2) : K) = 2 := by
  have even : ¬(2 * panel + 2) % 2 = 1 := by omega
  rw [weight, if_neg even, ofScientific_eq]
  norm_num

/-- The integral over a mesh is the sum over its panels. -/
theorem integral_mesh_eq_panelSum (mesh : Mesh K) (f : K → K) :
    mesh.integral (fun x => .ok (f x) : K → Except ε K) =
      .ok (panelSum f mesh.lower mesh.upper (mesh.parts / 2)) := by
  have some : mesh.parts / 2 ≠ 0 := by
    have enough := mesh.two_le_parts
    omega
  have halves : 2 * (mesh.parts / 2) = mesh.parts := by
    have even := mesh.parts_even
    omega
  have three : (NNRatCast.toOfScientific.ofScientific 30 true 1 : K) = 3 := by norm_num
  have sum := sum_nodes_eq_panelSum f mesh.lower mesh.upper weight_middle weight_between some
  rw [integral_ok, innerIndices, List.foldl_map, foldl_add_range, ← sum, halves, width_eq,
    ofScientific_eq, three]
  simp only [node_eq]

theorem integrate_eq_panelSum
    (wrap : MeshError K → ε)
    (f : K → K)
    {lower upper : K}
    (ordered : lower < upper)
    {parts : Int}
    (enough : 2 ≤ parts) :
    integrate wrap (fun x => .ok (f x)) lower upper parts =
      .ok (panelSum f lower upper (evenAbove parts.toNat / 2)) := by
  obtain ⟨mesh, isCut, rfl, rfl, same⟩ := exists_cut ordered enough
  rw [integrate, isCut, Outcome.mapError_ok, Outcome.ok_bind, integral_mesh_eq_panelSum, same]

/-- In exact arithmetic and from two parts on, an odd number of parts gives the same integral as
the even one behind it. Over an interval whose bounds are in order, the integral of a polynomial
of degree at most three is exact, and with an even number of parts the integral of a function is
the sum of its three-point values over the panels. -/
theorem integrate_exact_and_by_panels
    (wrap : MeshError K → ε)
    (embedding : K →+* ℝ)
    (lower upper : K)
    {parts : Int}
    (enough : 2 ≤ parts) :
    (∀ f : K → Except ε K, parts % 2 = 1 →
      integrate wrap f lower upper parts = integrate wrap f lower upper (parts + 1)) ∧
      (lower < upper →
        (∀ p : K[X], p.natDegree ≤ 3 →
          ∃ area, integrate wrap (fun x => .ok (p.eval x)) lower upper parts = .ok area ∧
            embedding area =
              ∫ x in embedding lower..embedding upper, (p.map embedding).eval x) ∧
        ∀ f : K → K, parts % 2 = 0 →
          integrate wrap (fun x => .ok (f x)) lower upper parts =
            .ok (panelSum f lower upper (parts / 2).toNat)) := by
  refine ⟨?_, fun ordered => ⟨?_, ?_⟩⟩
  · intro f odd
    exact (integrate_succ_of_odd wrap f lower upper enough odd).symm
  · intro p cubic
    have some : evenAbove parts.toNat / 2 ≠ 0 := by
      rw [evenAbove]
      omega
    have mapped : (p.map embedding).natDegree ≤ 3 :=
      Polynomial.natDegree_map_le.trans cubic
    refine ⟨_, integrate_eq_panelSum wrap (fun x => p.eval x) ordered enough, ?_⟩
    rw [map_panelSum, integral_eq_panelSum mapped _ _ some]
  · intro f even
    have halves : evenAbove parts.toNat / 2 = (parts / 2).toNat := by
      rw [evenAbove]
      omega
    rw [integrate_eq_panelSum wrap f ordered enough, halves]

/-- The integral of the cube from zero to two is four, with three parts as with four. -/
theorem integrate_exact_and_by_panels_of_cube :
    let wrap : MeshError ℚ → MeshError ℚ := id
    let cube : ℚ → ℚ := fun x => (X ^ 3 : ℚ[X]).eval x
    (2 : Int) ≤ 3 ∧ (2 : Int) ≤ 4 ∧ (0 : ℚ) < 2 ∧
      integrate wrap (fun x => .ok (cube x)) 0 2 3 = .ok 4 ∧
      integrate wrap (fun x => .ok (cube x)) 0 2 3 =
        integrate wrap (fun x => .ok (cube x)) 0 2 4 ∧
      integrate wrap (fun x => .ok (cube x)) 0 2 4 = .ok (panelSum cube 0 2 2) := by
  intro wrap cube
  have few : (2 : Int) ≤ 3 := by decide
  have more : (2 : Int) ≤ 4 := by decide
  have ordered : (0 : ℚ) < 2 := by decide
  obtain ⟨rounds, ofThree⟩ := integrate_exact_and_by_panels wrap (Rat.castHom ℝ) 0 2 few
  obtain ⟨-, ofFour⟩ := integrate_exact_and_by_panels wrap (Rat.castHom ℝ) 0 2 more
  obtain ⟨area, found, exact⟩ := (ofThree ordered).1 (X ^ 3) (Polynomial.natDegree_X_pow 3).le
  have isFour : area = 4 := by
    have real : (area : ℝ) = 4 := by
      rw [Polynomial.map_pow, Polynomial.map_X, map_zero, map_ofNat] at exact
      rw [show (area : ℝ) = _ from exact]
      norm_num
    exact_mod_cast real
  rw [isFour] at found
  exact ⟨few, more, ordered, found, rounds _ (by decide), (ofFour ordered).2 cube (by decide)⟩

end Mesh
end Calculator
