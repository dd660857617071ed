import Calculator.Proofs.Analysis.Simpson
import Calculator.Proofs.Analysis.Total
import Calculator.Proofs.Arithmetic.Conversion

/-!
# Bad values show in the integral

A sum with an undefined term is undefined, and so is a product with an undefined factor. What holds
of one operation holds of the whole sum over the nodes of a mesh, and of its product with a third of
the width of a part, whatever that is. The same goes for values that are not finite, although
infinities of opposite signs may meet on the way.
-/

namespace Calculator

open Scalar

/-! ## Marks that spread -/

/-- A mark on doubles that a sum takes over from either term, and a product from its second
factor. -/
structure Spreads (bad : Float → Prop) : Prop where
  add_left : ∀ {x} (y), bad x → bad (x + y)
  add_right : ∀ (x) {y}, bad y → bad (x + y)
  mul_right : ∀ (x) {y}, bad y → bad (x * y)

theorem spreads_isNaN : Spreads fun x => isNaN x = true where
  add_left _ undefined := Double.isNaN_add_iff.mpr (.inl undefined)
  add_right _ _ undefined := Double.isNaN_add_iff.mpr (.inr (.inl undefined))
  mul_right x y undefined := by
    rw [Double.isNaN_iff] at undefined ⊢
    rw [Double.parts_mul, undefined, Double.mul_notANumber]
    exact Double.stored_eq_notANumber_iff.mpr rfl

theorem spreads_not_isFinite : Spreads fun x => ¬isFinite x = true where
  add_left _ := mt fun finite => (Double.isFinite_of_isFinite_add finite).1
  add_right _ _ := mt fun finite => (Double.isFinite_of_isFinite_add finite).2
  mul_right _ _ := mt Double.isFinite_of_isFinite_mul

/-- A mark on the start or on any term is on the sum from left to right. -/
theorem Spreads.foldl
    {bad : Float → Prop}
    (spreads : Spreads bad)
    {β : Type}
    (term : β → Float)
    {terms : List β}
    {start : Float}
    (present : bad start ∨ ∃ item ∈ terms, bad (term item)) :
    bad (terms.foldl (fun sum item => sum + term item) start) := by
  induction terms generalizing start with
  | nil => exact present.resolve_right (by simp)
  | cons first rest restHypothesis =>
      refine restHypothesis ?_
      rcases present with atStart | ⟨item, isItem, inTerm⟩
      · exact .inl (spreads.add_left _ atStart)
      · rcases List.mem_cons.mp isItem with rfl | later
        · exact .inl (spreads.add_right _ inTerm)
        · exact .inr ⟨item, later, inTerm⟩

/-! ## Nodes -/

/-- A node is one of the two ends or stands between two parts. -/
def Mesh.IsNode (mesh : Mesh Float) (x : Float) : Prop :=
  x = mesh.lower ∨ x = mesh.upper ∨ ∃ index, 0 < index ∧ index < mesh.parts ∧ x = mesh.node index

/-- A mark on the value at any node is on the integral. -/
theorem Spreads.integral
    {ε : Type}
    {bad : Float → Prop}
    (spreads : Spreads bad)
    {mesh : Mesh Float}
    {f : Float → Float}
    {total : Float}
    (isTotal : mesh.integral (fun x => .ok (f x) : Float → Except ε Float) = .ok total)
    {x : Float}
    (isNode : mesh.IsNode x)
    (isBad : bad (f x)) :
    bad total := by
  rw [Mesh.integral_ok] at isTotal
  cases isTotal
  -- The ends are in the start of the sum, and the nodes between in its terms.
  refine spreads.mul_right _ (spreads.foldl _ ?_)
  rcases isNode with rfl | rfl | ⟨index, positive, inner, rfl⟩
  · exact .inl (spreads.add_left _ isBad)
  · exact .inl (spreads.add_right _ isBad)
  · refine .inr ⟨index, ?_, spreads.mul_right _ isBad⟩
    exact List.mem_map.mpr ⟨index - 1, List.mem_range.mpr (by omega), by omega⟩

namespace Mesh

variable {lower upper : Float} {parts : Int}

theorem parts_of_cut {mesh : Mesh Float} (isCut : cut lower upper parts = .ok mesh) :
    mesh.lower = lower ∧ mesh.upper = upper ∧ mesh.parts = evenAbove parts.toNat := by
  rw [cut] at isCut
  split at isCut
  · cases isCut
  split at isCut
  · cases isCut
  split at isCut
  · cases isCut
  dsimp only at isCut
  split at isCut
  · cases isCut
  cases isCut
  exact ⟨rfl, rfl, rfl⟩

/-- Counts up to two to the fifty-third are doubles. -/
theorem isFinite_evenAbove (few : parts ≤ 2 ^ 53) :
    isFinite (ofInt (evenAbove parts.toNat) : Float) = true := by
  have finite : isFinite (ofInt (2 ^ 53) : Float) = true := by decide +kernel
  have within : evenAbove parts.toNat ≤ 2 ^ 53 := by
    rw [evenAbove]
    omega
  refine (Double.isRounded_ofInt _).isFinite_of_le (Double.isRounded_ofInt _) ?_ ?_ finite
  · positivity
  · exact_mod_cast within

/-- The integral of a function between finite bounds in order shows its bad values, with two parts
or more and up to two to the fifty-third: it is undefined when the function is undefined at any
node of the mesh, and not finite when the function is not finite at any of them. -/
theorem integrate_shows_bad_values
    {ε : Type}
    (wrap : MeshError Float → ε)
    (f : Float → Float)
    (lowerFinite : isFinite lower = true)
    (upperFinite : isFinite upper = true)
    (ordered : less lower upper = true)
    (enough : 2 ≤ parts)
    (few : parts ≤ 2 ^ 53) :
    ∃ (mesh : Mesh Float) (total : Float),
      mesh.lower = lower ∧ mesh.upper = upper ∧ mesh.parts = evenAbove parts.toNat ∧
        integrate wrap (fun x => .ok (f x)) lower upper parts = .ok total ∧
        ∀ x, mesh.IsNode x →
          (isNaN (f x) = true → isNaN total = true) ∧
            (isFinite (f x) = false → isFinite total = false) := by
  obtain ⟨n, rfl⟩ := Int.eq_ofNat_of_zero_le (by omega : 0 ≤ parts)
  obtain ⟨mesh, isCut⟩ :=
    (exists_cut_iff lowerFinite upperFinite ordered (by omega : 2 ≤ n)).mpr
      ⟨_, Number.ofInt?_eq_ok_iff.mpr ⟨isFinite_evenAbove few, rfl⟩⟩
  obtain ⟨isLower, isUpper, isParts⟩ := parts_of_cut isCut
  obtain ⟨total, isTotal⟩ :
      ∃ total, mesh.integral (fun x => .ok (f x) : Float → Except ε Float) = .ok total :=
    ⟨_, integral_ok mesh f⟩
  refine ⟨mesh, total, isLower, isUpper, isParts, ?_, fun x isNode => ⟨?_, ?_⟩⟩
  · rw [integrate, isCut, Outcome.mapError_ok, Outcome.ok_bind, isTotal]
  · exact spreads_isNaN.integral isTotal isNode
  · intro infinite
    rw [← Bool.not_eq_true] at infinite ⊢
    exact spreads_not_isFinite.integral isTotal isNode infinite

/-- The quotient of a number by itself is undefined at zero, in the middle between one and its
negative. -/
theorem integrate_shows_bad_values_of_quotient :
    let wrap : MeshError Float → MeshError Float := id
    isFinite (-1.0 : Float) = true ∧ isFinite (1.0 : Float) = true ∧
      less (-1.0 : Float) 1.0 = true ∧ (2 : Int) ≤ 2 ∧ (2 : Int) ≤ 2 ^ 53 ∧
      ∃ total, integrate wrap (fun x => .ok (x / x)) (-1.0) 1.0 2 = .ok total ∧
        isNaN total = true := by
  intro wrap
  have lowerFinite : isFinite (-1.0 : Float) = true := by rfl
  have upperFinite : isFinite (1.0 : Float) = true := by rfl
  have ordered : less (-1.0 : Float) 1.0 = true := by rfl
  have enough : (2 : Int) ≤ 2 := by decide
  have few : (2 : Int) ≤ 2 ^ 53 := by decide
  obtain ⟨mesh, total, isLower, isUpper, isParts, isTotal, shows⟩ :=
    integrate_shows_bad_values wrap (fun x => x / x) lowerFinite upperFinite ordered enough few
  have inside : 1 < mesh.parts := mesh.two_le_parts
  have undefined : isNaN (mesh.node 1 / mesh.node 1) = true := by
    rw [node, width, isLower, isUpper, isParts]
    decide +kernel
  exact ⟨lowerFinite, upperFinite, ordered, enough, few, total, isTotal,
    (shows _ (.inr (.inr ⟨1, one_pos, inside, rfl⟩))).1 undefined⟩

end Mesh
end Calculator
