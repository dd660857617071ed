import Calculator.Arithmetic.Double
import Calculator.Proofs.Evaluation.Totality
import Calculator.Proofs.Plot.Sweep

/-!
# The segments of a plot

A compiled expression is sampled over every window that is accepted. Its segments
hold the finite points in order, and are parted just where a point is missing or
a step is a jump.
-/

namespace Calculator
namespace Window

/-- A window that is accepted has passed every check, and has the bounds and the column count it
was made of. -/
theorem checks_of_make
    {α : Type}
    [Scalar α]
    {xMin xMax : Number α}
    {columnCount : Value}
    {window : Window α}
    (accepted : make xMin xMax columnCount = .ok window) :
    (window.xMin = xMin ∧ window.xMax = xMax ∧ columnCount = .int window.columns) ∧
      boundsFinite? xMin xMax = .ok true ∧ Number.atMost xMax xMin = false ∧
        window.spanFinite? = .ok true := by
  rw [make, Outcome.mapError_eq_ok_iff, judge.eq_def] at accepted
  split at accepted
  · obtain ⟨finite, boundsFinite, accepted⟩ := Outcome.bind_eq_ok_iff.mp accepted
    dsimp only at accepted
    split at accepted
    · cases accepted
    rename_i finite_eq
    split at accepted
    · cases accepted
    rename_i ordered
    obtain ⟨spanFinite, isSpanFinite, accepted⟩ := Outcome.bind_eq_ok_iff.mp accepted
    split at accepted
    · cases accepted
    rename_i spanFinite_eq
    cases accepted
    rw [Bool.not_eq_true', Bool.not_eq_false] at finite_eq spanFinite_eq
    rw [Outcome.mapError_eq_ok_iff] at boundsFinite isSpanFinite
    exact ⟨⟨rfl, rfl, rfl⟩, finite_eq ▸ boundsFinite, Bool.eq_false_iff.mpr ordered,
      spanFinite_eq ▸ isSpanFinite⟩
  · cases accepted

theorem parts_of_make
    {α : Type}
    [Scalar α]
    {xMin xMax : Number α}
    {columnCount : Value}
    {window : Window α}
    (accepted : make xMin xMax columnCount = .ok window) :
    window.xMin = xMin ∧ window.xMax = xMax ∧ columnCount = .int window.columns :=
  (checks_of_make accepted).1

/-- A compiled expression has a point over every column border, and its segments
hold the finite ones: the runs of indices that are linked. -/
theorem sample_segments
    {α : Type}
    [Elementary α]
    {source : String}
    {declared : Value}
    {expression : Expression α}
    (compiled : Expression.compile source declared = .ok expression)
    {xMin xMax : Number α}
    {columnCount : Value}
    {window : Window α}
    (accepted : make xMin xMax columnCount = .ok window)
    (limit : Option (Number α)) :
    columnCount = .int window.columns ∧
      ∃ (point : Nat → Point α) (runs : List (List Nat)),
        (∀ index,
          (point index).x =
              xMin.toScalar + (xMax.difference xMin).portion index window.columns ∧
            expression.at? (point index).x = .ok (point index).y) ∧
        window.sample expression.at? limit = .ok (runs.map (List.map point)) ∧
        IsSegmentation (fun index => (point index).isFinite)
          (fun index next => Point.jumps limit (point index) (point next))
          (window.columns + 1) runs ∧
        ∀ run ∈ runs, ∀ index ∈ run, (point index).isFinite = true := by
  obtain ⟨value, isValue⟩ := Expression.exists_function compiled
  obtain ⟨rfl, rfl, columns⟩ := parts_of_make accepted
  let point (index : Nat) : Point α :=
    ⟨window.abscissa index, value (window.abscissa index)⟩
  let keeps (index : Nat) : Bool := (point index).isFinite
  let jumps (index next : Nat) : Bool := Point.jumps limit (point index) (point next)
  let sweep : Sweep Nat := .across keeps jumps (List.range (window.columns + 1))
  have segmented : IsSegmentation keeps jumps (window.columns + 1) sweep.segments :=
    Sweep.isSegmentation_across (window.columns + 1)
  have sampled : window.sample expression.at? limit =
      .ok (sweep.segments.map (List.map point)) := by
    have found : window.points expression.at? =
        .ok ((List.range (window.columns + 1)).map point) := by
      refine Outcome.mapM_eq_ok fun index => ?_
      dsimp only
      rw [isValue]
      rfl
    rw [sample, found]
    refine congrArg Except.ok ?_
    rw [segments, Sweep.across_map, Sweep.segments_map]
  refine ⟨columns, point, sweep.segments, ?_, sampled, segmented, ?_⟩
  · exact fun index => ⟨rfl, isValue (window.abscissa index)⟩
  · exact fun run present index inRun => segmented.kept present inRun

/-- A quotient is sampled on both sides of zero. -/
theorem sample_segments_of_quotient :
    ∃ (expression : Expression Float) (window : Window Float),
      Expression.compile "x/x" (.text "x") = .ok expression ∧
        make (.real (-1.0)) (.real 1.0) (.int 2) = .ok window ∧
        ∃ (point : Nat → Point Float) (runs : List (List Nat)),
          window.sample expression.at? none = .ok (runs.map (List.map point)) ∧
            IsSegmentation (fun index => (point index).isFinite)
              (fun index next => Point.jumps none (point index) (point next)) 3 runs := by
  let root : Tree Float := .binary "/" (.symbol "x") (.symbol "x")
  have compiled : Expression.compile "x/x" (.text "x") =
      .ok ⟨"x/x", root, "x", root.variableNames⟩ :=
    Expression.compile_eq_ok_iff.mpr
      ⟨[⟨.identifier, "x", 0⟩, ⟨.operator, "/", 1⟩, ⟨.identifier, "x", 2⟩, .finish 3], "x", root,
        by rfl, by rfl, by rfl, rfl⟩
  have accepted : make (.real (-1.0)) (.real 1.0) (.int 2) =
      .ok (⟨.real (-1.0), .real 1.0, 2, by decide⟩ : Window Float) := by
    rfl
  obtain ⟨-, point, runs, -, sampled, segmented, -⟩ := sample_segments compiled accepted none
  exact ⟨_, _, compiled, accepted, point, runs, sampled, segmented⟩

end Window
end Calculator
