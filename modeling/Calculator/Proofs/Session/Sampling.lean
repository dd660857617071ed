import Calculator.Proofs.Arithmetic.Sign
import Calculator.Proofs.Session.Plot

/-!
# Sampling between doubles

A compiled expression has segments over every window whose bounds are finite and in order and
whose width, taken once for every column, is finite. Every other window is refused as such, unless
its defect cannot be told: a column count beyond the doubles cannot be multiplied, and one that is
no positive integer may have too many digits to be shown.
-/

namespace Calculator

open Scalar

/-- Whether a defect is told as one of the window. -/
def WindowDefect.isTold : WindowDefect → Bool
  | .noText => false
  | .arithmetic _ => false
  | _ => true

/-- A count of columns is the successor of a natural number. -/
theorem Value.exists_of_positiveInteger?
    {value : Value}
    {n : Nat}
    (isPositive : value.positiveInteger? = some n) :
    ∃ before, n = before + 1 ∧ value = .int (.ofNat (before + 1)) := by
  cases value with
  | int m =>
      match m with
      | .ofNat (before + 1) =>
          cases isPositive
          exact ⟨before, rfl, rfl⟩
  | _ => cases isPositive

namespace Window

/-! ## Windows between doubles -/

/-- Bounds that are finite and in order. -/
structure Bounded (xMin xMax : Float) : Prop where
  minFinite : isFinite xMin = true
  maxFinite : isFinite xMax = true
  ordered : less xMin xMax = true

/-- Finite bounds in order and a positive count of columns, for which the width of the window,
taken once for every column, stays within the doubles. -/
def Plottable (xMin xMax : Float) (columnCount : Value) : Prop :=
  Bounded xMin xMax ∧
    ∃ columns, columnCount.positiveInteger? = some columns ∧
      isFinite ((xMax - xMin) * ofInt columns) = true

/-- Whether it can be told what is wrong with a window. A positive column count has to be a double
where the bounds are finite and in order, and any other has to have a text. -/
def Tellable (xMin xMax : Float) (columnCount : Value) : Prop :=
  match columnCount.positiveInteger? with
  | some columns => Bounded xMin xMax → isFinite (ofInt columns : Float) = true
  | none => columnCount.isWritable = true

variable {xMin xMax : Float} {columnCount : Value}

theorem Plottable.tellable (plottable : Plottable xMin xMax columnCount) :
    Tellable xMin xMax columnCount := by
  obtain ⟨-, columns, isPositive, finite⟩ := plottable
  rw [Tellable, isPositive]
  exact fun _ => Double.isFinite_of_isFinite_mul finite

/-- A failure is reported as a window that cannot be sampled, with the window as it was asked
for. -/
def IsRefused (xMin xMax : Float) (columnCount : Value) (failure : Failure) : Prop :=
  ∃ message, failure.report = .failure .samplingRange message
    [("x_min", .float xMin), ("x_max", .float xMax), ("column_count", columnCount)]

/-! ## Judging -/

theorem boundsFinite?_real :
    boundsFinite? (.real xMin) (.real xMax) = .ok (isFinite xMin && isFinite xMax) := by
  cases finite : isFinite xMin <;> simp [boundsFinite?, Number.isFinite?, finite]

/-- The width between doubles is multiplied by the double that the count of columns becomes. -/
theorem spanFinite?_real {columns : Nat} {positive : 0 < columns} :
    spanFinite? (⟨.real xMin, .real xMax, columns, positive⟩ : Window Float) =
      (ofInt? columns).map fun count => isFinite ((xMax - xMin) * count) := by
  rw [spanFinite?]
  change ((ofInt? columns).map _ >>= _) = _
  cases (ofInt? columns : Except Fault Float) with
  | error fault => rfl
  | ok count => rfl

/-- A count that is no positive integer is refused before the bounds are looked at. -/
theorem judge_of_none
    {xMin xMax : Number Float}
    (isNone : columnCount.positiveInteger? = none) :
    judge xMin xMax columnCount =
      .error (if columnCount.isWritable then .columnCount else .noText) := by
  rw [judge.eq_def]
  split
  · cases isNone
  · rfl

/-- Bounds are judged before the count of columns becomes a double. -/
theorem judge_of_some
    {columns : Nat}
    (isPositive : columnCount.positiveInteger? = some columns) :
    (judge (.real xMin) (.real xMax) columnCount).map (fun _ => ()) =
      if isFinite xMin && isFinite xMax then
        if atMost xMax xMin then .error .boundsReversed
        else do
          let count ← (ofInt? columns : Except Fault Float).mapError .arithmetic
          if isFinite ((xMax - xMin) * count) then .ok () else .error .tooWide
      else .error .boundsNotFinite := by
  obtain ⟨before, rfl, rfl⟩ := Value.exists_of_positiveInteger? isPositive
  simp only [judge, boundsFinite?_real, spanFinite?_real, Outcome.mapError_ok, Outcome.ok_bind]
  change (if _ then _ else if atMost xMax xMin then _ else _ : Except _ _).map _ = _
  cases isFinite xMin && isFinite xMax with
  | false => rfl
  | true =>
      cases atMost xMax xMin with
      | true => rfl
      | false =>
          cases (ofInt? (before + 1 : Nat) : Except Fault Float) with
          | error fault => rfl
          | ok count =>
              simp only [Except.map, Outcome.mapError_ok, Outcome.ok_bind]
              cases isFinite ((xMax - xMin) * count) with
              | false => rfl
              | true => rfl

theorem bounded_iff :
    Bounded xMin xMax ↔
      (isFinite xMin && isFinite xMax) = true ∧ atMost xMax xMin = false := by
  have defined {x : Float} (finite : isFinite x = true) :
      (Number.real x : Number Float).isNaN = false :=
    Double.isNaN_of_isFinite finite
  have order := @Number.atMost_eq_false_iff (.real xMax) (.real xMin)
  constructor
  · rintro ⟨minFinite, maxFinite, ordered⟩
    exact ⟨Bool.and_eq_true_iff.mpr ⟨minFinite, maxFinite⟩, order.mpr (.inl ordered)⟩
  · rintro ⟨finite, ordered⟩
    obtain ⟨minFinite, maxFinite⟩ := Bool.and_eq_true_iff.mp finite
    rcases order.mp ordered with less | undefined | undefined
    · exact ⟨minFinite, maxFinite, less⟩
    · simp [defined maxFinite] at undefined
    · simp [defined minFinite] at undefined

/-- Bounds that are not finite or not in order are told as such. -/
theorem judge_of_not_bounded
    {columns : Nat}
    (isPositive : columnCount.positiveInteger? = some columns)
    (notBounded : ¬Bounded xMin xMax) :
    ∃ defect, judge (.real xMin) (.real xMax) columnCount = .error defect ∧
      defect.isTold = true := by
  have judged := @judge_of_some xMin xMax columnCount columns isPositive
  rw [bounded_iff, not_and, Bool.not_eq_false] at notBounded
  cases finite : isFinite xMin && isFinite xMax with
  | false =>
      rw [finite, if_neg Bool.false_ne_true] at judged
      exact ⟨_, Outcome.map_eq_error_iff.mp judged, rfl⟩
  | true =>
      rw [finite, if_pos rfl, if_pos (notBounded finite)] at judged
      exact ⟨_, Outcome.map_eq_error_iff.mp judged, rfl⟩

/-- Between finite bounds in order the width is taken once for every column. -/
theorem judge_of_bounded
    {columns : Nat}
    (isPositive : columnCount.positiveInteger? = some columns)
    (bounded : Bounded xMin xMax) :
    (judge (.real xMin) (.real xMax) columnCount).map (fun _ => ()) =
      if isFinite (ofInt columns : Float) then
        if isFinite ((xMax - xMin) * ofInt columns) then .ok () else .error .tooWide
      else .error (.arithmetic .integerTooLarge) := by
  obtain ⟨finite, ordered⟩ := bounded_iff.mp bounded
  rw [judge_of_some isPositive, if_pos finite, ordered, if_neg Bool.false_ne_true, ofInt?]
  cases isFinite (ofInt columns : Float) with
  | false => rfl
  | true => rfl

/-- A window between doubles is made when it can be plotted. Otherwise it has a defect, which is
told when it can be. -/
theorem judge_cases (xMin xMax : Float) (columnCount : Value) :
    (Plottable xMin xMax columnCount ∧
        ∃ window, judge (.real xMin) (.real xMax) columnCount = .ok window) ∨
      (¬Plottable xMin xMax columnCount ∧
        ∃ defect, judge (.real xMin) (.real xMax) columnCount = .error defect ∧
          (defect.isTold = true ↔ Tellable xMin xMax columnCount)) := by
  cases isPositive : columnCount.positiveInteger? with
  | none =>
      refine .inr ⟨?_, _, judge_of_none isPositive, ?_⟩
      · rintro ⟨-, columns, isPositive', -⟩
        rw [isPositive] at isPositive'
        cases isPositive'
      · rw [Tellable, isPositive]
        cases columnCount.isWritable with
        | true => exact iff_of_true rfl rfl
        | false => exact iff_of_false nofun nofun
  | some columns =>
      have plottable_iff : Plottable xMin xMax columnCount ↔
          Bounded xMin xMax ∧ isFinite ((xMax - xMin) * ofInt columns) = true := by
        simp [Plottable, isPositive]
      have tellable_iff : Tellable xMin xMax columnCount ↔
          (Bounded xMin xMax → isFinite (ofInt columns : Float) = true) := by
        rw [Tellable, isPositive]
      rw [plottable_iff, tellable_iff]
      by_cases bounded : Bounded xMin xMax
      · have judged := judge_of_bounded isPositive bounded
        cases fits : isFinite ((xMax - xMin) * ofInt columns) with
        | true =>
            rw [Double.isFinite_of_isFinite_mul fits, if_pos rfl, fits, if_pos rfl] at judged
            obtain ⟨window, made, -⟩ := Outcome.map_eq_ok_iff.mp judged
            exact .inl ⟨⟨bounded, rfl⟩, window, made⟩
        | false =>
            -- The product may overflow with a count that is a double, which is told, or because
            -- the count is none, which is not.
            refine .inr ⟨fun plottable => Bool.false_ne_true plottable.2, ?_⟩
            cases inRange : isFinite (ofInt columns : Float) with
            | true =>
                rw [inRange, if_pos rfl, fits, if_neg Bool.false_ne_true] at judged
                exact ⟨_, Outcome.map_eq_error_iff.mp judged, iff_of_true rfl fun _ => rfl⟩
            | false =>
                rw [inRange, if_neg Bool.false_ne_true] at judged
                exact ⟨_, Outcome.map_eq_error_iff.mp judged,
                  iff_of_false nofun fun tellable => Bool.false_ne_true (tellable bounded)⟩
      · obtain ⟨defect, judged, told⟩ := judge_of_not_bounded isPositive bounded
        exact .inr ⟨fun plottable => bounded plottable.1, defect, judged,
          iff_of_true told fun isBounded => absurd isBounded bounded⟩

/-- Just the told defects are reported as a refusal of the window. -/
theorem isRefused_iff {defect : WindowDefect} :
    IsRefused xMin xMax columnCount
        (.window ⟨defect, .real xMin, .real xMax, columnCount⟩) ↔
      defect.isTold = true := by
  cases defect with
  | columnCount | boundsNotFinite | boundsReversed | tooWide => exact iff_of_true ⟨_, rfl⟩ rfl
  | noText => exact iff_of_false (fun ⟨_, refused⟩ => nomatch refused) nofun
  | arithmetic fault =>
      refine iff_of_false ?_ nofun
      rintro ⟨_, refused⟩
      cases fault <;> cases refused

end Window

/-! ## Sampling -/

namespace Action

variable {source : String} {declared : Value} {expression : Expression Float}

/-- A compiled expression is sampled over a window that can be plotted, and fails over any other. -/
theorem runIn_sample_cases
    (compiled : Expression.compile source declared = .ok expression)
    (xMin xMax : Float)
    (columnCount : Value)
    (limit : Option (Number Float))
    (workspace : Workspace) :
    let outcome :=
      ((sample expression (.real xMin) (.real xMax) columnCount limit).runIn workspace).1
    (Window.Plottable xMin xMax columnCount ∧ ∃ segments, outcome = .ok segments) ∨
      (¬Window.Plottable xMin xMax columnCount ∧ ∃ failure, outcome = .error failure ∧
        (Window.IsRefused xMin xMax columnCount failure ↔
          Window.Tellable xMin xMax columnCount)) := by
  rcases Window.judge_cases xMin xMax columnCount with
    ⟨plottable, window, judged⟩ | ⟨notPlottable, defect, judged, told_iff⟩
  · have made : Window.make (.real xMin) (.real xMax) columnCount = .ok window :=
      Outcome.mapError_eq_ok_iff.mpr judged
    obtain ⟨segments, sampled⟩ := exists_runIn_sample compiled made limit
    exact .inl ⟨plottable, segments, sampled workspace⟩
  · have refused : Window.make (.real xMin) (.real xMax) columnCount =
        .error ⟨defect, .real xMin, .real xMax, columnCount⟩ :=
      Outcome.mapError_eq_error_iff.mpr ⟨defect, judged, rfl⟩
    exact .inr ⟨notPlottable, _, runIn_sample_of_refused refused limit workspace,
      Window.isRefused_iff.trans told_iff⟩

/-- Between doubles a compiled expression has segments exactly over the windows that can be
plotted. Every other window is refused with a diagnostic of its own exactly when it can be told
what is wrong with it, and fails in another way when it cannot. -/
theorem sampled_or_refused
    (compiled : Expression.compile source declared = .ok expression)
    (xMin xMax : Float)
    (columnCount : Value)
    (limit : Option (Number Float))
    (workspace : Workspace) :
    let outcome :=
      ((sample expression (.real xMin) (.real xMax) columnCount limit).runIn workspace).1
    ((∃ segments, outcome = .ok segments) ↔ Window.Plottable xMin xMax columnCount) ∧
      ((∃ failure, outcome = .error failure ∧
          Window.IsRefused xMin xMax columnCount failure) ↔
        ¬Window.Plottable xMin xMax columnCount ∧ Window.Tellable xMin xMax columnCount) := by
  intro outcome
  rcases runIn_sample_cases compiled xMin xMax columnCount limit workspace with
    ⟨plottable, segments, sampled⟩ | ⟨notPlottable, failure, failed, refused_iff⟩
  · have isOk : outcome = .ok segments := sampled
    simp [isOk, plottable]
  · have isError : outcome = .error failure := failed
    simp [isError, notPlottable, refused_iff]

theorem exists_compile_x : ∃ expression, Expression.compile "x" (.text "x") =
    (.ok expression : Except CompileError (Expression Float)) :=
  Expression.exists_identity.imp fun _ identity => identity.1

/-- From zero to one there are segments of two columns, and none of no columns. -/
theorem sampled_or_refused_of_unit :
    ∃ expression : Expression Float, Expression.compile "x" (.text "x") = .ok expression ∧
      (∃ segments,
        ((sample expression (.real 0.0) (.real 1.0) (.int 2) none).runIn (.empty 256)).1 =
          .ok segments) ∧
      ∃ failure,
        ((sample expression (.real 0.0) (.real 1.0) (.int 0) none).runIn (.empty 256)).1 =
            .error failure ∧
          Window.IsRefused 0.0 1.0 (.int 0) failure := by
  obtain ⟨expression, compiled⟩ := exists_compile_x
  have plottable : Window.Plottable 0.0 1.0 (.int 2) :=
    ⟨⟨by decide, by decide, by decide⟩, 2, rfl, by decide +kernel⟩
  have notPlottable : ¬Window.Plottable 0.0 1.0 (.int 0) := by
    rintro ⟨-, columns, isPositive, -⟩
    cases isPositive
  have tellable : Window.Tellable 0.0 1.0 (.int 0) := by
    change decide (0 < powerOfTen digitLimit) = true
    exact decide_eq_true (powerOfTen_pos digitLimit)
  exact ⟨expression, compiled,
    (sampled_or_refused compiled 0.0 1.0 (.int 2) none (.empty 256)).1.mpr plottable,
    (sampled_or_refused compiled 0.0 1.0 (.int 0) none (.empty 256)).2.mpr
      ⟨notPlottable, tellable⟩⟩

/-- A column count beyond the doubles is neither plotted nor refused. -/
theorem not_refused_of_boundless_count :
    let columnCount : Value := .int (powerOfTen 400)
    ∃ expression : Expression Float, Expression.compile "x" (.text "x") = .ok expression ∧
      ¬Window.Plottable 0.0 1.0 columnCount ∧
        ¬∃ failure,
          ((sample expression (.real 0.0) (.real 1.0) columnCount none).runIn (.empty 256)).1 =
              .error failure ∧
            Window.IsRefused 0.0 1.0 columnCount failure := by
  intro columnCount
  obtain ⟨expression, compiled⟩ := exists_compile_x
  have isPositive : columnCount.positiveInteger? = some (powerOfTen 400) := by decide +kernel
  have notTellable : ¬Window.Tellable 0.0 1.0 columnCount := by
    rw [Window.Tellable, isPositive]
    intro inRange
    have boundless : isFinite (ofInt (powerOfTen 400) : Float) = false := by decide +kernel
    rw [inRange ⟨by decide, by decide, by decide⟩] at boundless
    cases boundless
  have notPlottable : ¬Window.Plottable 0.0 1.0 columnCount :=
    mt Window.Plottable.tellable notTellable
  clear_value columnCount
  refine ⟨expression, compiled, notPlottable, ?_⟩
  rintro ⟨failure, failed, refused⟩
  rcases runIn_sample_cases compiled 0.0 1.0 columnCount none (.empty 256) with
    ⟨plottable, -⟩ | ⟨-, other, failed', refused_iff⟩
  · exact notPlottable plottable
  · rw [failed] at failed'
    cases failed'
    exact notTellable (refused_iff.mp refused)

end Action
end Calculator
