import Calculator.Value.Text

/-!
# Plot windows

The part of the horizontal axis that a plot shows, cut into one step for every
column. A window is only made when all its points can be computed.
-/

namespace Calculator

/-- What is wrong with a window. -/
inductive WindowDefect
  | columnCount
  /-- The column count is none, and it has no text. -/
  | noText
  | boundsNotFinite
  | boundsReversed
  | tooWide
  | arithmetic (fault : Fault)
  deriving DecidableEq, Repr

/-- Why a window is refused. -/
structure WindowError (α : Type) where
  defect : WindowDefect
  xMin : Number α
  xMax : Number α
  columnCount : Value

/-- A window with a positive number of columns. -/
structure Window (α : Type) where
  xMin : Number α
  xMax : Number α
  columns : Nat
  columns_pos : 0 < columns

namespace Window

open Scalar

variable {α : Type} [Scalar α]

/-- The width of a window. -/
def width (window : Window α) : Number α :=
  window.xMax.difference window.xMin

/-- Whether both bounds are finite. -/
def boundsFinite? (xMin xMax : Number α) : Except Fault Bool := do
  if ← xMin.isFinite? then xMax.isFinite? else return false

/-- Whether the width, taken once for every column, is finite. -/
def spanFinite? (window : Window α) : Except Fault Bool := do
  (← window.width.times? window.columns).isFinite?

/-- The window of a given number of columns between two bounds, or what is
wrong with it. -/
def judge (xMin xMax : Number α) (columnCount : Value) : Except WindowDefect (Window α) :=
  match columnCount with
  | .int (.ofNat (columns + 1)) => do
      let window : Window α := ⟨xMin, xMax, columns + 1, columns.succ_pos⟩
      if !(← (boundsFinite? xMin xMax).mapError .arithmetic) then throw .boundsNotFinite
      if Number.atMost xMax xMin then throw .boundsReversed
      if !(← window.spanFinite?.mapError .arithmetic) then throw .tooWide
      return window
  | _ => .error (if columnCount.isWritable then .columnCount else .noText)

/-- The window of a given number of columns between two bounds. -/
def make (xMin xMax : Number α) (columnCount : Value) : Except (WindowError α) (Window α) :=
  (judge xMin xMax columnCount).mapError fun defect => ⟨defect, xMin, xMax, columnCount⟩

/-- The horizontal position of a column border, counted from the left. -/
def abscissa (window : Window α) (index : Nat) : α :=
  window.xMin.toScalar + window.width.portion index window.columns

end Window

end Calculator
