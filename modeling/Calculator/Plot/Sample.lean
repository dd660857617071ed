import Calculator.Plot.Window

/-!
# Sampling a function for a plot

The points of a function over a window, joined into segments. A point that is
not finite leaves a gap, and so does a jump beyond the given limit.
-/

namespace Calculator

/-- A point of a plot. -/
structure Point (α : Type) where
  x : α
  y : α
  deriving Repr

namespace Point

open Scalar

variable {α : Type} [Scalar α]

/-- Whether both coordinates are finite. -/
def isFinite (point : Point α) : Bool :=
  Scalar.isFinite point.x && Scalar.isFinite point.y

/-- Whether the step between two points exceeds the limit, if there is one. -/
def jumps (limit : Option (Number α)) (left right : Point α) : Bool :=
  match limit with
  | none => false
  | some bound => Number.less bound (.real (abs (right.y - left.y)))

end Point

/-- Points joined by a line, from left to right. -/
abbrev Segment (α : Type) := List (Point α)

/-- What has been made of the points so far: the segments that are closed,
latest first, and the points of the open one, latest first. -/
structure Sweep (β : Type) where
  closed : List (List β)
  current : List β

namespace Sweep

variable {β : Type}

/-- Before the first point. -/
def start : Sweep β := ⟨[], []⟩

/-- Close the open segment, unless it is empty. -/
def close (sweep : Sweep β) : Sweep β :=
  if sweep.current.isEmpty then sweep else ⟨sweep.current.reverse :: sweep.closed, []⟩

/-- Add a point to the open segment. -/
def push (sweep : Sweep β) (point : β) : Sweep β :=
  ⟨sweep.closed, point :: sweep.current⟩

/-- Whether a point lies beyond a jump from the last point of the open segment. -/
def breaks (jumps : β → β → Bool) (sweep : Sweep β) (point : β) : Bool :=
  match sweep.current with
  | [] => false
  | last :: _ => jumps last point

/-- Take the next point. One that is not kept closes the open segment, and one
beyond a jump begins another segment. -/
def take (keeps : β → Bool) (jumps : β → β → Bool) (sweep : Sweep β) (point : β) : Sweep β :=
  if !keeps point then sweep.close
  else if sweep.breaks jumps point then sweep.close.push point
  else sweep.push point

/-- Take points from left to right. -/
def across (keeps : β → Bool) (jumps : β → β → Bool) (points : List β) : Sweep β :=
  points.foldl (take keeps jumps) start

/-- All segments from left to right. -/
def segments (sweep : Sweep β) : List (List β) :=
  sweep.close.closed.reverse

end Sweep

namespace Window

variable {α ε : Type} [Scalar α]

/-- The points of a function over the column borders of a window. -/
def points (f : α → Except ε α) (window : Window α) : Except ε (List (Point α)) :=
  (List.range (window.columns + 1)).mapM fun index => do
    let x := window.abscissa index
    return ⟨x, ← f x⟩

/-- Join neighbouring points into segments, without those that are not finite. -/
def segments (limit : Option (Number α)) (points : List (Point α)) : List (Segment α) :=
  (Sweep.across Point.isFinite (Point.jumps limit) points).segments

/-- The segments of a function over a window. -/
def sample (f : α → Except ε α) (limit : Option (Number α)) (window : Window α) :
    Except ε (List (Segment α)) :=
  (window.points f).map (segments limit)

end Window

end Calculator
