import Calculator.Arithmetic.Scalar

/-!
# Simpson's rule

The integral of a function over an interval that is cut into an even number of
equal parts. Where the function is undefined at a node the integral is undefined
too. Only the mesh can be refused.
-/

namespace Calculator

/-- Why an interval is not cut. -/
inductive MeshError (α : Type)
  | boundsNotFinite (lower upper : α)
  | boundsReversed (lower upper : α)
  | tooFewParts (parts : Int)
  | arithmetic (fault : Fault)

/-- An interval cut into an even number of equal parts. -/
structure Mesh (α : Type) where
  lower : α
  upper : α
  parts : Nat
  two_le_parts : 2 ≤ parts
  parts_even : parts % 2 = 0

namespace Mesh

open Scalar

variable {α ε : Type} [Scalar α]

/-- The smallest even number that is at least `n`. -/
def evenAbove (n : Nat) : Nat :=
  n + n % 2

/-- Cut an interval into at least the given number of parts. -/
def cut (lower upper : α) (parts : Int) : Except (MeshError α) (Mesh α) :=
  if !(isFinite lower && isFinite upper) then .error (.boundsNotFinite lower upper)
  else if atMost upper lower then .error (.boundsReversed lower upper)
  else if enough : parts < 2 then .error (.tooFewParts parts)
  else
    let even := evenAbove parts.toNat
    match (ofInt? even : Except Fault α) with
    | .error fault => .error (.arithmetic fault)
    | .ok _ =>
        .ok ⟨lower, upper, even,
          by simp only [even, evenAbove]; omega,
          by simp only [even, evenAbove]; omega⟩

/-- The width of one part. -/
def width (mesh : Mesh α) : α :=
  (mesh.upper - mesh.lower) / ofInt mesh.parts

/-- The node between the parts, counted from the lower end. -/
def node (mesh : Mesh α) (index : Nat) : α :=
  mesh.lower + ofInt index * mesh.width

/-- The weight of an inner node: four for the middle of a pair of parts and two
for the border between two pairs. -/
def weight (index : Nat) : α :=
  if index % 2 = 1 then 4.0 else 2.0

/-- The inner nodes by their indices. -/
def innerIndices (mesh : Mesh α) : List Nat :=
  (List.range (mesh.parts - 1)).map (· + 1)

/-- The integral of `f`. The values at the two ends are added first and then the
weighted values at the inner nodes from left to right. -/
def integral (f : α → Except ε α) (mesh : Mesh α) : Except ε α := do
  let atLower ← f mesh.lower
  let atUpper ← f mesh.upper
  let total ← mesh.innerIndices.foldlM
    (fun total index => do
      let value ← f (mesh.node index)
      return total + weight index * value)
    (atLower + atUpper)
  return mesh.width / 3.0 * total

end Mesh

end Calculator
