import Calculator.Arithmetic.Binary
import Calculator.Arithmetic.Scalar

/-!
# Doubles as scalars

The scalar operations of IEEE binary64 arithmetic. Sums, products, quotients
and square roots are rounded to nearest, ties to even.
-/

namespace Calculator

namespace Double

open Float.Model in
/-- The double nearest to the quotient of two positive whole numbers. -/
def ofRatio (numerator denominator : Nat)
    (numerator_pos : 0 < numerator) (denominator_pos : 0 < denominator) : Float :=
  ⟨pack (UnpackedFloat.div .binary64
    (.finite .positive numerator 0 numerator_pos)
    (.finite .positive denominator 0 denominator_pos))⟩

/-- The double nearest to the quotient of two integers, undefined over zero. -/
def quotient (n d : Int) : Float :=
  if denominator_pos : 0 < d.natAbs then
    if numerator_pos : 0 < n.natAbs then
      let x := ofRatio n.natAbs d.natAbs numerator_pos denominator_pos
      if (n < 0) = (d < 0) then x else -x
    else 0.0
  else 0.0 / 0.0

/-- The order of two doubles, absent when one is not a number. -/
def order (x y : Float) : Option Ordering :=
  if x < y then some .lt
  else if x == y then some .eq
  else if y < x then some .gt
  else none

end Double

instance : Scalar Float where
  ofInt := Float.ofInt
  quotient := Double.quotient
  order := Double.order
  orderInt x n := (Binary.ofFloat x).orderInt n
  isFinite := Float.isFinite
  isSigned x := x.toBits.toNat / powerOfTwo 63 == 1
  nan := 0.0 / 0.0
  infinity := 1.0 / 0.0
  abs := Float.abs

instance : Elementary Float where
  sqrt := Float.sqrt
  exp := Float.exp
  log := Float.log
  log10 := Float.log10
  sin := Float.sin
  cos := Float.cos
  tan := Float.tan
  pow := Float.pow
  isOdd x := (Binary.ofFloat x).isOdd

end Calculator
