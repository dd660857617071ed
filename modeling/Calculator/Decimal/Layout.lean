import Calculator.Decimal.Shortest

/-!
# The text of doubles

Three ways to write a double: by the fewest digits that read back, with a given
number of digits in scientific form, and with a given number of places.
-/

namespace Calculator
namespace Decimal

/-- The digits of the coefficient. -/
def digits (d : Decimal) : List Char :=
  Nat.toDigits 10 d.coefficient

/-- The exponent of the leading digit. -/
def leading (d : Decimal) : Int :=
  d.digits.length - 1 + d.scale

/-- The power of ten behind the exponent mark has a sign and at least two
digits. -/
def exponentText (exponent : Int) : List Char :=
  let power := Nat.toDigits 10 exponent.natAbs
  (if exponent < 0 then '-' else '+') ::
    (List.replicate (2 - power.length) '0' ++ power)

/-- One digit before the point and the power of ten after an `e`. -/
def scientific (d : Decimal) : List Char :=
  let power := exponentText d.leading
  match d.digits with
  | [] => []
  | [digit] => digit :: 'e' :: power
  | digit :: rest => digit :: '.' :: (rest ++ 'e' :: power)

/-- All digits around a point, with at least one digit on either side of it. -/
def positional (d : Decimal) : List Char :=
  let text := d.digits
  let whole := d.leading + 1
  if whole ≤ 0 then
    '0' :: '.' :: (List.replicate (-whole).toNat '0' ++ text)
  else if text.length ≤ whole.toNat then
    text ++ List.replicate (whole.toNat - text.length) '0' ++ ['.', '0']
  else text.take whole.toNat ++ '.' :: text.drop whole.toNat

/-- Positional where the leading digit stands between the fourth place and the
sixteenth digit, scientific elsewhere. -/
def plain (d : Decimal) : List Char :=
  if -4 ≤ d.leading && d.leading ≤ 15 then d.positional else d.scientific

end Decimal

namespace Double

/-- A sign before the text of a magnitude. -/
def underSign (negative : Bool) (magnitude : List Char) : String :=
  String.ofList (if negative then '-' :: magnitude else magnitude)

/-- The text of a double, given how its zero and its other finite magnitudes
are written. -/
def render (zero : List Char) (magnitude : Nat → Int → List Char) (x : Float) : String :=
  match Binary.ofFloat x with
  | .undefined => "nan"
  | .infinite negative => underSign negative "inf".toList
  | .finite negative mantissa exponent =>
      underSign negative (if mantissa = 0 then zero else magnitude mantissa exponent)

/-- A double by the fewest digits that read back to it. -/
def text (x : Float) : String :=
  render "0.0".toList (fun mantissa exponent => (Decimal.shortest mantissa exponent).plain) x

/-- A double in scientific form with a given number of digits. -/
def significant (digits : Nat) (x : Float) : String :=
  render
    (('0' :: if digits ≤ 1 then [] else '.' :: List.replicate (digits - 1) '0') ++ "e+00".toList)
    (fun mantissa exponent => (Decimal.nearest digits mantissa exponent).scientific)
    x

/-- A double with a given number of places after the point. -/
def fixed (places : Nat) (x : Float) : String :=
  let layout := fun (units : Nat) =>
    let all := Nat.toDigits 10 units
    let padded := List.replicate (places + 1 - all.length) '0' ++ all
    let whole := padded.length - places
    padded.take whole ++ (if places = 0 then [] else '.' :: padded.drop whole)
  render (layout 0)
    (fun mantissa exponent =>
      let (quarter, unit) := Decimal.quarterUnit exponent (-(places : Int))
      layout (Decimal.roundedQuotient (4 * mantissa * quarter) unit))
    x

end Double

end Calculator
