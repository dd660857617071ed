import Calculator.Arithmetic.Binary

/-!
# Shortest decimals

The decimal with the fewest digits that reads back to a given double, and the
decimal with a given number of digits that lies nearest to it. Both are found
by exact comparison of whole numbers.
-/

namespace Calculator

/-- A whole number of units, the unit being ten to the scale. -/
structure Decimal where
  coefficient : Nat
  scale : Int
  deriving DecidableEq, Repr

namespace Decimal

/-- The whole number nearest to a quotient, a half going to the even one. -/
def roundedQuotient (numerator denominator : Nat) : Nat :=
  let floor := numerator / denominator
  let rest := 2 * (numerator % denominator)
  if rest < denominator then floor
  else if denominator < rest then floor + 1
  else floor + floor % 2

/-- The quotient of these two is a quarter of two to `exponent`, measured in
units of ten to `scale`. -/
def quarterUnit (exponent scale : Int) : Nat × Nat :=
  (powerOfTwo (exponent - 2).toNat * powerOfTen (-scale).toNat,
    powerOfTen scale.toNat * powerOfTwo (2 - exponent).toNat)

/-- Whether ten to `power` is at most `mantissa` times two to `exponent`. -/
def reachesPower (mantissa : Nat) (exponent power : Int) : Bool :=
  let (quarter, unit) := quarterUnit exponent power
  unit ≤ 4 * mantissa * quarter

/-- The exponent of the leading decimal digit of a positive binary fraction. -/
def leadingExponent (mantissa : Nat) (exponent : Int) : Int :=
  let estimate := ((mantissa.log2 + exponent) * 30103).fdiv 100000
  if reachesPower mantissa exponent (estimate + 1) then estimate + 1
  else if reachesPower mantissa exponent estimate then estimate
  else estimate - 1

/-- Rounding up to the next power of ten keeps the number of digits. -/
def carried (digits : Nat) (d : Decimal) : Decimal :=
  if d.coefficient = powerOfTen digits then ⟨powerOfTen (digits - 1), d.scale + 1⟩ else d

/-- The decimal with the given number of digits nearest to a positive binary
fraction, a half going to the even coefficient. -/
def nearest (digits mantissa : Nat) (exponent : Int) : Decimal :=
  let scale := leadingExponent mantissa exponent + 1 - digits
  let (quarter, unit) := quarterUnit exponent scale
  carried digits ⟨roundedQuotient (4 * mantissa * quarter) unit, scale⟩

/-- The coefficient at a given scale that reads back to a positive double, the
nearer one where both neighbours of the double do. -/
def readingBack? (mantissa : Nat) (exponent scale : Int) : Option Nat :=
  let (quarter, unit) := quarterUnit exponent scale
  let value := 4 * mantissa * quarter
  let low :=
    if mantissa = powerOfTwo 52 && exponent > -1074 then value - quarter
    else value - 2 * quarter
  let high := value + 2 * quarter
  let inside := fun coefficient =>
    let point := coefficient * unit
    if mantissa % 2 = 0 then low ≤ point && point ≤ high
    else low < point && point < high
  let floor := value / unit
  match inside floor, inside (floor + 1) with
  | true, true => some (roundedQuotient value unit)
  | true, false => some floor
  | false, true => some (floor + 1)
  | false, false => none

/-- Seventeen digits always tell a double from its neighbours. -/
def sufficientDigits : Nat := 17

/-- The decimal with the fewest digits that reads back to a positive double. -/
def shortest (mantissa : Nat) (exponent : Int) : Decimal :=
  let leading := leadingExponent mantissa exponent
  let found := (List.range sufficientDigits).findSome? fun extra : Nat =>
    let scale := leading - Int.ofNat extra
    (readingBack? mantissa exponent scale).map fun coefficient =>
      carried (extra + 1) ⟨coefficient, scale⟩
  found.getD (nearest sufficientDigits mantissa exponent)

end Decimal

end Calculator
