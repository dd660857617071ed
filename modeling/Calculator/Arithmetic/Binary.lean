import Calculator.Arithmetic.Power

/-!
# Binary fractions

A double taken apart into a sign, a whole number and a power of two, and the
exact comparison of such a fraction with an integer.
-/

namespace Calculator

/-- What the sixty-four bits of a double stand for. A finite double is its
mantissa times two to its exponent. -/
inductive Binary
  | finite (negative : Bool) (mantissa : Nat) (exponent : Int)
  | infinite (negative : Bool)
  | undefined
  deriving DecidableEq, Repr

namespace Binary

/-- Take the bits of a double apart. -/
def ofBits (bits : Nat) : Binary :=
  let negative := bits / powerOfTwo 63 % 2 == 1
  let biased := bits / powerOfTwo 52 % powerOfTwo 11
  let fraction := bits % powerOfTwo 52
  if biased = powerOfTwo 11 - 1 then
    if fraction = 0 then .infinite negative else .undefined
  else if biased = 0 then .finite negative fraction (-1074)
  else .finite negative (fraction + powerOfTwo 52) (Int.ofNat biased - 1075)

/-- Take a double apart. -/
def ofFloat (x : Float) : Binary :=
  ofBits x.toBits.toNat

/-- A whole number under a sign. -/
def signed (negative : Bool) (magnitude : Nat) : Int :=
  if negative then -(magnitude : Int) else magnitude

/-- The exact order of a binary fraction and an integer. -/
def orderInt : Binary → Int → Option Ordering
  | .finite negative mantissa exponent, n =>
      if 0 ≤ exponent then
        some (compare (signed negative mantissa * powerOfTwo exponent.toNat) n)
      else
        some (compare (signed negative mantissa) (n * powerOfTwo (-exponent).toNat))
  | .infinite negative, _ => some (if negative then .lt else .gt)
  | .undefined, _ => none

/-- The integer that a binary fraction is, if it is whole. -/
def integer? : Binary → Option Int
  | .finite negative mantissa exponent =>
      if 0 ≤ exponent then some (signed negative (mantissa * powerOfTwo exponent.toNat))
      else
        let unit := powerOfTwo (-exponent).toNat
        if mantissa % unit = 0 then some (signed negative (mantissa / unit)) else none
  | _ => none

/-- Whether a binary fraction is an odd integer. -/
def isOdd : Binary → Bool
  | .finite _ mantissa exponent =>
      if 0 ≤ exponent then mantissa * powerOfTwo exponent.toNat % 2 == 1
      else mantissa % powerOfTwo ((-exponent).toNat + 1) == powerOfTwo (-exponent).toNat
  | _ => false

end Binary

end Calculator
