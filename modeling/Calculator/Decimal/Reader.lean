import Calculator.Arithmetic.Scalar
import Calculator.Text.Blank
import Calculator.Text.Digit

/-!
# Reading numbers

The number that a text stands for. Digits of any script count, a single low
line may part two digits, and infinities and the undefined value have words of
their own.
-/

namespace Calculator
namespace Decimal

/-- The blanks around a number, which do not include the information
separators. -/
def isPadding (c : Char) : Bool :=
  isBlank c && !(0x1C ≤ c.toNat && c.toNat ≤ 0x1F)

/-- Digits of any script become ASCII digits. -/
def asciiDigit (c : Char) : Char :=
  match Digit.value? c with
  | some value => Nat.digitChar value
  | none => c

/-- Drop the low lines, each of which has to stand between two digits. The flag
says whether a digit comes just before. -/
def withoutSeparators : Bool → List Char → Option (List Char)
  | _, [] => some []
  | afterDigit, '_' :: rest =>
      if afterDigit && (rest.head?.map Digit.isAscii).getD false then
        withoutSeparators false rest
      else none
  | _, c :: rest => (withoutSeparators (Digit.isAscii c) rest).map (c :: ·)

/-- The whole number that ASCII digits stand for. -/
def wholeNumber (digits : List Char) : Nat :=
  digits.foldl (fun n c => 10 * n + (c.toNat - '0'.toNat)) 0

/-- Split off a leading sign, true for minus. -/
def splitSign : List Char → Bool × List Char
  | '-' :: rest => (true, rest)
  | '+' :: rest => (false, rest)
  | rest => (false, rest)

/-- The power of ten after the digits of a number, zero when there is none. -/
def readExponent? : List Char → Option Int
  | [] => some 0
  | mark :: rest =>
      let (negative, digits) := splitSign rest
      if (mark = 'e' || mark = 'E') && !digits.isEmpty && digits.all Digit.isAscii then
        some (if negative then -(wholeNumber digits : Int) else wholeNumber digits)
      else none

/-- The number that an unsigned text of ASCII characters stands for: digits
around an optional point, at least one of them, and an optional exponent. -/
def readMagnitude? {α : Type} [Scalar α] (text : List Char) : Option α :=
  let whole := text.takeWhile Digit.isAscii
  let afterWhole := text.dropWhile Digit.isAscii
  let (places, tail) := match afterWhole with
    | '.' :: rest => (rest.takeWhile Digit.isAscii, rest.dropWhile Digit.isAscii)
    | rest => ([], rest)
  if whole.isEmpty && places.isEmpty then none
  else
    (readExponent? tail).map fun exponent =>
      let scale : Int := exponent - places.length
      OfScientific.ofScientific (wholeNumber (whole ++ places)) (decide (scale < 0)) scale.natAbs

/-- The number that an unsigned word stands for, in letters of either case. -/
def readWord? {α : Type} [Scalar α] (text : List Char) : Option α :=
  let word := text.map Char.toLower
  if word = "inf".toList || word = "infinity".toList then some Scalar.infinity
  else if word = "nan".toList then some Scalar.nan
  else none

/-- The number that a text stands for. -/
def read? {α : Type} [Scalar α] (text : List Char) : Option α := do
  let ascii := (trimmed isPadding text).map asciiDigit
  let (negative, body) := splitSign (← withoutSeparators false ascii)
  let magnitude ← (readWord? body).or (readMagnitude? body)
  return if negative then -magnitude else magnitude

end Decimal
end Calculator
