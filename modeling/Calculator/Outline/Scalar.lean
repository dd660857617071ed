import Calculator.Arithmetic.Double
import Calculator.Decimal.Reader
import Calculator.Text.Split
import Calculator.Value.Basic

/-!
# Scalars of outlines

What a scalar writes as a value or as a key. A scalar between quotes is a text.
A plain one is a null, a truth value or a number when it has the form of one,
and a text otherwise. Integers may be written to the bases two, eight, ten and sixteen, and
numbers also as hours, minutes and seconds.
-/

namespace Calculator
namespace Outline

/-- The white space within a line. -/
def isSpace (c : Char) : Bool :=
  c = ' ' || c = '\t'

/-- Whether a character begins a quoted text. -/
def isQuote (c : Char) : Bool :=
  c = '"' || c = '\''

/-! ## Quoted scalars -/

/-- The value of a hexadecimal digit. -/
def hexDigit? (c : Char) : Option Nat :=
  if Digit.isAscii c then some (c.toNat - '0'.toNat)
  else if 'a' ≤ c && c ≤ 'f' then some (c.toNat - 'a'.toNat + 10)
  else if 'A' ≤ c && c ≤ 'F' then some (c.toNat - 'A'.toNat + 10)
  else none

/-- The number that digits of a base write, at least one of them. -/
def wholeNumber? (base : Nat) (digits : List Char) : Option Nat :=
  if digits.isEmpty then none
  else
    digits.foldlM (fun n c => do
      let digit ← hexDigit? c
      if digit < base then some (base * n + digit) else none) 0

/-- The code points that single letters after a backslash stand for. Any other
character stands for itself. -/
def escapes : List (Char × Nat) :=
  [('0', 0x0), ('a', 0x7), ('b', 0x8), ('t', 0x9), ('n', 0xA), ('v', 0xB), ('f', 0xC),
    ('r', 0xD), ('e', 0x1B), ('_', 0xA0), ('N', 0x85), ('L', 0x2028), ('P', 0x2029)]

/-- What a single character after a backslash stands for. -/
def escapeOf (c : Char) : Char :=
  match escapes.lookup c with
  | some code => Char.ofNat code
  | none => c

/-- The number of hexadecimal digits after an escape letter. -/
def escapeWidth (c : Char) : Nat :=
  if c = 'x' then 2 else if c = 'u' then 4 else if c = 'U' then 8 else 0

/-- The text between double quotes, read from after the first one. The first
`skip` characters belong to an escape that has been read. -/
def doubleQuoted : (skip : Nat) → List Char → List Char
  | _, [] => []
  | skip + 1, _ :: rest => doubleQuoted skip rest
  | 0, '\\' :: letter :: rest =>
      let width := escapeWidth letter
      if 0 < width then
        Char.ofNat ((wholeNumber? 16 (rest.take width)).getD 0)
          :: doubleQuoted (width + 1) (letter :: rest)
      else escapeOf letter :: doubleQuoted 1 (letter :: rest)
  | 0, c :: rest => if c = '"' then [] else c :: doubleQuoted 0 rest

/-- The text between single quotes, read from after the first one. A quote
inside is written twice. -/
def singleQuoted : List Char → List Char
  | [] => []
  | '\'' :: '\'' :: rest => '\'' :: singleQuoted rest
  | c :: rest => if c = '\'' then [] else c :: singleQuoted rest

/-! ## Plain scalars -/

/-- A text without the low lines that group its digits. -/
def ungrouped (text : List Char) : List Char :=
  text.filter (· ≠ '_')

/-- Whether a character continues a run of digits. -/
def isGrouped (c : Char) : Bool :=
  Digit.isAscii c || c = '_'

/-- The number of minutes or seconds: one digit, or two of which the first is at
most five. -/
def sixtieth? : List Char → Option Nat
  | [digit] => wholeNumber? 10 [digit]
  | [tens, digit] => if tens ≤ '5' then wholeNumber? 10 [tens, digit] else none
  | _ => none

/-- The whole number of seconds, minutes or units of a time between colons. -/
def clock? (largest : List Char) (others : List (List Char)) : Option Nat := do
  let count ← wholeNumber? 10 (ungrouped largest)
  others.foldlM (fun total part => (sixtieth? part).map (60 * total + ·)) count

/-- The integer that a text without a sign writes. A leading zero announces
another base than ten. -/
def magnitude? : List Char → Option Nat
  | '0' :: 'b' :: digits => wholeNumber? 2 (ungrouped digits)
  | '0' :: 'x' :: digits => wholeNumber? 16 (ungrouped digits)
  | '0' :: digits => wholeNumber? 8 ('0' :: ungrouped digits)
  | first :: rest =>
      if Digit.isAscii first then
        match separated ':' (first :: rest) with
        | largest :: others => clock? largest others
        | [] => none
      else none
  | [] => none

/-- The integer that a text writes. -/
def integer? (text : List Char) : Option Int :=
  let (negative, body) := Decimal.splitSign text
  (magnitude? body).map (Binary.signed negative ·)

/-- Whether a text is empty or a complete exponent with a sign. -/
def isExponent : List Char → Bool
  | [] => true
  | mark :: sign :: digits =>
      (mark = 'e' || mark = 'E') && (sign = '+' || sign = '-') &&
        !digits.isEmpty && digits.all Digit.isAscii
  | _ => false

/-- Whether a text writes a decimal fraction: digits on the left of the point,
or digits on its right alone. -/
def isFraction : List Char → Bool
  | '.' :: first :: rest => Digit.isAscii first && isExponent (rest.dropWhile isGrouped)
  | first :: rest =>
      match rest.dropWhile isGrouped with
      | '.' :: places => Digit.isAscii first && isExponent (places.dropWhile isGrouped)
      | _ => false
  | [] => false

/-- Whether a text writes seconds with places after the point. -/
def isSecond (text : List Char) : Bool :=
  match text.dropWhile Digit.isAscii with
  | '.' :: places =>
      (sixtieth? (text.takeWhile Digit.isAscii)).isSome && places.all isGrouped
  | _ => false

/-- Whether the parts between colons write a time whose smallest part has
places after the point. The smallest part comes first. -/
def isTime : List (List Char) → Bool
  | smallest :: part :: parts =>
      let larger := part :: parts
      isSecond smallest && larger.dropLast.all (fun text => (sixtieth? text).isSome) &&
        (larger.getLast?.map fun largest =>
          (largest.head?.map Digit.isAscii).getD false && largest.all isGrouped).getD false
  | _ => false

/-- The number of a time, summed from its smallest part. -/
def timeValue (parts : List Float) : Float :=
  (parts.foldl
    (fun (total, weight) part => (total + part * Scalar.ofInt weight, weight * 60))
    (0.0, (1 : Int))).1

/-- The fraction that a text without a sign writes. -/
def fractionMagnitude? (body : List Char) : Option Float :=
  if isFraction body then Decimal.read? (ungrouped body)
  else
    let parts := (separated ':' body).reverse
    if isTime parts then
      (parts.mapM fun part => (Decimal.read? (ungrouped part) : Option Float)).map timeValue
    else none

/-- The fraction that a text writes. A text that begins with a point has no
sign. -/
def fraction? (text : List Char) : Option Float :=
  let (negative, body) := Decimal.splitSign text
  if text ≠ body && body.head? = some '.' then none
  else (fractionMagnitude? body).map fun x => if negative then -x else x

/-- The words for an absent value. -/
def nullWords : List String := ["", "~", "null", "Null", "NULL"]

/-- The words for a true value. -/
def trueWords : List String :=
  ["true", "True", "TRUE", "yes", "Yes", "YES", "on", "On", "ON"]

/-- The words for a false value. -/
def falseWords : List String :=
  ["false", "False", "FALSE", "no", "No", "NO", "off", "Off", "OFF"]

/-- The words for positive infinity. -/
def infinityWords : List String := [".inf", ".Inf", ".INF"]

/-- The words for the undefined number. -/
def undefinedWords : List String := [".nan", ".NaN", ".NAN"]

/-- The infinity or the undefined number that a text writes. -/
def special? (text : List Char) : Option Float :=
  let (negative, body) := Decimal.splitSign text
  if infinityWords.contains (String.ofList body) then
    some (if negative then -Scalar.infinity else Scalar.infinity)
  else if undefinedWords.contains (String.ofList text) then some Scalar.nan
  else none

/-- The number that a text writes. -/
def number? (text : List Char) : Option Key :=
  ((integer? text).map .int).or (((fraction? text).or (special? text)).map .float)

/-- What a scalar without quotes writes. -/
def plain (text : List Char) : Key :=
  let word := String.ofList text
  if nullWords.contains word then .null
  else if trueWords.contains word then .bool true
  else if falseWords.contains word then .bool false
  else (number? text).getD (.text word)

/-- The key that a scalar writes. -/
def keyOf : List Char → Key
  | '"' :: rest => .text (String.ofList (doubleQuoted 0 rest))
  | '\'' :: rest => .text (String.ofList (singleQuoted rest))
  | text => plain text

/-- The value of a scalar. Braces or brackets around nothing are an empty record
or list. -/
def scalar (text : List Char) : Value :=
  if text.filter (!isSpace ·) = ['{', '}'] then .record []
  else if text.filter (!isSpace ·) = ['[', ']'] then .list []
  else (keyOf text).toValue

end Outline
end Calculator
