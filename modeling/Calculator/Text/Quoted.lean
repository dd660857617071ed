import Calculator.Text.Printable

/-!
# Quoted text

Text between quotes, with everything escaped that would not show. Single quotes
enclose it unless it holds a single quote and no double one.
-/

namespace Calculator
namespace Quoted

/-- The last hexadecimal digits of a number, as many as asked for. -/
def hexDigits : Nat → Nat → List Char
  | 0, _ => []
  | width + 1, n => hexDigits width (n / 16) ++ [Nat.digitChar (n % 16)]

/-- The escape of a code point by its number. -/
def numbered (code : Nat) : List Char :=
  if code < 0x100 then '\\' :: 'x' :: hexDigits 2 code
  else if code < 0x10000 then '\\' :: 'u' :: hexDigits 4 code
  else '\\' :: 'U' :: hexDigits 8 code

/-- One character as it stands between the given quotes. -/
def escaped (quote c : Char) : List Char :=
  if c = quote || c = '\\' then ['\\', c]
  else if c = '\n' then ['\\', 'n']
  else if c = '\r' then ['\\', 'r']
  else if c = '\t' then ['\\', 't']
  else if Printable.isPrintable c then [c]
  else numbered c.toNat

/-- The quote that encloses a text. -/
def enclosing (text : List Char) : Char :=
  if text.contains '\'' && !text.contains '"' then '"' else '\''

end Quoted

/-- A text between quotes. -/
def quoted (text : String) : String :=
  let quote := Quoted.enclosing text.toList
  String.ofList (quote :: (text.toList.flatMap (Quoted.escaped quote) ++ [quote]))

end Calculator
