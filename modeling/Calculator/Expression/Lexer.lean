import Calculator.Expression.Token
import Calculator.Text.Blank
import Calculator.Text.Digit

/-!
# Splitting a source into tokens

White space parts tokens and is dropped. A number takes the longest run of
digits and points, which may hold one point and not be a point alone, and the
exponent after it when there is a whole one. An identifier takes the longest
run of letters. Every other token is a single character.
-/

namespace Calculator

/-- Why a source has no tokens. -/
inductive LexicalError
  | unrecognized (character : Char) (position : Nat)
  | secondPoint (position : Nat)
  | lonePoint (position : Nat)
  deriving DecidableEq, Repr

namespace LexicalError

/-- Where the offending character stands. -/
def position : LexicalError → Nat
  | .unrecognized _ position => position
  | .secondPoint position => position
  | .lonePoint position => position

/-- The offending character. -/
def character : LexicalError → Char
  | .unrecognized character _ => character
  | .secondPoint _ => '.'
  | .lonePoint _ => '.'

/-- The wording of the error. -/
def message : LexicalError → String
  | .unrecognized character position =>
      "Unrecognized character '" ++ character.toString ++ s!"' at position {position}"
  | .secondPoint position => s!"Second decimal point in number at position {position}"
  | .lonePoint position => s!"Decimal point without digits at position {position}"

end LexicalError

namespace Lexer

/-- Whether a character is one of the ASCII letters of either case. -/
def isLetter (c : Char) : Bool :=
  ('a' ≤ c && c ≤ 'z') || ('A' ≤ c && c ≤ 'Z')

/-- Whether a character may stand in the run that begins a number. -/
def isNumeral (c : Char) : Bool :=
  Digit.isAscii c || c = '.'

/-- The exponent at the front of a text: a mark, an optional sign and at least
one digit. It is empty when one of them is missing. -/
def exponentPart : List Char → List Char
  | [] => []
  | mark :: rest =>
      if mark = 'e' || mark = 'E' then
        match rest with
        | [] => []
        | sign :: after =>
            if sign = '+' || sign = '-' then
              match after.takeWhile Digit.isAscii with
              | [] => []
              | digits => mark :: sign :: digits
            else
              match (sign :: after).takeWhile Digit.isAscii with
              | [] => []
              | digits => mark :: digits
      else []

/-- The offset of the second point of a run, if it has one. The flag says
whether a point came before. -/
def secondPoint? : Bool → List Char → Option Nat
  | _, [] => none
  | seen, c :: rest =>
      if c = '.' then
        if seen then some 0 else (secondPoint? true rest).map (· + 1)
      else (secondPoint? seen rest).map (· + 1)

/-- The number at the front of a text. -/
def number (position : Nat) (text : List Char) : Except LexicalError (List Char) :=
  let run := text.takeWhile isNumeral
  match secondPoint? false run with
  | some offset => .error (.secondPoint (position + offset))
  | none =>
      if run = ['.'] then .error (.lonePoint position)
      else .ok (run ++ exponentPart (text.dropWhile isNumeral))

/-- The kind of a token that is a single character. -/
def singleKind? (c : Char) : Option Token.Kind :=
  if c = '+' || c = '-' || c = '*' || c = '/' || c = '^' then some .operator
  else if c = '(' then some .opener
  else if c = ')' then some .closer
  else if c = ',' then some .comma
  else none

/-- The kind and the characters of the token that begins with a given
character. -/
def lexeme (position : Nat) (c : Char) (rest : List Char) :
    Except LexicalError (Token.Kind × List Char) :=
  if isNumeral c then
    (number position (c :: rest)).map fun text => (.number, text)
  else if isLetter c then
    .ok (.identifier, (c :: rest).takeWhile isLetter)
  else
    match singleKind? c with
    | some kind => .ok (kind, [c])
    | none => .error (.unrecognized c position)

/-- The tokens of a text that begins at `position`. The first `skip` characters
belong to a token that has been read already. -/
def scan (position : Nat) : (skip : Nat) → List Char → Except LexicalError (List Token)
  | _, [] => .ok [Token.finish position]
  | skip + 1, _ :: rest => scan (position + 1) skip rest
  | 0, c :: rest =>
      if isBlank c then scan (position + 1) 0 rest
      else
        match lexeme position c rest with
        | .error error => .error error
        | .ok (kind, text) =>
            (scan (position + 1) (text.length - 1) rest).map
              (⟨kind, String.ofList text, position⟩ :: ·)

/-- The tokens of a source, the last of which is the end of input. -/
def tokens (source : String) : Except LexicalError (List Token) :=
  scan 0 0 source.toList

end Lexer

end Calculator
