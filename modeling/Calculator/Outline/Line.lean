import Calculator.Outline.Scalar

/-!
# Lines of outlines

An outline split into lines, each with its key and the text after the key.
Comments and lines that hold nothing are dropped. A scalar between quotes may
run over several lines, which become one: the white space around a break is
dropped, a single break becomes a space, and of several all but the first stay.
-/

namespace Calculator
namespace Outline

/-- A line that holds something. The joint parts its text from that of the line
before when both belong to one scalar. -/
structure Line where
  indent : Nat
  joint : List Char
  key : Option (List Char)
  text : List Char

/-! ## Breaks -/

/-- Write every ordinary break as a line feed. -/
def unified : List Char → List Char
  | [] => []
  | '\r' :: '\n' :: rest => '\n' :: unified rest
  | c :: rest => (if c = '\r' || c.toNat = 0x85 then '\n' else c) :: unified rest

/-- Whether a character ends a line: a line feed, or one of the separators of
lines and paragraphs. -/
def isBreak (c : Char) : Bool :=
  c = '\n' || c.toNat = 0x2028 || c.toNat = 0x2029

/-- The stretches of a text between its breaks, each behind the break before
it. -/
def stretches (before : Char) : List Char → List (Char × List Char)
  | [] => [(before, [])]
  | c :: rest =>
      if isBreak c then (before, []) :: stretches c rest
      else
        match stretches before rest with
        | [] => [(before, [c])]
        | (mark, stretch) :: others => (mark, c :: stretch) :: others

/-- What stands for the breaks between two stretches of a scalar. -/
def folded : List Char → List Char
  | [] => []
  | first :: others =>
      if first ≠ '\n' then first :: others
      else if others.isEmpty then [' ']
      else others

/-! ## Parts of a line -/

/-- Where in a line a character stands: where a part may begin, in plain text,
between quotes, or after a part that has been closed. -/
inductive Place
  | fresh
  | plain (afterSpace : Bool)
  | quoted (mark : Char)
  | closed

/-- How a part ends: with its line, with the colon of a key, between quotes
that are still open, or with a backslash that hides the break. -/
inductive Ending
  | finished
  | colon (rest : List Char)
  | unclosed (mark : Char)
  | hidden

/-- How a part ends where its line does. -/
def Place.ending : Place → Ending
  | .quoted mark => .unclosed mark
  | _ => .finished

/-- Put characters before a part. -/
def prepend (characters : List Char) (part : List Char × Ending) : List Char × Ending :=
  (characters ++ part.1, part.2)

/-- Whether a colon before a text ends a key. -/
def endsKey (rest : List Char) : Bool :=
  (rest.head?.map isSpace).getD true

/-- Whether a text between quotes shows nothing more on its line. -/
def isTrailing (c : Char) (rest : List Char) : Bool :=
  isSpace c && rest.all isSpace

/-- The place behind the first character of a part. -/
def Place.opened (c : Char) : Place :=
  if isSpace c then .fresh
  else if isQuote c then .quoted c
  else if c = '\x7b' || c = '[' then .closed
  else .plain false

/-- The part at the front of a text and how it ends. -/
def part : Place → List Char → List Char × Ending
  | place, [] => ([], place.ending)
  | .quoted '"', ['\\'] => ([], .hidden)
  | .quoted '"', '\\' :: c :: rest => prepend ['\\', c] (part (.quoted '"') rest)
  | .quoted '\'', '\'' :: '\'' :: rest => prepend ['\'', '\''] (part (.quoted '\'') rest)
  | .quoted mark, c :: rest =>
      if c = mark then prepend [c] (part .closed rest)
      else if isTrailing c rest then ([], .unclosed mark)
      else prepend [c] (part (.quoted mark) rest)
  | .fresh, c :: rest =>
      if c = '#' then ([], .finished) else prepend [c] (part (.opened c) rest)
  | .plain afterSpace, c :: rest =>
      if c = '#' && afterSpace then ([], .finished)
      else if c = ':' && endsKey rest then ([], .colon rest)
      else prepend [c] (part (.plain (isSpace c)) rest)
  | .closed, c :: rest =>
      if c = '#' then ([], .finished)
      else if c = ':' && endsKey rest then ([], .colon rest)
      else prepend [c] (part .closed rest)

namespace Line

/-- The line of a stretch and how its text ends. -/
def ofStretch (joint stretch : List Char) : Line × Ending :=
  let bare := stretch.dropWhile (· = ' ')
  let indent := stretch.length - bare.length
  match part .fresh bare with
  | (key, .colon rest) =>
      let (text, ending) := part .fresh rest
      (⟨indent, joint, some (trimmed isSpace key), text.dropWhile isSpace⟩, ending)
  | (text, ending) => (⟨indent, joint, none, text⟩, ending)

/-- Continue the text of a line between quotes with a further stretch. -/
def resume (line : Line) (mark : Char) (joint stretch : List Char) : Line × Ending :=
  let (text, ending) := part (.quoted mark) (stretch.dropWhile isSpace)
  (⟨line.indent, line.joint, line.key, line.text ++ joint ++ text⟩, ending)

/-- A line without the white space behind its text. -/
def finish (line : Line) : Line :=
  ⟨line.indent, line.joint, line.key, trimmed isSpace line.text⟩

/-- Whether a line holds nothing. -/
def isBlank (line : Line) : Bool :=
  line.key.isNone && line.text.isEmpty

end Line

/-- A line whose quotes are still open, and whether a backslash hides the break
behind it. -/
structure OpenLine where
  line : Line
  mark : Char
  hidden : Bool

/-- The line that is still open after an ending, if it is. -/
def OpenLine.of? (line : Line) : Ending → Option OpenLine
  | .unclosed mark => some ⟨line, mark, false⟩
  | .hidden => some ⟨line, '"', true⟩
  | _ => none

/-- The lines of stretches, given the line that is still open and the breaks
since the last stretch that held anything, latest first. -/
def gather : Option OpenLine → (breaks : List Char) → List (Char × List Char) → List Line
  | none, _, [] => []
  | some pending, _, [] => [pending.line]
  | none, breaks, (mark, stretch) :: rest =>
      let (line, ending) := Line.ofStretch (folded (mark :: breaks).reverse) stretch
      match OpenLine.of? line ending with
      | some pending => gather (some pending) [] rest
      | none =>
          if line.isBlank then gather none (mark :: breaks) rest
          else line.finish :: gather none [] rest
  | some pending, breaks, (mark, stretch) :: rest =>
      if stretch.all isSpace then gather (some pending) (mark :: breaks) rest
      else
        let since := (mark :: breaks).reverse
        let joint := if pending.hidden then since.drop 1 else folded since
        let (line, ending) := pending.line.resume pending.mark joint stretch
        match OpenLine.of? line ending with
        | some further => gather (some further) [] rest
        | none => line.finish :: gather none [] rest

/-- The lines of an outline. A mark of the byte order may come before them. -/
def lines (text : List Char) : List Line :=
  gather none [] (stretches '\n' (unified (text.dropWhile (·.toNat = 0xFEFF))))

end Outline
end Calculator
