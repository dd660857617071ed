import Calculator.Outline.Line

/-!
# Outlines

Texts that write mappings by indentation: a line holds a key, a colon and an optional scalar. A key
without a scalar is followed by deeper lines or has no value. Comments run from a number sign to the
end of the line. A scalar may run over several lines that are indented more than its key.

These are a part of the texts that configurations may be written in. Sequences, braces and brackets
around anything, anchors, tags, block scalars, dates, merge keys and keys that are no scalars are
not read, and a malformed text is read as something rather than refused. What is said of settings
elsewhere is said of the values that texts write, and does not depend on how these are read.
-/

namespace Calculator
namespace Outline

/-- A scalar that begins with a text and goes on over further lines. -/
def joined (text : List Char) (further : List Line) : Value :=
  scalar (text ++ further.flatMap fun line => line.joint ++ line.text)

/-- The value of a block of lines, given the entries that they hold when they
are a mapping. -/
def block (entries : List (Key × Value)) : List Line → Value
  | [] => .null
  | first :: rest =>
      match first.key with
      | some _ => .record (Entries.ofPairs entries)
      | none => joined first.text rest

/-- The entries of a mapping. The lines below a key that are indented more
belong to its value. -/
def entries : List Line → List (Key × Value)
  | [] => []
  | line :: rest =>
      let inner := rest.takeWhile fun next => line.indent < next.indent
      let others := rest.dropWhile fun next => line.indent < next.indent
      match line.key with
      | none => entries others
      | some key =>
          let value :=
            if line.text.isEmpty then block (entries inner) inner else joined line.text inner
          (keyOf key, value) :: entries others
termination_by lines => lines.length
decreasing_by
  · exact Nat.lt_succ_of_le (List.dropWhile_sublist _).length_le
  · exact Nat.lt_succ_of_le (List.takeWhile_sublist _).length_le
  · exact Nat.lt_succ_of_le (List.dropWhile_sublist _).length_le

/-- Whether a line consists of a mark alone. -/
def Line.isMark (mark : String) (line : Line) : Bool :=
  line.key.isNone && line.indent = 0 && line.text = mark.toList

/-- The lines between the marks that may begin and end an outline. -/
def body (all : List Line) : List Line :=
  let begun := match all with
    | [] => []
    | first :: rest => if first.isMark "---" then rest else first :: rest
  begun.takeWhile fun line => !line.isMark "..."

/-- The value that an outline writes. -/
def read (text : String) : Value :=
  let content := body (lines text.toList)
  block (entries content) content

end Outline
end Calculator
