import Calculator.Outline.Reader
import Calculator.Settings.Profile

/-!
# Configurations that are written as outlines

The settings are about documents as values, of any shape. A document may be read from a text, as far
as that is an outline.
-/

namespace Calculator

/-- The document that a text writes. -/
def Document.ofText (text : String) : Document :=
  some (Outline.read text)

end Calculator
