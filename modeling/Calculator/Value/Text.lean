import Calculator.Decimal.Layout
import Calculator.Text.Quoted
import Calculator.Value.Basic

/-!
# The text of values

How a value appears in a message: texts between quotes when inside another
value or inspected, and as they are when shown on their own.
-/

namespace Calculator

/-- A key with its text between quotes. -/
def Key.inspect : Key → String
  | .null => "None"
  | .bool true => "True"
  | .bool false => "False"
  | .int value => toString value
  | .float value => Double.text value
  | .text value => quoted value

namespace Value

mutual

/-- A value with its texts between quotes. -/
def inspect : Value → String
  | .null => Key.inspect .null
  | .bool value => Key.inspect (.bool value)
  | .int value => Key.inspect (.int value)
  | .float value => Key.inspect (.float value)
  | .text value => Key.inspect (.text value)
  | .list items => "[" ++ ", ".intercalate (inspectItems items) ++ "]"
  | .record entries => "\x7b" ++ ", ".intercalate (inspectEntries entries) ++ "\x7d"

/-- The items of a list, each inspected. -/
def inspectItems : List Value → List String
  | [] => []
  | item :: rest => inspect item :: inspectItems rest

/-- The entries of a record, each a key and a value. -/
def inspectEntries : List (Key × Value) → List String
  | [] => []
  | (key, value) :: rest => (key.inspect ++ ": " ++ inspect value) :: inspectEntries rest

end

/-- A value on its own, a text without quotes. -/
def shown : Value → String
  | .text value => value
  | value => inspect value

end Value

/-- The most digits that the text of an integer may have. -/
def digitLimit : Nat := 4300

/-- What is said of an integer with more digits. -/
def digitLimitMessage : String :=
  "Exceeds the limit (" ++ toString digitLimit
    ++ " digits) for integer string conversion; use sys.set_int_max_str_digits() to"
    ++ " increase the limit"

/-- Whether a key has a text. -/
def Key.isWritable : Key → Bool
  | .int value => value.natAbs < powerOfTen digitLimit
  | _ => true

namespace Value

mutual

/-- Whether a value has a text. An integer with too many digits has none, and neither has
a list or a record that holds one. -/
def isWritable : Value → Bool
  | .int value => Key.isWritable (.int value)
  | .list items => areWritable items
  | .record entries => areEntriesWritable entries
  | _ => true

/-- Whether the items of a list have texts. -/
def areWritable : List Value → Bool
  | [] => true
  | item :: rest => isWritable item && areWritable rest

/-- Whether the entries of a record have texts, the keys and the values. -/
def areEntriesWritable : List (Key × Value) → Bool
  | [] => true
  | (key, value) :: rest =>
      key.isWritable && isWritable value && areEntriesWritable rest

end

end Value

/-- A key on its own, a text without quotes. -/
def Key.shown (key : Key) : String :=
  key.toValue.shown

/-- The text of a number. -/
def Number.text (a : Number Float) : String :=
  (Value.ofNumber a).inspect

end Calculator
