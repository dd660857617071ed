import Calculator.Text.Split
import Calculator.Value.Basic

/-!
# Members of values

Settings are looked up in values of any shape. Records have members by key. A
text has its parts and a list has its items, which can be asked for but hold
nothing. Other values cannot even be asked.
-/

namespace Calculator

/-- Why a value cannot be read as settings. -/
inductive ShapeFault
  /-- The value has no such member, or no members at all. -/
  | noMember
  /-- The value has no entries. -/
  | noEntries
  /-- The names in the value have no common order. -/
  | noOrder
  /-- The value has no text. -/
  | noText
  | arithmetic (fault : Fault)
  deriving DecidableEq, Repr

namespace Value

/-- Whether a value is the given text. -/
def isText (text : String) : Value → Bool
  | .text value => value = text
  | _ => false

/-- Whether a value has a member of the given name. -/
def hasMember (name : String) : Value → Except ShapeFault Bool
  | .record entries => .ok (Entries.find? name entries).isSome
  | .text content => .ok (holdsPart name.toList content.toList)
  | .list items => .ok (items.any (isText name))
  | _ => .error .noMember

/-- The member of the given name. -/
def member (name : String) : Value → Except ShapeFault Value
  | .record entries =>
      match Entries.find? name entries with
      | some value => .ok value
      | none => .error .noMember
  | _ => .error .noMember

/-- The member of the given name, if a value has it. -/
def member? (name : String) (value : Value) : Except ShapeFault (Option Value) := do
  if ← value.hasMember name then return some (← value.member name) else return none

/-- The entries of a record. -/
def entries : Value → Except ShapeFault Entries
  | .record entries => .ok entries
  | _ => .error .noEntries

end Value

end Calculator
