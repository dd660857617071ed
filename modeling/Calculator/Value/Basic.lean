import Calculator.Value.Key

/-!
# Values

Settings, log fields and error details hold values of any kind. A record keeps
its entries in the order in which their keys first appeared.
-/

namespace Calculator

/-- A value of any kind. -/
inductive Value
  | null
  | bool (value : Bool)
  | int (value : Int)
  | float (value : Float)
  | text (value : String)
  | list (items : List Value)
  | record (entries : List (Key × Value))
  deriving Inhabited

/-- The entries of a record in order. -/
abbrev Entries := List (Key × Value)

namespace Entries

/-- The value at a key. -/
def find? (key : Key) : Entries → Option Value
  | [] => none
  | (name, value) :: rest =>
      if name.identity = key.identity then some value else find? key rest

/-- Set the value at a key. A key that is there stays as it is in its place, and
a new one comes last. -/
def put (key : Key) (value : Value) : Entries → Entries
  | [] => [(key, value)]
  | (name, old) :: rest =>
      if name.identity = key.identity then (name, value) :: rest
      else (name, old) :: put key value rest

/-- The keys in order. -/
def keys (entries : Entries) : List Key :=
  entries.map Prod.fst

@[simp] theorem keys_cons (entry : Key × Value) (rest : Entries) :
    keys (entry :: rest) = entry.1 :: keys rest :=
  rfl

@[simp] theorem find?_put_self (key : Key) (value : Value) (entries : Entries) :
    (entries.put key value).find? key = some value := by
  induction entries with
  | nil => simp [put, find?]
  | cons entry rest restHypothesis =>
      by_cases same : entry.1.identity = key.identity <;>
        simp [put, find?, same, restHypothesis]

theorem find?_put_of_ne {key other : Key} (different : other.identity ≠ key.identity)
    (value : Value) (entries : Entries) :
    (entries.put key value).find? other = entries.find? other := by
  induction entries with
  | nil => simp [put, find?, different.symm]
  | cons entry rest restHypothesis =>
      by_cases same : entry.1.identity = key.identity
      · simp [put, find?, same, different.symm]
      · simp [put, find?, same, restHypothesis]

/-- Setting the value at a key keeps the keys that are there and adds a new one
at the end. -/
theorem keys_put (key : Key) (value : Value) (entries : Entries) :
    (entries.put key value).keys =
      if key.identity ∈ entries.keys.map Key.identity then entries.keys
      else entries.keys ++ [key] := by
  induction entries with
  | nil => rfl
  | cons entry rest restHypothesis =>
      by_cases same : entry.1.identity = key.identity
      · simp [put, same]
      · by_cases present : key.identity ∈ (keys rest).map Key.identity <;>
          simp [put, same, Ne.symm same, present, restHypothesis, -List.mem_map]

/-- The entries of a sequence of pairs, in which a later pair wins. -/
def ofPairs (pairs : List (Key × Value)) : Entries :=
  pairs.foldl (fun entries (key, value) => put key value entries) []

end Entries

namespace Value

/-- Whether a value counts as present: neither null, false, zero nor empty. -/
def isTruthy : Value → Bool
  | .null => false
  | .bool value => value
  | .int value => value != 0
  | .float value => !Scalar.isZero value
  | .text value => value != ""
  | .list items => !items.isEmpty
  | .record entries => !entries.isEmpty

/-- The number that a value is; truth values are not numbers. -/
def number? : Value → Option (Number Float)
  | .int value => some (.int value)
  | .float value => some (.real value)
  | _ => none

/-- The integer that a value is, if it lies above zero. -/
def positiveInteger? : Value → Option Nat
  | .int (.ofNat (n + 1)) => some (n + 1)
  | _ => none

/-- The key that a value is; lists and records are not keys. -/
def key? : Value → Option Key
  | .null => some .null
  | .bool value => some (.bool value)
  | .int value => some (.int value)
  | .float value => some (.float value)
  | .text value => some (.text value)
  | .list _ => none
  | .record _ => none

/-- A number as a value. -/
def ofNumber : Number Float → Value
  | .int value => .int value
  | .real value => .float value

/-- An optional value, null when absent. -/
def ofOption {β : Type} (embed : β → Value) : Option β → Value
  | none => .null
  | some value => embed value

end Value

namespace Key

/-- A key as a value. -/
def toValue : Key → Value
  | .null => .null
  | .bool value => .bool value
  | .int value => .int value
  | .float value => .float value
  | .text value => .text value

@[simp] theorem key?_toValue (key : Key) : key.toValue.key? = some key := by
  cases key <;> rfl

/-- Whether a key counts as present: neither null, false, zero nor empty. -/
def isTruthy (key : Key) : Bool :=
  key.toValue.isTruthy

end Key

end Calculator
