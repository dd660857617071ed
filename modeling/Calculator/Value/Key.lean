import Calculator.Arithmetic.Double
import Calculator.Arithmetic.Number

/-!
# Keys

The entries of a record are found by keys, which are mostly texts but may be
numbers, truth values or null. Keys that are equal as numbers are one key, and a
truth value counts as zero or one. Texts have an order among themselves, and so
have numbers.
-/

namespace Calculator

/-- A key of a record. -/
inductive Key
  | null
  | bool (value : Bool)
  | int (value : Int)
  | float (value : Float)
  | text (value : String)
  deriving Inhabited

instance : Coe String Key := ⟨.text⟩

namespace Key

/-- What tells a key from other keys. -/
inductive Identity
  | null
  | whole (value : Int)
  | fraction (bits : Nat)
  | text (value : String)
  deriving DecidableEq, Repr

/-- The identity of a key, the same for all keys that are equal as numbers. -/
def identity : Key → Identity
  | .null => .null
  | .bool value => .whole value.toInt
  | .int value => .whole value
  | .float value =>
      match (Binary.ofFloat value).integer? with
      | some whole => .whole whole
      | none => .fraction value.toBits.toNat
  | .text value => .text value

@[simp] theorem identity_text (value : String) : (text value).identity = .text value :=
  rfl

/-- The number that a key counts as. -/
def number? : Key → Option (Number Float)
  | .bool value => some (.int value.toInt)
  | .int value => some (.int value)
  | .float value => some (.real value)
  | _ => none

/-- Whether two keys have an order: both are texts, or both count as numbers. -/
def isComparable : Key → Key → Bool
  | .text _, .text _ => true
  | a, b => a.number?.isSome && b.number?.isSome

/-- Whether a key may stand before another one in increasing order. Texts are
ordered by code point and numbers by size. -/
def mayPrecede : Key → Key → Bool
  | .text a, .text b => a ≤ b
  | a, b =>
      match a.number?, b.number? with
      | some a, some b => !b.less a
      | _, _ => true

/-- Keys in increasing order, if they have one. -/
def sorted? : List Key → Option (List Key)
  | [] => some []
  | first :: rest =>
      if rest.all first.isComparable then some ((first :: rest).mergeSort mayPrecede) else none

end Key

end Calculator
