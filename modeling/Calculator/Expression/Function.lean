import Calculator.Arithmetic.Scalar

/-!
# Constants, functions and operators

What the names and signs of an expression stand for. Outside its domain an
operation is undefined and beyond the largest scalar it is infinite, so these
two faults are caught where they arise. No other fault would be.
-/

namespace Calculator

open Scalar Elementary

variable {α : Type} [Elementary α]

/-- The named constants. -/
inductive Constant
  | pi
  | e
  deriving DecidableEq, Repr

namespace Constant

/-- All constants. -/
def all : List Constant := [.pi, .e]

/-- The name of a constant. -/
def name : Constant → String
  | .pi => "pi"
  | .e => "e"

/-- The constant of a name. -/
def ofName? (text : String) : Option Constant :=
  all.find? (·.name = text)

theorem mem_all (constant : Constant) : constant ∈ all := by
  cases constant <;> decide

theorem ofName?_name (constant : Constant) : ofName? constant.name = some constant := by
  cases constant <;> rfl

theorem ofName?_eq_some_iff {text : String} {constant : Constant} :
    ofName? text = some constant ↔ text = constant.name := by
  constructor
  · intro found
    have named := List.find?_some found
    exact (of_decide_eq_true named).symm
  · rintro rfl
    exact ofName?_name constant

/-- The value of a constant. -/
def value : Constant → α
  | .pi => 3.141592653589793
  | .e => 2.718281828459045

end Constant

/-- The functions of one argument. -/
inductive Function
  | sin
  | cos
  | tan
  | log
  | ln
  | sqrt
  | abs
  | exp
  deriving DecidableEq, Repr

namespace Function

/-- All functions. -/
def all : List Function := [.sin, .cos, .tan, .log, .ln, .sqrt, .abs, .exp]

/-- The name of a function. -/
def name : Function → String
  | .sin => "sin"
  | .cos => "cos"
  | .tan => "tan"
  | .log => "log"
  | .ln => "ln"
  | .sqrt => "sqrt"
  | .abs => "abs"
  | .exp => "exp"

/-- The function of a name. -/
def ofName? (text : String) : Option Function :=
  all.find? (·.name = text)

theorem mem_all (function : Function) : function ∈ all := by
  cases function <;> decide

theorem ofName?_name (function : Function) : ofName? function.name = some function := by
  cases function <;> rfl

theorem ofName?_eq_some_iff {text : String} {function : Function} :
    ofName? text = some function ↔ text = function.name := by
  constructor
  · intro found
    have named := List.find?_some found
    exact (of_decide_eq_true named).symm
  · rintro rfl
    exact ofName?_name function

/-- A logarithm, undefined at zero and below. -/
def logarithm (log : α → α) (x : α) : Except Fault α :=
  if atMost x 0.0 then .ok nan else checked .domain log x

/-- The value of a function, with the faults of its argument reported. -/
def attempt : Function → α → Except Fault α
  | .sin, x => checked .domain Elementary.sin x
  | .cos, x => checked .domain Elementary.cos x
  | .tan, x => checked .domain Elementary.tan x
  | .log, x => logarithm Elementary.log10 x
  | .ln, x => logarithm Elementary.log x
  | .sqrt, x => checked .domain Elementary.sqrt x
  | .abs, x => .ok (Scalar.abs x)
  | .exp, x => checked .range Elementary.exp x

/-- The value of a function: undefined outside its domain and infinite beyond
the largest scalar. -/
def apply (function : Function) (x : α) : Except Fault α :=
  match function.attempt x with
  | .ok y => .ok y
  | .error .domain => .ok nan
  | .error .range => .ok infinity
  | .error fault => .error fault

end Function

/-- The names that no variable may have. -/
def reservedNames : List String :=
  Constant.all.map Constant.name ++ Function.all.map Function.name

theorem Constant.name_mem_reservedNames (constant : Constant) :
    constant.name ∈ reservedNames :=
  List.mem_append_left _ (List.mem_map_of_mem constant.mem_all)

theorem Function.name_mem_reservedNames (function : Function) :
    function.name ∈ reservedNames :=
  List.mem_append_right _ (List.mem_map_of_mem function.mem_all)

/-- No function is named like a constant. -/
theorem Constant.ofName?_functionName (function : Function) :
    Constant.ofName? function.name = none := by
  cases function <;> rfl

theorem Constant.ofName?_eq_none {text : String} (unreserved : text ∉ reservedNames) :
    Constant.ofName? text = none := by
  refine Option.eq_none_iff_forall_ne_some.mpr fun constant found => unreserved ?_
  rw [Constant.ofName?_eq_some_iff.mp found]
  exact constant.name_mem_reservedNames

theorem Function.ofName?_eq_none {text : String} (unreserved : text ∉ reservedNames) :
    Function.ofName? text = none := by
  refine Option.eq_none_iff_forall_ne_some.mpr fun function found => unreserved ?_
  rw [Function.ofName?_eq_some_iff.mp found]
  exact function.name_mem_reservedNames

/-- Division, where a zero divisor gives an infinity under both signs and no
value for a zero dividend. -/
def divide (left right : α) : Except Fault α :=
  if isZero right then
    if isZero left || isNaN left then .ok nan
    else .ok (withSignOf left infinity * withSignOf right 1.0)
  else divide? left right

/-- Exponentiation. A pole at zero and an overflow are infinite, negative when
an odd power is taken of a base below zero or of a negative zero, and a
fractional power of a negative base is undefined. -/
def power (base exponent : α) : Except Fault α :=
  match pow? base exponent with
  | .ok y => .ok y
  | .error .range =>
      .ok (if isNegative base && isOdd exponent then -infinity else infinity)
  | .error .domain =>
      if isZero base then
        .ok (if isOdd exponent then withSignOf base infinity else infinity)
      else .ok nan
  | .error fault => .error fault

/-- The signs before an operand. -/
inductive UnaryOperator
  | minus
  | plus
  deriving DecidableEq, Repr

namespace UnaryOperator

/-- The operator that a text writes. -/
def ofText? : String → Option UnaryOperator
  | "-" => some .minus
  | "+" => some .plus
  | _ => none

/-- The value of a signed operand. -/
def apply : UnaryOperator → α → α
  | .minus, x => -x
  | .plus, x => x

end UnaryOperator

/-- The signs between two operands. -/
inductive BinaryOperator
  | add
  | subtract
  | multiply
  | divide
  | power
  deriving DecidableEq, Repr

namespace BinaryOperator

/-- The operator that a text writes. -/
def ofText? : String → Option BinaryOperator
  | "+" => some .add
  | "-" => some .subtract
  | "*" => some .multiply
  | "/" => some .divide
  | "^" => some .power
  | _ => none

/-- The value of two operands. -/
def apply : BinaryOperator → α → α → Except Fault α
  | .add, x, y => .ok (x + y)
  | .subtract, x, y => .ok (x - y)
  | .multiply, x, y => .ok (x * y)
  | .divide, x, y => Calculator.divide x y
  | .power, x, y => Calculator.power x y

end BinaryOperator

end Calculator
