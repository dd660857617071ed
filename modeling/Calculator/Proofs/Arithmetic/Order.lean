import Calculator.Arithmetic.Number
import Calculator.Outcome
import Calculator.Proofs.Arithmetic.Double

/-!
# The order of doubles and numbers

Two doubles have an order unless one of them is undefined, and so have two numbers. Seen
from the other side the order is turned round. A zero of either sign lies where the
integer zero does.
-/

namespace Calculator

open Scalar

namespace Double

variable {x y : Float}

theorem scalar_order_eq (x y : Float) : Scalar.order x y = (parts x).compare (parts y) :=
  order_eq x y

theorem orderInt_eq (x : Float) (n : Int) :
    Scalar.orderInt x n = (Binary.ofParts (parts x)).orderInt n :=
  congrArg (Binary.orderInt · n) (Binary.ofFloat_eq x)

theorem isNaN_iff : isNaN x = true ↔ parts x = .notANumber := by
  rw [isNaN, scalar_order_eq, Option.isNone_iff_eq_none, compare_eq_none_iff, or_self_iff]

theorem isNaN_of_isFinite (finite : isFinite x = true) : isNaN x = false := by
  refine Bool.eq_false_iff.mpr fun undefined => ?_
  change (parts x).isFinite = true at finite
  rw [isNaN_iff.mp undefined] at finite
  cases finite

/-- The magnitude of a finite double is a number. -/
theorem isNaN_abs_of_isFinite (finite : isFinite x = true) : isNaN (Scalar.abs x) = false := by
  refine Bool.eq_false_iff.mpr fun undefined => ?_
  have number : (parts x).abs ≠ .notANumber := by
    change (parts x).isFinite = true at finite
    generalize parts x = a at finite
    cases a with
    | notANumber => cases finite
    | infinity sign | zero sign | finite sign => exact nofun
  exact unpack_pack_ne_notANumber number (isNaN_iff.mp undefined)

theorem isZero_iff : isZero x = true ↔ ∃ sign, parts x = .zero sign := by
  rw [isZero, same, scalar_order_eq, parts_zero]
  generalize parts x = a
  constructor
  · intro zero
    rcases a with (_ | _) | _ | sign | ⟨_ | _, mantissa, exponent, _⟩
    case zero => exact ⟨sign, rfl⟩
    all_goals cases zero
  · rintro ⟨sign, rfl⟩
    rfl

end Double

namespace Number

/-- Whether a number is undefined, which an integer never is. -/
def isNaN {α : Type} [Scalar α] : Number α → Bool
  | .int _ => false
  | .real x => Scalar.isNaN x

@[simp] theorem isNaN_int {α : Type} [Scalar α] (n : Int) :
    (int n : Number α).isNaN = false :=
  rfl

variable {a b : Number Float}

/-- Two numbers in the other order compare the other way round. -/
theorem map_swap_order (a b : Number Float) : (order a b).map Ordering.swap = order b a := by
  cases a with
  | int m =>
      cases b with
      | int n => exact congrArg some Std.OrientedOrd.eq_swap.symm
      | real y =>
          rw [order, order]
          rcases Scalar.orderInt y m with _ | _ | _ | _ <;> rfl
  | real x =>
      cases b with
      | int n => rfl
      | real y =>
          rw [order, order, Double.scalar_order_eq, Double.scalar_order_eq,
            Double.map_swap_compare]

/-- Only an undefined number has no order. -/
theorem order_eq_none_iff : order a b = none ↔ a.isNaN = true ∨ b.isNaN = true := by
  cases a with
  | int m =>
      cases b with
      | int n => simp [order, isNaN]
      | real y =>
          simp [order, isNaN, Double.orderInt_eq, Binary.orderInt_eq_none_iff, Double.isNaN_iff]
  | real x =>
      cases b with
      | int n =>
          simp [order, isNaN, Double.orderInt_eq, Binary.orderInt_eq_none_iff, Double.isNaN_iff]
      | real y =>
          rw [order, Double.scalar_order_eq, Double.compare_eq_none_iff, isNaN, isNaN,
            Double.isNaN_iff, Double.isNaN_iff]

theorem less_iff : less a b = true ↔ order a b = some .lt := by
  simp [less]

theorem less_iff_swap : less a b = true ↔ order b a = some .gt := by
  rw [less_iff, ← map_swap_order b a]
  rcases order b a with _ | _ | _ | _ <;> simp

theorem atMost_iff_swap : atMost a b = true ↔ order b a = some .gt ∨ order b a = some .eq := by
  rw [atMost, ← map_swap_order b a]
  rcases order b a with _ | _ | _ | _ <;> simp

/-- A number that is not below or at another one lies above it or has no order with it. -/
theorem atMost_eq_false_iff :
    atMost a b = false ↔ less b a = true ∨ a.isNaN = true ∨ b.isNaN = true := by
  rw [← order_eq_none_iff, less_iff_swap, atMost]
  rcases order a b with _ | _ | _ | _ <;> simp

/-- A number that is not below another one lies at or above it or has no order with it. -/
theorem less_eq_false_iff :
    less a b = false ↔ atMost b a = true ∨ a.isNaN = true ∨ b.isNaN = true := by
  rw [← order_eq_none_iff, atMost_iff_swap, less]
  rcases order a b with _ | _ | _ | _ <;> simp

/-- A finite number is defined. -/
theorem isNaN_of_isFinite? (finite : a.isFinite? = .ok true) : a.isNaN = false := by
  cases a with
  | int n => rfl
  | real x => exact Double.isNaN_of_isFinite (Except.ok.inj finite)

/-- Of two finite numbers one is at or below the other, or the other strictly below it. -/
theorem atMost_eq_not_less
    (first : a.isFinite? = .ok true)
    (second : b.isFinite? = .ok true) :
    atMost b a = !less a b := by
  cases ordered : less a b with
  | true => exact atMost_eq_false_iff.mpr (.inl ordered)
  | false =>
      rcases less_eq_false_iff.mp ordered with reversed | undefined | undefined
      · exact reversed
      · rw [isNaN_of_isFinite? first] at undefined
        cases undefined
      · rw [isNaN_of_isFinite? second] at undefined
        cases undefined

/-- A number that is not refused as being at or below zero is positive unless undefined. -/
theorem zero_less_iff_of_not_atMost (passed : a.atMost (.int 0) = false) :
    less (.int 0) a = true ↔ a.isNaN = false := by
  rw [atMost_eq_false_iff] at passed
  cases undefined : a.isNaN with
  | false => simpa [undefined] using passed
  | true => simp [less, order_eq_none_iff.mpr (.inr undefined)]

/-- A number that is not refused as being below zero is not negative unless undefined. -/
theorem zero_atMost_iff_of_not_less (passed : a.less (.int 0) = false) :
    atMost (.int 0) a = true ↔ a.isNaN = false := by
  rw [less_eq_false_iff] at passed
  cases undefined : a.isNaN with
  | false => simpa [undefined] using passed
  | true => simp [atMost, order_eq_none_iff.mpr (.inr undefined)]

/-- An integer within range becomes the scalar nearest to it. -/
theorem ofInt?_eq_ok_iff
    {α : Type}
    [Scalar α]
    {n : Int}
    {x : α} :
    ofInt? n = .ok x ↔ Scalar.isFinite x = true ∧ ofInt n = x := by
  rw [ofInt?]
  split
  · rename_i finite
    exact ⟨fun same => by cases same; exact ⟨finite, rfl⟩, fun same => congrArg _ same.2⟩
  · rename_i infinite
    exact ⟨nofun, fun same => absurd (same.2 ▸ same.1) infinite⟩

/-- A number within range has the scalar that it becomes. -/
theorem toScalar_of_toScalar?
    {α : Type}
    [Scalar α]
    {number : Number α}
    {x : α}
    (inRange : number.toScalar? = .ok x) :
    number.toScalar = x := by
  cases number with
  | int n => exact (ofInt?_eq_ok_iff.mp inRange).2
  | real y => exact Except.ok.inj inRange

/-- A finite number is within the range of scalars. -/
theorem exists_toScalar?_of_isFinite? (finite : a.isFinite? = .ok true) :
    ∃ x, a.toScalar? = .ok x ∧ Scalar.isFinite x = true := by
  cases a with
  | int n =>
      obtain ⟨x, inRange, -⟩ := Outcome.map_eq_ok_iff.mp finite
      exact ⟨x, inRange, (ofInt?_eq_ok_iff.mp inRange).1⟩
  | real x => exact ⟨x, rfl, Except.ok.inj finite⟩

/-- The magnitude of a zero compares like the integer zero. -/
theorem order_abs_of_isZero
    {x : Float}
    (zero : isZero x = true)
    (b : Number Float) :
    order (.real (Scalar.abs x)) b = order (.int 0) b := by
  obtain ⟨sign, zero⟩ := Double.isZero_iff.mp zero
  have magnitude : Double.parts (Scalar.abs x) = .zero .positive :=
    Double.parts_abs_of_zero zero
  cases b with
  | int n =>
      rw [order, order, Double.orderInt_eq, magnitude]
      exact Binary.orderInt_of_mantissa_zero _ _ n
  | real y =>
      rw [order, order, Double.scalar_order_eq, magnitude, Double.orderInt_eq,
        Binary.orderInt_zero, Double.map_swap_compare]

end Number
end Calculator
