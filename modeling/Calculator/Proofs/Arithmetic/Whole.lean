import Calculator.Arithmetic.Double
import Mathlib.Algebra.Group.Int.Even
import Mathlib.Algebra.Order.Ring.Int

/-!
# Doubles that are integers

A double is an integer when it compares as equal to one. Whether it is, and whether that integer is
odd, is decided on its mantissa and exponent.
-/

namespace Calculator

theorem powerOfTwo_succ (exponent : Nat) :
    powerOfTwo (exponent + 1) = powerOfTwo exponent * 2 :=
  Nat.pow_succ 2 exponent

namespace Binary

theorem signed_mul (negative : Bool) (magnitude unit : Nat) :
    signed negative (magnitude * unit) = signed negative magnitude * unit := by
  cases negative with
  | false => exact Int.natCast_mul magnitude unit
  | true =>
      change -((magnitude * unit : Nat) : Int) = -(magnitude : Int) * unit
      rw [Int.natCast_mul, Int.neg_mul]

theorem natAbs_signed (negative : Bool) (magnitude : Nat) :
    (signed negative magnitude).natAbs = magnitude := by
  cases negative with
  | false => exact Int.natAbs_natCast magnitude
  | true => exact (Int.natAbs_neg _).trans (Int.natAbs_natCast magnitude)

theorem odd_signed_iff {negative : Bool} {magnitude : Nat} :
    Odd (signed negative magnitude) ↔ Odd magnitude := by
  rw [← Int.natAbs_odd, natAbs_signed]

/-- The integer of a binary fraction is the one that it compares as equal to. -/
theorem integer?_eq_some_iff {fraction : Binary} {n : Int} :
    fraction.integer? = some n ↔ fraction.orderInt n = some .eq := by
  cases fraction with
  | undefined => exact iff_of_false nofun nofun
  | infinite negative => cases negative <;> exact iff_of_false nofun nofun
  | finite negative mantissa exponent =>
      rw [integer?, orderInt]
      split
      · rw [Option.some_inj, Option.some_inj, compare_eq_iff_eq, signed_mul]
      · have unit_pos := powerOfTwo_pos (-exponent).toNat
        rw [Option.some_inj, compare_eq_iff_eq]
        dsimp only
        generalize powerOfTwo (-exponent).toNat = unit at *
        split
        · next whole =>
          obtain ⟨count, rfl⟩ := Nat.dvd_of_mod_eq_zero whole
          rw [Nat.mul_comm, Nat.mul_div_cancel _ unit_pos, signed_mul, Option.some_inj,
            mul_left_inj' (Int.natCast_ne_zero.mpr unit_pos.ne')]
        · next broken =>
          refine iff_of_false nofun fun same => broken ?_
          rw [← natAbs_signed negative mantissa, same, Int.natAbs_mul, Int.natAbs_natCast,
            Nat.mul_mod_left]

/-- What remains of a mantissa over twice the unit is one unit when the mantissa is an odd number of
units. -/
theorem mod_twice_eq_iff {mantissa unit : Nat} (unit_pos : 0 < unit) :
    mantissa % (unit * 2) = unit ↔ mantissa % unit = 0 ∧ mantissa / unit % 2 = 1 := by
  have rest := Nat.mod_lt mantissa unit_pos
  rw [Nat.mod_mul]
  rcases Nat.mod_two_eq_zero_or_one (mantissa / unit) with even | odd
  · rw [even]
    omega
  · rw [odd]
    omega

/-- The parity that is read off the mantissa is that of the integer. -/
theorem isOdd_iff {fraction : Binary} :
    fraction.isOdd = true ↔ ∃ n, fraction.orderInt n = some .eq ∧ Odd n := by
  simp only [← integer?_eq_some_iff]
  cases fraction with
  | undefined | infinite => exact iff_of_false nofun (by rintro ⟨_, ⟨⟩, -⟩)
  | finite negative mantissa exponent =>
      rw [isOdd, integer?]
      split
      · simp [odd_signed_iff, Nat.odd_iff]
      · rw [powerOfTwo_succ, beq_iff_eq, mod_twice_eq_iff (powerOfTwo_pos _)]
        dsimp only
        split
        · next whole => simp [whole, odd_signed_iff, Nat.odd_iff]
        · next broken => simp [broken]

end Binary

namespace Double

/-- A double is an integer. -/
def IsWhole (x : Float) : Prop :=
  ∃ n : Int, Scalar.orderInt x n = some .eq

/-- A double is an odd integer. -/
def IsOdd (x : Float) : Prop :=
  ∃ n : Int, Scalar.orderInt x n = some .eq ∧ Odd n

theorem isOdd_iff {x : Float} : Elementary.isOdd x = true ↔ IsOdd x :=
  Binary.isOdd_iff

instance (x : Float) : Decidable (IsWhole x) :=
  decidable_of_iff ((Binary.ofFloat x).integer?.isSome = true)
    (Option.isSome_iff_exists.trans (exists_congr fun _ => Binary.integer?_eq_some_iff))

instance (x : Float) : Decidable (IsOdd x) :=
  decidable_of_iff (Elementary.isOdd x = true) isOdd_iff

end Double

end Calculator
