import Calculator.Proofs.Arithmetic.Order
import Mathlib.Algebra.Order.Field.Power
import Mathlib.Algebra.Order.Ring.Rat
import Mathlib.Order.WithBot
import Mathlib.Tactic.GCongr
import Mathlib.Tactic.Positivity
import Mathlib.Tactic.Ring

/-!
# Numbers on the rational line

A finite double is a rational number and an infinite one lies at an end of the line.
Numbers are ordered as their places on the line, so their order is transitive, whether they
are integers or doubles.
-/

namespace Calculator

open Float.Model

/-- The rational line with an infinity at each end. -/
abbrev Line := WithBot (WithTop ℚ)

namespace Line

/-- The place of a rational number. -/
def ofRat (r : ℚ) : Line :=
  ((r : WithTop ℚ) : WithBot (WithTop ℚ))

theorem ofRat_strictMono : StrictMono ofRat :=
  WithBot.coe_strictMono.comp WithTop.coe_strictMono

theorem cmp_ofRat (r s : ℚ) : cmp (ofRat r) (ofRat s) = cmp r s :=
  ofRat_strictMono.cmp_map_eq r s

theorem bot_lt_ofRat (r : ℚ) : ⊥ < ofRat r :=
  WithBot.bot_lt_coe _

theorem ofRat_lt_top (r : ℚ) : ofRat r < ⊤ :=
  WithBot.coe_lt_coe.mpr (WithTop.coe_lt_top r)

theorem cmp_intCast (m n : Int) : cmp (ofRat m) (ofRat n) = compare m n := by
  rw [cmp_ofRat, Int.cast_strictMono.cmp_map_eq, cmp_eq_compare]

end Line

namespace Binary

/-- The rational number of a mantissa under a sign, times two to its exponent. -/
def rational (negative : Bool) (mantissa : Nat) (exponent : Int) : ℚ :=
  signed negative mantissa * 2 ^ exponent

/-- The place of a binary fraction on the line, if it is defined. -/
def place? : Binary → Option Line
  | .finite negative mantissa exponent => some (.ofRat (rational negative mantissa exponent))
  | .infinite negative => some (if negative then ⊥ else ⊤)
  | .undefined => none

/-- The order of a binary fraction and an integer is that of their places. -/
theorem orderInt_eq_cmp
    {x : Binary}
    {p : Line}
    (placed : x.place? = some p)
    (n : Int) :
    x.orderInt n = some (cmp p (.ofRat n)) := by
  cases x with
  | undefined => cases placed
  | infinite negative =>
      cases placed
      cases negative with
      | false => exact congrArg some (Line.ofRat_lt_top n).cmp_eq_gt.symm
      | true => exact congrArg some (Line.bot_lt_ofRat n).cmp_eq_lt.symm
  | finite negative mantissa exponent =>
      cases placed
      rw [orderInt]
      by_cases whole : 0 ≤ exponent
      · rw [if_pos whole]
        obtain ⟨power, rfl⟩ := Int.eq_ofNat_of_zero_le whole
        have same : rational negative mantissa power =
            ((signed negative mantissa * powerOfTwo power : Int) : ℚ) := by
          simp [rational, powerOfTwo]
        rw [same, Line.cmp_intCast, Int.toNat_natCast]
      · rw [if_neg whole]
        obtain ⟨power, rfl⟩ : ∃ power : Nat, exponent = -power :=
          ⟨exponent.natAbs, by omega⟩
        have unit : (0 : ℚ) < 2 ^ power := by positivity
        have same : rational negative mantissa (-power) * 2 ^ power =
            ((signed negative mantissa : Int) : ℚ) := by
          simp [rational]
        have scaled : (n : ℚ) * 2 ^ power = ((n * powerOfTwo power : Int) : ℚ) := by
          simp [powerOfTwo]
        rw [Line.cmp_ofRat, ← cmp_mul_pos_right unit, same, scaled, ← Line.cmp_ofRat,
          Line.cmp_intCast, neg_neg, Int.toNat_natCast]

/-- A binary fraction as a double has it. Its mantissa has at most fifty-three digits, and
fewer only under the least exponent. -/
def IsCanonical : Binary → Prop
  | .finite _ mantissa exponent =>
      mantissa < 2 ^ 53 ∧ -1074 ≤ exponent ∧ (exponent = -1074 ∨ 2 ^ 52 ≤ mantissa)
  | _ => True

theorem isCanonical_ofBits (bits : Nat) : (ofBits bits).IsCanonical := by
  have short : bits % powerOfTwo 52 < 2 ^ 52 := Nat.mod_lt _ (powerOfTwo_pos 52)
  rw [ofBits]
  split
  · split <;> trivial
  · split
    · exact ⟨by omega, by omega, .inl rfl⟩
    · rename_i filled
      have positive := Nat.pos_of_ne_zero filled
      refine ⟨?_, ?_, .inr ?_⟩
      · change bits % powerOfTwo 52 + 2 ^ 52 < 2 ^ 53
        omega
      · change _ ≤ ((bits / powerOfTwo 52 % powerOfTwo 11 : Nat) : Int) - 1075
        omega
      · exact Nat.le_add_left _ _

theorem isCanonical_parts (x : Float) : (ofParts (Double.parts x)).IsCanonical := by
  rw [← ofFloat_eq]
  exact isCanonical_ofBits _

/-- Of two canonical fractions the one with the smaller exponent is the smaller one. -/
theorem lt_of_exponent_lt
    {mantissa mantissa' : Nat}
    {exponent exponent' : Int}
    {negative negative' : Bool}
    (canonical : (finite negative mantissa exponent).IsCanonical)
    (canonical' : (finite negative' mantissa' exponent').IsCanonical)
    (less : exponent < exponent') :
    (mantissa : ℚ) * 2 ^ exponent < mantissa' * 2 ^ exponent' := by
  obtain ⟨short, least, -⟩ := canonical
  obtain ⟨-, -, full⟩ := canonical'
  have long : 2 ^ 52 ≤ mantissa' := full.resolve_left (by omega)
  calc (mantissa : ℚ) * 2 ^ exponent
      < 2 ^ 53 * 2 ^ exponent := by
        gcongr
        exact_mod_cast short
    _ = 2 ^ 52 * 2 ^ (exponent + 1) := by
        rw [zpow_add_one₀ two_ne_zero]
        ring
    _ ≤ mantissa' * 2 ^ exponent' := by
        gcongr
        · exact_mod_cast long
        · norm_num
        · omega

/-- Canonical fractions without a sign are ordered by their exponents and then by their
mantissas. -/
theorem compare_then_eq_cmp
    {mantissa mantissa' : Nat}
    {exponent exponent' : Int}
    {negative negative' : Bool}
    (canonical : (finite negative mantissa exponent).IsCanonical)
    (canonical' : (finite negative' mantissa' exponent').IsCanonical) :
    (compare exponent exponent').then (compare mantissa mantissa') =
      cmp ((mantissa : ℚ) * 2 ^ exponent) (mantissa' * 2 ^ exponent') := by
  rcases lt_trichotomy exponent exponent' with less | rfl | greater
  · rw [compare_lt_iff_lt.mpr less, (lt_of_exponent_lt canonical canonical' less).cmp_eq_lt]
    rfl
  · rw [compare_eq_iff_eq.mpr rfl, cmp_mul_pos_right (by positivity),
      Nat.strictMono_cast.cmp_map_eq, cmp_eq_compare]
    rfl
  · rw [compare_gt_iff_gt.mpr greater,
      (lt_of_exponent_lt canonical' canonical greater).cmp_eq_gt]
    rfl

/-! The rational numbers of parts: a zero, and a magnitude under either sign. -/

theorem rational_zero (negative : Bool) (exponent : Int) : rational negative 0 exponent = 0 := by
  cases negative <;> simp [rational, signed]

theorem rational_positive (mantissa : Nat) (exponent : Int) :
    rational false mantissa exponent = mantissa * 2 ^ exponent := by
  simp [rational, signed]

theorem rational_negative (mantissa : Nat) (exponent : Int) :
    rational true mantissa exponent = -(mantissa * 2 ^ exponent) := by
  simp [rational, signed]

variable {mantissa mantissa' : Nat} {exponent exponent' : Int}

theorem magnitude_pos (positive : 0 < mantissa) (exponent : Int) :
    (0 : ℚ) < mantissa * 2 ^ exponent := by
  positivity

/-- The sign of a finite part decides on which side of zero it lies. -/
theorem cmp_rational_zero
    {sign : UnpackedFloat.Sign}
    (positive : 0 < mantissa) :
    cmp (rational (sign == .negative) mantissa exponent) 0 =
      match sign with
      | .negative => .lt
      | .positive => .gt := by
  have magnitude := magnitude_pos positive exponent
  cases sign with
  | negative =>
      change cmp (rational true mantissa exponent) 0 = .lt
      rw [rational_negative]
      exact (neg_neg_of_pos magnitude).cmp_eq_lt
  | positive =>
      change cmp (rational false mantissa exponent) 0 = .gt
      rw [rational_positive]
      exact magnitude.cmp_eq_gt

/-- Finite parts of doubles are ordered like their rational numbers. -/
theorem compare_finite_eq_cmp
    {sign sign' : UnpackedFloat.Sign}
    (positive : 0 < mantissa)
    (positive' : 0 < mantissa')
    (canonical : (ofParts (.finite sign mantissa exponent positive)).IsCanonical)
    (canonical' : (ofParts (.finite sign' mantissa' exponent' positive')).IsCanonical) :
    UnpackedFloat.compare (.finite sign mantissa exponent positive)
        (.finite sign' mantissa' exponent' positive') =
      some (cmp (rational (sign == .negative) mantissa exponent)
        (rational (sign' == .negative) mantissa' exponent')) := by
  have magnitude := magnitude_pos positive exponent
  have magnitude' := magnitude_pos positive' exponent'
  have ordered := compare_then_eq_cmp canonical canonical'
  cases sign with
  | negative =>
      change _ = some (cmp (rational true mantissa exponent) _)
      rw [rational_negative]
      cases sign' with
      | negative =>
          change _ = some (cmp _ (rational true mantissa' exponent'))
          have reversing : StrictAnti (Neg.neg : ℚ → ℚ) := fun _ _ less => neg_lt_neg less
          rw [rational_negative, reversing.cmp_map_eq, ← cmp_swap, ← ordered]
          rfl
      | positive =>
          change _ = some (cmp _ (rational false mantissa' exponent'))
          rw [rational_positive, ((neg_neg_of_pos magnitude).trans magnitude').cmp_eq_lt]
          rfl
  | positive =>
      change _ = some (cmp (rational false mantissa exponent) _)
      rw [rational_positive]
      cases sign' with
      | negative =>
          change _ = some (cmp _ (rational true mantissa' exponent'))
          rw [rational_negative, ((neg_neg_of_pos magnitude').trans magnitude).cmp_eq_gt]
          rfl
      | positive =>
          change _ = some (cmp _ (rational false mantissa' exponent'))
          rw [rational_positive, ← ordered]
          rfl

/-- Parts of doubles are ordered like their places. -/
theorem compare_eq_cmp
    {a b : UnpackedFloat}
    (canonical : (ofParts a).IsCanonical)
    (canonical' : (ofParts b).IsCanonical)
    {p q : Line}
    (placed : (ofParts a).place? = some p)
    (placed' : (ofParts b).place? = some q) :
    a.compare b = some (cmp p q) := by
  cases a with
  | notANumber => cases placed
  | infinity sign =>
      cases b with
      | notANumber => cases placed'
      | infinity sign' =>
          cases placed
          cases placed'
          cases sign <;> cases sign'
          · exact congrArg some (cmp_self_eq_eq _).symm
          · exact congrArg some bot_lt_top.cmp_eq_lt.symm
          · exact congrArg some bot_lt_top.cmp_eq_gt.symm
          · exact congrArg some (cmp_self_eq_eq _).symm
      | zero sign' | finite sign' =>
          cases placed
          cases placed'
          cases sign with
          | negative => exact congrArg some (Line.bot_lt_ofRat _).cmp_eq_lt.symm
          | positive => exact congrArg some (Line.ofRat_lt_top _).cmp_eq_gt.symm
  | zero sign =>
      cases placed
      cases b with
      | notANumber => cases placed'
      | infinity sign' =>
          cases placed'
          cases sign' with
          | negative => exact congrArg some (Line.bot_lt_ofRat _).cmp_eq_gt.symm
          | positive => exact congrArg some (Line.ofRat_lt_top _).cmp_eq_lt.symm
      | zero sign' =>
          cases placed'
          rw [Line.cmp_ofRat, rational_zero, rational_zero, cmp_self_eq_eq]
          rfl
      | finite sign' mantissa' exponent' positive' =>
          cases placed'
          rw [Line.cmp_ofRat, rational_zero, ← cmp_swap, cmp_rational_zero positive']
          cases sign' <;> rfl
  | finite sign mantissa exponent positive =>
      cases placed
      cases b with
      | notANumber => cases placed'
      | infinity sign' =>
          cases placed'
          cases sign' with
          | negative => exact congrArg some (Line.bot_lt_ofRat _).cmp_eq_gt.symm
          | positive => exact congrArg some (Line.ofRat_lt_top _).cmp_eq_lt.symm
      | zero sign' =>
          cases placed'
          rw [Line.cmp_ofRat, rational_zero, cmp_rational_zero positive]
          cases sign <;> rfl
      | finite sign' mantissa' exponent' positive' =>
          cases placed'
          rw [Line.cmp_ofRat]
          exact compare_finite_eq_cmp positive positive' canonical canonical'

end Binary

namespace Number

/-- The place of a number on the line, if it is defined. -/
def place? : Number Float → Option Line
  | .int n => some (.ofRat n)
  | .real x => (Binary.ofFloat x).place?

theorem place?_eq_none_iff {a : Number Float} : a.place? = none ↔ a.isNaN = true := by
  cases a with
  | int n => exact iff_of_false nofun nofun
  | real x =>
      rw [place?, isNaN, Double.isNaN_iff, Binary.ofFloat_eq]
      cases Double.parts x with
      | notANumber => exact iff_of_true rfl rfl
      | infinity sign | zero sign | finite sign =>
          exact iff_of_false (Option.some_ne_none _) fun same => by cases same

/-- The order of two numbers is that of their places. -/
theorem order_eq_cmp
    {a b : Number Float}
    {p q : Line}
    (placed : a.place? = some p)
    (placed' : b.place? = some q) :
    order a b = some (cmp p q) := by
  cases a with
  | int m =>
      cases b with
      | int n =>
          cases placed
          cases placed'
          rw [order, Line.cmp_intCast]
      | real y =>
          cases placed
          have swapped := Binary.orderInt_eq_cmp placed' m
          change (Scalar.orderInt y m).map Ordering.swap = _
          rw [show Scalar.orderInt y m = _ from swapped, Option.map_some, cmp_swap]
  | real x =>
      cases b with
      | int n =>
          cases placed'
          exact Binary.orderInt_eq_cmp placed n
      | real y =>
          rw [place?, Binary.ofFloat_eq] at placed placed'
          rw [order, Double.scalar_order_eq]
          exact Binary.compare_eq_cmp (Binary.isCanonical_parts x) (Binary.isCanonical_parts y)
            placed placed'

theorem exists_places_of_order
    {a b : Number Float}
    {ordering : Ordering}
    (ordered : order a b = some ordering) :
    ∃ p q, a.place? = some p ∧ b.place? = some q ∧ cmp p q = ordering := by
  have defined : ¬(a.isNaN = true ∨ b.isNaN = true) := by
    rw [← order_eq_none_iff, ordered]
    exact nofun
  rw [not_or, ← place?_eq_none_iff, ← place?_eq_none_iff] at defined
  obtain ⟨p, placed⟩ := Option.ne_none_iff_exists'.mp defined.1
  obtain ⟨q, placed'⟩ := Option.ne_none_iff_exists'.mp defined.2
  rw [order_eq_cmp placed placed'] at ordered
  exact ⟨p, q, placed, placed', Option.some.inj ordered⟩

/-- A number is smaller than another one when its place is. -/
theorem less_iff_place
    {a b : Number Float} :
    less a b = true ↔ ∃ p q, a.place? = some p ∧ b.place? = some q ∧ p < q := by
  constructor
  · intro smaller
    obtain ⟨p, q, placed, placed', ordered⟩ := exists_places_of_order (less_iff.mp smaller)
    exact ⟨p, q, placed, placed', (cmp_eq_lt_iff p q).mp ordered⟩
  · rintro ⟨p, q, placed, placed', smaller⟩
    rw [less_iff, order_eq_cmp placed placed', smaller.cmp_eq_lt]

theorem atMost_iff_place
    {a b : Number Float} :
    atMost a b = true ↔ ∃ p q, a.place? = some p ∧ b.place? = some q ∧ p ≤ q := by
  constructor
  · intro ordered
    rw [atMost, Bool.or_eq_true, beq_iff_eq, beq_iff_eq] at ordered
    rcases ordered with smaller | same
    · obtain ⟨p, q, placed, placed', below⟩ := less_iff_place.mp (less_iff.mpr smaller)
      exact ⟨p, q, placed, placed', below.le⟩
    · obtain ⟨p, q, placed, placed', equal⟩ := exists_places_of_order same
      exact ⟨p, q, placed, placed', ((cmp_eq_eq_iff p q).mp equal).le⟩
  · rintro ⟨p, q, placed, placed', ordered⟩
    rw [atMost, order_eq_cmp placed placed']
    rcases ordered.lt_or_eq with below | rfl
    · rw [below.cmp_eq_lt]
      rfl
    · rw [cmp_self_eq_eq]
      rfl

/-- What is smaller than a number is smaller than one that is at least as large. -/
theorem less_of_less_of_atMost
    {a b c : Number Float}
    (smaller : less a b = true)
    (ordered : atMost b c = true) :
    less a c = true := by
  obtain ⟨p, q, placed, middle, below⟩ := less_iff_place.mp smaller
  obtain ⟨q', r, middle', placed', above⟩ := atMost_iff_place.mp ordered
  rw [middle] at middle'
  cases middle'
  exact less_iff_place.mpr ⟨p, r, placed, placed', below.trans_le above⟩

end Number
end Calculator
