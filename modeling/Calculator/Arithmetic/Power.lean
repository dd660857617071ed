/-!
# Powers of two and ten

The units that doubles and decimals are measured in.
-/

namespace Calculator

/-- Two to a power. -/
def powerOfTwo (exponent : Nat) : Nat :=
  Nat.pow 2 exponent

/-- Ten to a power. -/
def powerOfTen (exponent : Nat) : Nat :=
  Nat.pow 10 exponent

theorem powerOfTwo_pos (exponent : Nat) : 0 < powerOfTwo exponent :=
  Nat.pow_pos (by decide)

theorem powerOfTen_pos (exponent : Nat) : 0 < powerOfTen exponent :=
  Nat.pow_pos (by decide)

end Calculator
